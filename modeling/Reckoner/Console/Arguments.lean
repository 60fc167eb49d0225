import Reckoner.Text.Similarity

namespace Reckoner

namespace Arguments

inductive Switch where
  | interactive
  | tokens
  | ast
  | fancy
  | verbose
  | help
  | version
  deriving DecidableEq

namespace Switch

def all : List Switch :=
  [interactive, tokens, ast, fancy, verbose, help, version]

def long : Switch → String
  | interactive => "interactive"
  | tokens => "tokens"
  | ast => "ast"
  | fancy => "fancy"
  | verbose => "verbose"
  | help => "help"
  | version => "version"

def short? : Switch → Option Char
  | interactive => some 'i'
  | verbose => some 'v'
  | help => some 'h'
  | version => some 'V'
  | tokens | ast | fancy => none

-- Dots say that the switch may be repeated.
def shown (s : Switch) : String :=
  "--" ++ s.long ++ if s = verbose then "..." else ""

-- The last of several that are equally similar is taken.
def similarTo? (name : List Char) : Option Switch :=
  let enough : Binary64 := .ofQuotient false 7 10
  let better (best : Option (Switch × Binary64)) (s : Switch) : Option (Switch × Binary64) :=
    let score := Text.similarity name s.long.toList
    if enough.less score && best.all (·.2.lessEq score) then some (s, score) else best
  (all.foldl better none).map (·.1)

end Switch

-- Switches stand in the order of their first use.
structure Given where
  switches : List Switch
  verbosity : Nat
  file : Option String
  deriving DecidableEq

namespace Given

def nothing : Given :=
  ⟨[], 0, none⟩

def has (g : Given) (s : Switch) : Bool :=
  g.switches.contains s

def also (g : Given) (s : Switch) : Given :=
  { g with switches := if g.has s then g.switches else g.switches ++ [s] }

def usage (g : Given) : String :=
  if g = nothing then "Usage: njie [OPTIONS] [FILE]"
  else
    "Usage: njie " ++ String.join (g.switches.map (·.shown ++ " "))
      ++ if g.file.isSome then "<FILE>" else "[FILE]"

end Given

inductive Refusal where
  | repeated (s : Switch)
  | valued (s : Switch) (value : String) (call : Given)
  | unexpected (argument : String) (escapable : Bool) (call : Given)
  | misspelt (argument : String) (meant : Switch) (call : Given)

namespace Refusal

def reason : Refusal → String
  | repeated s => "the argument '" ++ s.shown ++ "' cannot be used multiple times"
  | valued s value _ =>
    "unexpected value '" ++ value ++ "' for '" ++ s.shown ++ "' found; no more were expected"
  | unexpected argument _ _ | misspelt argument _ _ =>
    "unexpected argument '" ++ argument ++ "' found"

def tip : Refusal → String
  | unexpected argument true _ =>
    "  tip: to pass '" ++ argument ++ "' as a value, use '-- " ++ argument ++ "'\n\n"
  | misspelt _ meant _ => "  tip: a similar argument exists: '--" ++ meant.long ++ "'\n\n"
  | _ => ""

def call : Refusal → Given
  | repeated _ => .nothing
  | valued _ _ call | unexpected _ _ call | misspelt _ _ call => call

def text (r : Refusal) : String :=
  "error: " ++ r.reason ++ "\n\n" ++ r.tip ++ r.call.usage
    ++ "\n\nFor more information, try '--help'.\n"

end Refusal

inductive Instead where
  | help
  | version
  | refuse (r : Refusal)

-- Only verbosity may be given more than once.
def Given.give (g : Given) : Switch → Except Instead Given
  | .help => .error .help
  | .version => .error .version
  | .verbose => .ok { g.also .verbose with verbosity := g.verbosity + 1 }
  | s => if g.has s then .error (.refuse (.repeated s)) else .ok (g.also s)

def Given.giveFile (g : Given) (argument : String) : Except Instead Given :=
  match g.file with
  | none => .ok { g with file := some argument }
  | some _ => .error (.refuse (.unexpected argument false .nothing))

-- A long switch takes no value.
def long (g : Given) (name : List Char) (value? : Option String) : Except Instead Given :=
  match Switch.all.find? (·.long.toList = name), value? with
  | some s, none => g.give s
  | some s, some value => .error (.refuse (.valued s value (g.also s)))
  | none, _ =>
    let argument := "--" ++ String.ofList name
    .error <| .refuse <| match Switch.similarTo? name with
      | some meant => .misspelt argument meant (g.also meant)
      | none => .unexpected argument true g

def shorts (g : Given) : List Char → Except Instead Given
  | [] => .ok g
  | c :: rest =>
    match Switch.all.find? (·.short? = some c) with
    | some s => (g.give s).bind (shorts · rest)
    | none => .error (.refuse (.unexpected (String.ofList ['-', c]) true .nothing))

-- After two dashes alone all arguments are files.
def read (g : Given) (onlyFiles : Bool) : List String → Except Instead Given
  | [] => .ok g
  | argument :: rest =>
    match onlyFiles, argument.toList with
    | false, ['-', '-'] => read g true rest
    | false, '-' :: '-' :: name =>
      let value? := match name.dropWhile (· ≠ '=') with
        | _ :: value => some (String.ofList value)
        | [] => none
      (long g (name.takeWhile (· ≠ '=')) value?).bind (read · false rest)
    | false, '-' :: c :: more => (shorts g (c :: more)).bind (read · false rest)
    | _, _ => (g.giveFile argument).bind (read · onlyFiles rest)

def ofList (arguments : List String) : Except Instead Given :=
  read .nothing false arguments

def helpText : String :=
  "An interpreter for arithmetic and boolean expressions with variables\n\n"
    ++ "Usage: njie [OPTIONS] [FILE]\n\n"
    ++ "Arguments:\n"
    ++ "  [FILE]  Script to run, one expression per line\n\n"
    ++ "Options:\n"
    ++ "  -i, --interactive  Start in interactive REPL mode\n"
    ++ "      --tokens       Print the token list of every line before evaluating it\n"
    ++ "      --ast          Print the parenthesized syntax tree of every line\n"
    ++ "      --fancy        Report errors as colored diagnostics\n"
    ++ "  -v, --verbose...   Increase log output (-v debug, -vv trace)\n"
    ++ "  -h, --help         Print help\n"
    ++ "  -V, --version      Print version\n"

end Arguments

end Reckoner
