import Reckoner.Console.Basic
import Reckoner.Console.Arguments

namespace Reckoner

namespace Program

inductive File where
  | missing
  | unreadable (reason : String)
  | bytes (content : ByteArray)

structure Exit where
  writes : List Console.Write
  code : UInt8

def decode (bytes : ByteArray) : Option (List Char) :=
  (String.fromUTF8? bytes).map String.toList

-- The last line has to end with a newline only if it is empty.
def inputLines (text : List Char) : List (List Char) :=
  let lines := text.splitOn '\n'
  if lines.getLast? = some [] then lines.dropLast else lines

def byteLines (bytes : ByteArray) : List ByteArray :=
  let lines := bytes.toList.splitOn 10
  let lines := if lines.getLast? = some [] then lines.dropLast else lines
  lines.map fun line => ⟨line.toArray⟩

-- Where not all of the input is text, each line is still taken for itself.
def inputs (bytes : ByteArray) : List Console.Input :=
  match decode bytes with
  | some text => (inputLines text).map some
  | none => (byteLines bytes).map decode

open Arguments in
def optionsOf (g : Given) : Console.Options :=
  ⟨g.has .tokens, g.has .ast, g.has .fancy⟩

-- Directives that make sense win; otherwise verbosity decides how much is told.
def filterOf (verbosity : Nat) (directives : Option String) : Journal.Filter :=
  (directives.bind Journal.Filter.ofText?).getD <| .upTo <| match verbosity with
    | 0 => .warn
    | 1 => .debug
    | _ => .trace

def startEntry (o : Console.Options) : Journal.Entry :=
  let shown := "Options \x7b show_tokens: " ++ toString o.showTokens
    ++ ", show_ast: " ++ toString o.showTree ++ ", fancy_errors: " ++ toString o.fancy ++ " \x7d"
  ⟨.debug, "njie", "starting", [("options", shown)]⟩

def scriptEntry (file : String) : Journal.Entry :=
  ⟨.info, "njie", "running script", [("file", file)]⟩

inductive Task where
  | script (file : String)
  | conversation

def taskOf (g : Arguments.Given) : Task :=
  match g.file with
  | some file => if g.has .interactive then .conversation else .script file
  | none => .conversation

def runScript (options : Console.Options) (filter : Journal.Filter) (name : String)
    (file : File) : Exit :=
  let unreadable (reason : String) : Exit :=
    ⟨[.err ("Error reading file '" ++ name ++ "': " ++ reason ++ "\n")], 1⟩
  match file with
  | .missing => ⟨[.err ("Error: File '" ++ name ++ "' not found\n")], 1⟩
  | .unreadable reason => unreadable reason
  | .bytes content =>
    match decode content with
    | none => unreadable "stream did not contain valid UTF-8"
    | some text =>
      let (writes, succeeded) := (Console.start options filter name).runScript
        (Console.scriptLines text)
      ⟨Console.logged filter [scriptEntry name] ++ writes, if succeeded then 0 else 1⟩

def conversation (options : Console.Options) (filter : Journal.Filter) : Console :=
  .start options filter "<stdin>"

def instead : Arguments.Instead → Exit
  | .help => ⟨[.out Arguments.helpText], 0⟩
  | .version => ⟨[.out "njie 0.1.0\n"], 0⟩
  | .refuse r => ⟨[.err r.text], 2⟩

def run (arguments : List String) (directives : Option String) (input : ByteArray)
    (open? : String → File) : Exit :=
  match Arguments.ofList arguments with
  | .error i => instead i
  | .ok given =>
    let options := optionsOf given
    let filter := filterOf given.verbosity directives
    let started := Console.logged filter [startEntry options]
    let exit := match taskOf given with
      | .script name => runScript options filter name (open? name)
      | .conversation =>
        ⟨Console.greeting :: (conversation options filter).converse (inputs input), 0⟩
    { exit with writes := started ++ exit.writes }

end Program

end Reckoner
