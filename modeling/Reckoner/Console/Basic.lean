import Reckoner.Session
import Reckoner.Journal
import Reckoner.Expr.Display
import Reckoner.Diagnostic.Render
import Reckoner.Diagnostic.Report
import Reckoner.Text.Blank
import Reckoner.Text.Quoted

namespace Reckoner

namespace Console

inductive Write where
  | out (text : String)
  | err (text : String)
  | log (entry : Journal.Entry)
  deriving DecidableEq

structure Options where
  showTokens : Bool
  showTree : Bool
  fancy : Bool
  deriving DecidableEq

end Console

structure Console where
  options : Console.Options
  filter : Journal.Filter
  session : Session
  store : Store

namespace Console

def start (options : Options) (filter : Journal.Filter) (name : String) : Console :=
  let (session, store) := Session.start name .empty
  ⟨options, filter, session, store⟩

def scanEntries (s : Session) (scan : Scan) : List Journal.Entry :=
  let tokens := scan.tokens.map fun t => ⟨.trace, "njie::lexer", "token", [("token", t.text)]⟩
  match scan.complete with
  | .error _ => tokens
  | .ok all =>
    tokens ++ [⟨.debug, "njie::lexer", "scanned tokens",
      [("source", Text.quoted s.name), ("count", toString all.length)]⟩]

def parseEntry (e : Expr) : Journal.Entry :=
  ⟨.debug, "njie::parser", "parsed expression", [("ast", e.text)]⟩

def evalEntry : Eval.Event → Journal.Entry
  | .read name => ⟨.trace, "njie::evaluator", "variable read", [("name", Text.quoted name)]⟩
  | .assigned name v =>
    ⟨.debug, "njie::evaluator", "assign", [("name", Text.quoted name), ("value", v.text)]⟩

def logged (filter : Journal.Filter) (entries : List Journal.Entry) : List Write :=
  (entries.filter filter.keeps).map .log

def failure (options : Options) (d : Diagnostic) : Write :=
  .err (if options.fancy then d.report else d.render)

def shownTokens (tokens : List Token) : Write :=
  .out ("[" ++ String.intercalate ", " (tokens.map Token.text) ++ "]\n")

structure Ran where
  console : Console
  writes : List Write
  succeeded : Bool

def evaluate (c : Console) (e : Expr) : Ran :=
  let (result, state) := c.session.frame.carryOut e c.store
  let events := logged c.filter (state.events.map evalEntry)
  let after := { c with store := state.store }
  match result with
  | .ok v => ⟨after, events ++ [.out (v.text ++ "\n")], true⟩
  | .error d => ⟨after, events ++ [failure c.options d], false⟩

def runLine (c : Console) (line : List Char) : Ran :=
  let scan := Scan.ofSource (c.session.source line)
  let scanned := logged c.filter (scanEntries c.session scan)
  match scan.complete with
  | .error d => ⟨c, scanned ++ [failure c.options d], false⟩
  | .ok tokens =>
    let scanned := scanned ++ if c.options.showTokens then [shownTokens tokens] else []
    match parse tokens with
    | .error d => ⟨c, scanned ++ [failure c.options d], false⟩
    | .ok e =>
      let parsed := logged c.filter [parseEntry e]
        ++ if c.options.showTree then [.out (e.text ++ "\n")] else []
      let ran := c.evaluate e
      { ran with writes := scanned ++ parsed ++ ran.writes }

def scriptLines (text : List Char) : List (List Char) :=
  ((text.splitOn '\n').map Text.trim).filter (!·.isEmpty)

-- Runs lines up to the first that fails, and says whether none did.
def runScript (c : Console) : List (List Char) → List Write × Bool
  | [] => ([], true)
  | line :: rest =>
    let ran := c.runLine line
    if ran.succeeded then
      let (writes, succeeded) := ran.console.runScript rest
      (ran.writes ++ writes, succeeded)
    else (ran.writes, false)

def greeting : Write :=
  .out "njie interpreter v0.1.0\nType 'exit' or press Ctrl+D to quit\n\n"

def prompt : Write :=
  .out "njie > "

-- A line whose bytes are no text is `none`.
abbrev Input := Option (List Char)

-- The console is gone if the conversation ends with the line.
def answer (c : Console) : Input → Option Console × List Write
  | none => (none, [.err "Error reading input: stream did not contain valid UTF-8\n"])
  | some line =>
    let line := Text.trim line
    if line.isEmpty then (some c, [])
    else if line = "exit".toList ∨ line = "quit".toList then (none, [.out "Goodbye!\n"])
    else
      let ran := c.runLine line
      (some ran.console, ran.writes)

-- The conversation ends where there is no further line of input.
def turn (c : Console) : Option Input → Option Console × List Write
  | none => (none, [.out "\n"])
  | some line => c.answer line

def converse (c : Console) : List Input → List Write
  | [] => prompt :: (c.turn none).2
  | line :: rest =>
    let (after, writes) := c.turn (some line)
    prompt :: writes ++ match after with
      | some c => c.converse rest
      | none => []

end Console

end Reckoner
