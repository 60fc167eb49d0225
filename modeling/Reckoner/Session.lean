import Reckoner.Token.Scan
import Reckoner.Expr.Parse
import Reckoner.Expr.Eval

namespace Reckoner

structure Session where
  name : String
  scope : ScopeId
  deriving DecidableEq, Inhabited

namespace Session

def start (name : String) (store : Store) : Session × Store :=
  let (store, scope) := store.add .builtins
  (⟨name, scope⟩, store)

def source (s : Session) (line : List Char) : Source :=
  ⟨s.name, line⟩

def frame (s : Session) : Frame :=
  .program s.scope

def parseLine (s : Session) (line : List Char) : Except Diagnostic Expr :=
  (tokenize (s.source line)).bind parse

-- A line that cannot be parsed changes nothing.
def run (s : Session) (line : List Char) (store : Store) : Except Diagnostic Value × Store :=
  match s.parseLine line with
  | .error d => (.error d, store)
  | .ok e => s.frame.evaluate e store

end Session

end Reckoner
