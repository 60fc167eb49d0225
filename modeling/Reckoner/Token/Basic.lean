import Reckoner.Span
import Reckoner.Binary64.Decimal

namespace Reckoner

inductive Keyword where
  | var
  | and
  | or
  | not
  deriving DecidableEq, Inhabited

namespace Keyword

def word : Keyword → String
  | var => "VAR"
  | and => "AND"
  | or => "OR"
  | not => "NOT"

def all : List Keyword :=
  [var, and, or, not]

def ofWord? (s : String) : Option Keyword :=
  all.find? (·.word = s)

theorem ofWord?_eq_some_iff {s : String} {k : Keyword} : ofWord? s = some k ↔ k.word = s := by
  constructor
  · intro h
    simpa using List.find?_some h
  · rintro rfl
    cases k <;> decide

end Keyword

namespace Token

inductive Kind where
  | int
  | float
  | identifier
  | keyword (k : Keyword)
  | plus
  | minus
  | star
  | slash
  | caret
  | openParen
  | closeParen
  | assign
  | equal
  | notEqual
  | less
  | lessEqual
  | greater
  | greaterEqual
  | stop
  deriving DecidableEq, Inhabited

def Kind.symbol : Kind → String
  | int => "INT"
  | float => "FLOAT"
  | identifier => "IDENTIFIER"
  | keyword k => k.word
  | plus => "+"
  | minus => "-"
  | star => "*"
  | slash => "/"
  | caret => "^"
  | openParen => "("
  | closeParen => ")"
  | assign => "="
  | equal => "=="
  | notEqual => "!="
  | less => "<"
  | lessEqual => "<="
  | greater => ">"
  | greaterEqual => ">="
  | stop => "EOF"

inductive Payload where
  | int (n : Int64)
  | float (x : Binary64)
  | name (s : String)
  deriving DecidableEq, Inhabited

-- A float that is no number differs from itself.
def Payload.same : Payload → Payload → Bool
  | int m, int n => m = n
  | float x, float y => x.eq y
  | name s, name t => s = t
  | _, _ => false

end Token

-- Any kind may carry any payload; scanning gives each kind its own.
structure Token where
  kind : Token.Kind
  payload : Option Token.Payload
  span : Span
  deriving DecidableEq, Inhabited

namespace Token

def same (a b : Token) : Bool :=
  a.kind = b.kind && match a.payload, b.payload with
    | none, none => true
    | some p, some q => p.same q
    | _, _ => false

def name? (t : Token) : Option String :=
  match t.payload with
  | some (.name s) => some s
  | _ => none

-- A float is shown without a decimal point if it is whole.
def text (t : Token) : String :=
  match t.payload with
  | some (.int n) => "INT:" ++ toString n.toInt
  | some (.float x) => "FLOAT:" ++ x.plainText
  | some (.name s) => "IDENTIFIER:" ++ s
  | none => match t.kind with
    | .keyword k => "KEYWORD:" ++ k.word
    | kind => kind.symbol

-- One character long, though no character stands there.
def stopAt (p : Position) : Token :=
  ⟨.stop, none, .single p⟩

end Token

end Reckoner
