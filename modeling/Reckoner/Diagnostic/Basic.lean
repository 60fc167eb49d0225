import Reckoner.Span

namespace Reckoner

namespace Diagnostic

-- The last three happen during evaluation.
inductive Kind where
  | illegalCharacter
  | expectedCharacter
  | invalidSyntax
  | divisionByZero
  | undefinedVariable
  | illegalOperation
  deriving DecidableEq, Inhabited

def Kind.isRuntime : Kind → Bool
  | illegalCharacter | expectedCharacter | invalidSyntax => false
  | divisionByZero | undefinedVariable | illegalOperation => true

def Kind.heading : Kind → String
  | illegalCharacter => "Illegal Character"
  | expectedCharacter => "Expected Character"
  | invalidSyntax => "Invalid Syntax"
  | divisionByZero | undefinedVariable | illegalOperation => "Runtime Error"

-- The line is counted from one.
structure Call where
  file : String
  line : Nat
  frame : String
  deriving DecidableEq, Inhabited

end Diagnostic

-- The traceback has the outermost call first.
structure Diagnostic where
  kind : Diagnostic.Kind
  details : String
  span : Span
  traceback : List Diagnostic.Call
  deriving DecidableEq, Inhabited

namespace Diagnostic

def text (d : Diagnostic) : String :=
  d.kind.heading ++ ": " ++ d.details

end Diagnostic

end Reckoner
