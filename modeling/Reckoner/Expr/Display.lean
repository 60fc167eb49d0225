import Reckoner.Expr.Basic

namespace Reckoner

namespace Expr

-- The rank of the least positive float that is written without a power of ten.
def leastPositional : Nat :=
  Binary64.nearestRank Binary64.oneInUnits (Nat.pow 10 4)

def leastTooLarge : Nat :=
  Binary64.nearestRank (Binary64.oneInUnits * Nat.pow 10 16) 1

def isPositional (rank : Nat) : Bool :=
  rank == 0 || leastPositional ≤ rank && rank < leastTooLarge

def floatText : Binary64 → String :=
  Binary64.textWith fun rank =>
    let decimal := Decimal.shortest rank
    if isPositional rank then
      if decimal.exponent < 0 then decimal.positional else decimal.positional ++ ['.', '0']
    else
      decimal.scientific

def numberText (token : Token) : String :=
  match token.payload with
  | some (.int n) => toString n.toInt
  | some (.float x) => floatText x
  | _ => token.text

def nameText (token : Token) : String :=
  token.name?.getD "?"

-- A prefix operator stands apart from its operand only if it is a word.
def prefixText (kind : Token.Kind) : String :=
  match kind with
  | .keyword k => k.word ++ " "
  | kind => kind.symbol

def text : Expr → String
  | number token => numberText token
  | binary left operator right =>
    "(" ++ left.text ++ " " ++ operator.kind.symbol ++ " " ++ right.text ++ ")"
  | unary operator operand => "(" ++ prefixText operator.kind ++ operand.text ++ ")"
  | var name => nameText name
  | assign name value => "(VAR " ++ nameText name ++ " = " ++ value.text ++ ")"

end Expr

end Reckoner
