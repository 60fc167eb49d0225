import Reckoner.Token.Basic

namespace Reckoner

inductive Expr where
  | number (token : Token)
  | binary (left : Expr) (operator : Token) (right : Expr)
  | unary (operator : Token) (operand : Expr)
  | var (name : Token)
  | assign (name : Token) (value : Expr)
  deriving DecidableEq, Inhabited

namespace Expr

-- From the first to the last token of a tree. The keyword of an assignment and the parentheses
-- around a tree do not count.
def span : Expr → Span
  | number token => token.span
  | binary left _ right => left.span.through right.span
  | unary operator operand => operator.span.through operand.span
  | var name => name.span
  | assign name value => name.span.through value.span

def subtrees (e : Expr) : List Expr :=
  e :: match e with
    | number _ | var _ => []
    | binary left _ right => left.subtrees ++ right.subtrees
    | unary _ operand => operand.subtrees
    | assign _ value => value.subtrees

end Expr

end Reckoner
