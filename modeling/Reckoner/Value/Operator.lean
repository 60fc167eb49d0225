import Reckoner.Value.Basic
import Reckoner.Token.Basic

namespace Reckoner

inductive Side where
  | left
  | right
  deriving DecidableEq

namespace Value

-- The operand of a prefix operator is its right one.
inductive Fault where
  | divisionByZero
  | notBoolean (operator : Keyword) (side : Side)
  deriving DecidableEq

def Fault.message : Fault → String
  | divisionByZero => "Division by zero"
  | notBoolean operator _ => "'" ++ operator.word ++ "' expects a boolean operand"

-- Between integers the result loses its fractional part.
def arithmetic (op : Binary64 → Binary64 → Binary64) (left right : Value) : Value :=
  let result := op left.magnitude right.magnitude
  if left.isInteger && right.isInteger then int result.toInt64 else float result

def comparison (test : Binary64 → Binary64 → Bool) (left right : Value) : Value :=
  bool (test left.magnitude right.magnitude)

-- The left operand is at fault if neither is a truth value.
def logic (operator : Keyword) (op : Bool → Bool → Bool) : Value → Value → Except Fault Value
  | bool a, bool b => .ok (bool (op a b))
  | bool _, _ => .error (.notBoolean operator .right)
  | _, _ => .error (.notBoolean operator .left)

def divide (left right : Value) : Except Fault Value :=
  if right.magnitude.isZero then .error .divisionByZero
  else .ok (arithmetic .div left right)

-- The least integer is its own negative.
def negate : Value → Value
  | int n => int (-n)
  | float x => float x.negate
  | bool b => int (-b.toInt.toInt64)

def invert : Value → Except Fault Value
  | bool b => .ok (bool !b)
  | _ => .error (.notBoolean .not .right)

end Value

inductive BinaryOperator where
  | add
  | subtract
  | multiply
  | divide
  | power
  | equal
  | notEqual
  | less
  | lessEqual
  | greater
  | greaterEqual
  | and
  | or
  deriving DecidableEq

namespace BinaryOperator

open Value in
def apply : BinaryOperator → Value → Value → Except Fault Value
  | add, left, right => .ok (arithmetic .add left right)
  | subtract, left, right => .ok (arithmetic .sub left right)
  | multiply, left, right => .ok (arithmetic .mul left right)
  | divide, left, right => left.divide right
  | power, left, right => .ok (arithmetic .pow left right)
  | equal, left, right => .ok (comparison Binary64.eq left right)
  | notEqual, left, right => .ok (comparison (fun x y => !x.eq y) left right)
  | less, left, right => .ok (comparison Binary64.less left right)
  | lessEqual, left, right => .ok (comparison Binary64.lessEq left right)
  | greater, left, right => .ok (comparison (fun x y => y.less x) left right)
  | greaterEqual, left, right => .ok (comparison (fun x y => y.lessEq x) left right)
  | and, left, right => logic .and Bool.and left right
  | or, left, right => logic .or Bool.or left right

def ofKind? : Token.Kind → Option BinaryOperator
  | .plus => some add
  | .minus => some subtract
  | .star => some multiply
  | .slash => some divide
  | .caret => some power
  | .equal => some equal
  | .notEqual => some notEqual
  | .less => some less
  | .lessEqual => some lessEqual
  | .greater => some greater
  | .greaterEqual => some greaterEqual
  | .keyword .and => some and
  | .keyword .or => some or
  | _ => none

end BinaryOperator

inductive UnaryOperator where
  | keep
  | negate
  | not
  deriving DecidableEq

namespace UnaryOperator

def apply : UnaryOperator → Value → Except Value.Fault Value
  | keep, v => .ok v
  | negate, v => .ok v.negate
  | not, v => v.invert

def ofKind? : Token.Kind → Option UnaryOperator
  | .plus => some keep
  | .minus => some negate
  | .keyword .not => some not
  | _ => none

end UnaryOperator

end Reckoner
