import Reckoner.Binary64.Arithmetic
import Reckoner.Binary64.Decimal

namespace Reckoner

inductive Value where
  | int (n : Int64)
  | float (x : Binary64)
  | bool (b : Bool)
  deriving DecidableEq, Inhabited

namespace Value

def magnitude : Value → Binary64
  | int n => .ofInt n.toInt
  | float x => x
  | bool b => .ofInt b.toNat

def isInteger : Value → Bool
  | float _ => false
  | _ => true

def isTruthy (v : Value) : Bool :=
  !v.magnitude.isZero

-- Floats are compared as numbers, so a NaN differs from itself.
def same : Value → Value → Bool
  | int m, int n => m = n
  | float x, float y => x.eq y
  | bool a, bool b => a = b
  | _, _ => false

-- A whole float is written out exactly, so every finite one has a decimal point.
def floatText : Binary64 → String :=
  Binary64.textWith fun rank =>
    let units := Binary64.unitsOfRank rank
    if units % Binary64.oneInUnits = 0 then
      Nat.toDigits 10 (units / Binary64.oneInUnits) ++ ['.', '0']
    else
      (Decimal.shortest rank).positional

def text : Value → String
  | int n => toString n.toInt
  | float x => floatText x
  | bool true => "TRUE"
  | bool false => "FALSE"

end Value

end Reckoner
