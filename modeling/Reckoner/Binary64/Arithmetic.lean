import Reckoner.Binary64.Round

namespace Reckoner.Binary64

def signedUnits (negative : Bool) (rank : Nat) : Int :=
  if negative then -(unitsOfRank rank) else unitsOfRank rank

-- A sum that is exactly zero is positive unless both terms are negative zeros.
def add : Binary64 → Binary64 → Binary64
  | nan, _ => nan
  | _, nan => nan
  | infinite s, infinite t => if s = t then infinite s else nan
  | infinite s, finite _ _ => infinite s
  | finite _ _, infinite t => infinite t
  | finite s a, finite t b =>
    let sum := signedUnits s a + signedUnits t b
    let negative := if sum = 0 then s && t else decide (sum < 0)
    ofUnits negative sum.natAbs 1

def sub (x y : Binary64) : Binary64 :=
  x.add y.negate

def mul : Binary64 → Binary64 → Binary64
  | nan, _ => nan
  | _, nan => nan
  | infinite s, infinite t => infinite (s ^^ t)
  | infinite s, finite t b => if b.val = 0 then nan else infinite (s ^^ t)
  | finite s a, infinite t => if a.val = 0 then nan else infinite (s ^^ t)
  | finite s a, finite t b => ofUnits (s ^^ t) (unitsOfRank a * unitsOfRank b) oneInUnits

def div : Binary64 → Binary64 → Binary64
  | nan, _ => nan
  | _, nan => nan
  | infinite _, infinite _ => nan
  | infinite s, finite t _ => infinite (s ^^ t)
  | finite s _, infinite t => finite (s ^^ t) zeroRank
  | finite s a, finite t b =>
    if b.val = 0 then
      if a.val = 0 then nan else infinite (s ^^ t)
    else
      ofUnits (s ^^ t) (oneInUnits * unitsOfRank a) (unitsOfRank b)

-- The power, as the platform's mathematical library rounds it.
def pow (x y : Binary64) : Binary64 :=
  let result := Float.pow (.ofBits (.ofNat x.toBits)) (.ofBits (.ofNat y.toBits))
  ofBits result.toBits.toNat

-- Out of range gives the nearest end of the range, and a NaN gives zero.
def toInt64 : Binary64 → Int64
  | nan => 0
  | infinite negative => if negative then Int64.minValue else Int64.maxValue
  | finite negative rank =>
    let whole : Int := (unitsOfRank rank / oneInUnits : Nat)
    .ofIntClamp (if negative then -whole else whole)

end Reckoner.Binary64
