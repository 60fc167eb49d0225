namespace Reckoner

namespace Binary64

def fractionSize : Nat := Nat.pow 2 52

-- How many non-negative finite numbers there are.
def rankCount : Nat := 2047 * fractionSize

-- The smallest positive number is one divided by two this many times.
@[irreducible]
def smallestPlaces : Nat := 1074

@[irreducible]
def oneInUnits : Nat := Nat.pow 2 smallestPlaces

-- A rank in the first block has no leading one.
def significand (rank : Nat) : Nat :=
  if rank < fractionSize then rank else fractionSize + rank % fractionSize

def shift (rank : Nat) : Nat :=
  rank / fractionSize - 1

-- The number of a given rank, in units of the smallest positive number.
def unitsOfRank (rank : Nat) : Nat :=
  significand rank * Nat.pow 2 (shift rank)

end Binary64

-- There is one NaN, and a zero of either sign.
inductive Binary64 where
  | nan
  | infinite (negative : Bool)
  | finite (negative : Bool) (rank : Fin Binary64.rankCount)
  deriving DecidableEq

namespace Binary64

def zeroRank : Fin rankCount :=
  ⟨0, by decide⟩

def zero : Binary64 :=
  .finite false zeroRank

instance : Inhabited Binary64 := ⟨zero⟩

def negate : Binary64 → Binary64
  | nan => nan
  | infinite negative => infinite (!negative)
  | finite negative rank => finite (!negative) rank

theorem negate_negate (x : Binary64) : x.negate.negate = x := by
  cases x <;> simp [negate]

-- The two zeros stand together at zero, and a NaN has no place.
def place? : Binary64 → Option Int
  | nan => none
  | infinite negative => some (if negative then -rankCount else rankCount)
  | finite negative rank => some (if negative then -rank.val else rank.val)

def compareBy (test : Int → Int → Bool) (x y : Binary64) : Bool :=
  match x.place?, y.place? with
  | some a, some b => test a b
  | _, _ => false

def eq (x y : Binary64) : Bool :=
  compareBy (· == ·) x y

def less (x y : Binary64) : Bool :=
  compareBy (decide <| · < ·) x y

def lessEq (x y : Binary64) : Bool :=
  compareBy (decide <| · ≤ ·) x y

def isZero (x : Binary64) : Bool :=
  x.eq zero

def signBit : Nat := Nat.pow 2 63

-- NaN has the quiet pattern.
def toBits : Binary64 → Nat
  | nan => rankCount + fractionSize / 2
  | infinite negative => (if negative then signBit else 0) + rankCount
  | finite negative rank => (if negative then signBit else 0) + rank

def ofBits (bits : Nat) : Binary64 :=
  let negative := decide (signBit ≤ bits)
  let rank := bits % signBit
  if h : rank < rankCount then finite negative ⟨rank, h⟩
  else if rank = rankCount then infinite negative
  else nan

theorem ofBits_toBits (x : Binary64) : ofBits x.toBits = x := by
  have hsize : rankCount < signBit := by decide
  cases x with
  | nan => decide +kernel
  | infinite negative => cases negative <;> decide +kernel
  | finite negative rank =>
    have hrank : rank.val < signBit := Nat.lt_trans rank.isLt hsize
    cases negative with
    | false => simp [toBits, ofBits, Nat.mod_eq_of_lt hrank, Nat.not_le.mpr hrank]
    | true => simp [toBits, ofBits, Nat.mod_eq_of_lt hrank]

end Binary64

end Reckoner
