import Reckoner.Binary64.Round

namespace Reckoner

-- The number `digits * 10 ^ exponent`.
structure Decimal where
  digits : Nat
  exponent : Int
  deriving DecidableEq, Inhabited

namespace Decimal

def num (d : Decimal) : Nat :=
  d.digits * Nat.pow 10 d.exponent.toNat

def den (d : Decimal) : Nat :=
  Nat.pow 10 (-d.exponent).toNat

def toBinary64 (negative : Bool) (d : Decimal) : Binary64 :=
  .ofQuotient negative d.num d.den

def readsAs (d : Decimal) (rank : Nat) : Bool :=
  Binary64.nearestRank (Binary64.oneInUnits * d.num) d.den == rank

-- Where both read back as the number it is the nearer one.
def closest? (rank : Nat) (lower upper : Decimal) (lowerIsNearer : Bool) : Option Decimal :=
  match lower.readsAs rank, upper.readsAs rank with
  | true, true => some (if lowerIsNearer then lower else upper)
  | true, false => some lower
  | false, true => some upper
  | false, false => none

-- From halfway between the two grid points next to the number the upper one is taken.
def onGrid? (rank : Nat) (exponent : Int) : Option Decimal :=
  let num := Binary64.unitsOfRank rank * Nat.pow 10 (-exponent).toNat
  let den := Binary64.oneInUnits * Nat.pow 10 exponent.toNat
  closest? rank ⟨num / den, exponent⟩ ⟨num / den + 1, exponent⟩ (2 * (num % den) < den)

-- To halve is to take five times a tenth.
def halved (n times : Nat) : Decimal :=
  ⟨Nat.pow 5 times * n, -times⟩

def exact (rank : Nat) : Decimal :=
  halved (Binary64.unitsOfRank rank) Binary64.smallestPlaces

-- A power of ten above the number, read off its binary logarithm.
def topExponent (rank : Nat) : Int :=
  (((Binary64.unitsOfRank rank).log2 : Int) + 1 - Binary64.smallestPlaces) * 30103 / 100000 + 1

-- Seventeen digits always suffice, and the grids start at most three powers of ten above the first
-- digit.
def shortest (rank : Nat) : Decimal :=
  if rank = 0 then ⟨0, 0⟩
  else ((List.range 20).findSome? fun (i : Nat) =>
    onGrid? rank (topExponent rank - i)).getD (exact rank)

section Reading

open Binary64

theorem num_halved (n times : Nat) :
    Nat.pow 2 times * (halved n times).num = n * Nat.pow 10 times := by
  have hten : Nat.pow 2 times * Nat.pow 5 times = Nat.pow 10 times :=
    (Nat.mul_pow 2 5 times).symm
  have hzero : (-(times : Int)).toNat = 0 := by omega
  simp only [num, halved, hzero]
  rw [← hten, Nat.mul_comm n, ← Nat.mul_assoc, ← Nat.mul_assoc]
  simp

theorem den_halved (n times : Nat) : (halved n times).den = 1 * Nat.pow 10 times := by
  simp [den, halved]

theorem nearestRank_halved (n times : Nat) :
    nearestRank (Nat.pow 2 times * (halved n times).num) (halved n times).den
      = nearestRank n 1 := by
  rw [num_halved, den_halved]
  exact nearestRank_scale _ _ _ (Nat.pow_pos (by decide))

theorem readsAs_exact (rank : Nat) : (exact rank).readsAs rank = true := by
  have h := nearestRank_halved (unitsOfRank rank) smallestPlaces
  rw [nearestRank_unitsOfRank] at h
  rw [readsAs, exact, oneInUnits, h, beq_self_eq_true]

theorem readsAs_of_closest? {rank : Nat} {lower upper d : Decimal} {lowerIsNearer : Bool}
    (h : closest? rank lower upper lowerIsNearer = some d) : d.readsAs rank = true := by
  unfold closest? at h
  cases hl : lower.readsAs rank <;> cases hu : upper.readsAs rank <;>
    simp only [hl, hu, reduceCtorEq, Option.some.injEq] at h
  · exact h ▸ hu
  · exact h ▸ hl
  · split at h
    · exact h ▸ hl
    · exact h ▸ hu

theorem readsAs_shortest (rank : Nat) : (shortest rank).readsAs rank = true := by
  unfold shortest
  split
  · next h => subst h; decide +kernel
  · cases h : (List.range 20).findSome? fun (i : Nat) => onGrid? rank (topExponent rank - i) with
    | none => exact readsAs_exact rank
    | some d =>
      obtain ⟨i, _, hi⟩ := List.exists_of_findSome?_eq_some h
      exact readsAs_of_closest? hi

theorem toBinary64_shortest (negative : Bool) (rank : Fin rankCount) :
    (shortest rank).toBinary64 negative = .finite negative rank := by
  have h := eq_of_beq (readsAs_shortest rank)
  simp only [toBinary64, ofQuotient, Binary64.ofUnits, h, ofRank, rank.isLt, dif_pos]

end Reading

-- A zero stands in front of the point where no digit does.
def pointed (digits : List Char) (places : Nat) : List Char :=
  let padded := List.replicate (places + 1 - digits.length) '0' ++ digits
  padded.take (padded.length - places) ++ '.' :: padded.drop (padded.length - places)

def positional (d : Decimal) : List Char :=
  let digits := Nat.toDigits 10 d.digits
  if d.exponent < 0 then pointed digits (-d.exponent).toNat
  else digits ++ List.replicate d.exponent.toNat '0'

def scientific (d : Decimal) : List Char :=
  let digits := Nat.toDigits 10 d.digits
  let exponent := d.exponent + (digits.length - 1 : Nat)
  let mantissa := if digits.length = 1 then digits else pointed digits (digits.length - 1)
  mantissa ++ 'e' :: (toString exponent).toList

end Decimal

namespace Binary64

def textWith (magnitude : Fin rankCount → List Char) : Binary64 → String
  | nan => "NaN"
  | infinite negative => if negative then "-inf" else "inf"
  | finite negative rank => (if negative then "-" else "") ++ String.ofList (magnitude rank)

def plainText : Binary64 → String :=
  textWith fun rank => (Decimal.shortest rank).positional

end Binary64

end Reckoner
