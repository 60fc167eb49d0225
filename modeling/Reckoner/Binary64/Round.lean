import Reckoner.Binary64.Basic

namespace Reckoner.Binary64

-- The natural number nearest to a quotient, the even one of two that are equally near.
def nearestEven (num den : Nat) : Nat :=
  let floor := num / den
  let double := 2 * (num % den)
  if double < den ∨ double = den ∧ floor % 2 = 0 then floor else floor + 1

theorem nearestEven_one (num : Nat) : nearestEven num 1 = num := by
  simp [nearestEven, Nat.mod_one]

theorem nearestEven_mul (m den : Nat) (h : 0 < den) : nearestEven (m * den) den = m := by
  simp [nearestEven, Nat.mul_div_cancel _ h, h]

theorem nearestEven_scale (num den k : Nat) (h : 0 < k) :
    nearestEven (num * k) (den * k) = nearestEven num den := by
  have hd : num * k / (den * k) = num / den := Nat.mul_div_mul_right _ _ h
  have hm : num * k % (den * k) = num % den * k := Nat.mul_mod_mul_right _ _ _
  have hlt : 2 * (num % den * k) < den * k ↔ 2 * (num % den) < den := by
    rw [← Nat.mul_assoc]; exact Nat.mul_lt_mul_right h
  have heq : 2 * (num % den * k) = den * k ↔ 2 * (num % den) = den := by
    rw [← Nat.mul_assoc]; exact Nat.mul_right_cancel_iff h
  simp only [nearestEven, hd, hm, hlt, heq]

-- How many low bits a quotient has beyond the 53 that a significand keeps.
def excessBits (num den : Nat) : Nat :=
  (num / den).log2 - 52

-- The ranks of one block of equal spacing follow each other and blocks are `fractionSize` apart, so
-- a significand that rounds up past its block lands on the first rank of the next one.
def nearestRank (num den : Nat) : Nat :=
  let excess := excessBits num den
  fractionSize * excess + nearestEven num (den * Nat.pow 2 excess)

theorem nearestRank_scale (num den k : Nat) (h : 0 < k) :
    nearestRank (num * k) (den * k) = nearestRank num den := by
  have hd : num * k / (den * k) = num / den := Nat.mul_div_mul_right _ _ h
  simp only [nearestRank, excessBits, hd]
  rw [Nat.mul_right_comm, nearestEven_scale _ _ _ h]

theorem unitsOfRank_of_lt {rank : Nat} (h : rank < 2 * fractionSize) : unitsOfRank rank = rank := by
  have hshift : shift rank = 0 := by
    have : rank / fractionSize < 2 := Nat.div_lt_of_lt_mul (by omega)
    unfold shift; omega
  have hsig : significand rank = rank := by
    unfold significand
    split
    · rfl
    · have : rank % fractionSize = rank - fractionSize := by
        rw [Nat.mod_eq_sub_mod (by omega), Nat.mod_eq_of_lt (by omega)]
      omega
  simp [unitsOfRank, hshift, hsig]

theorem log2_unitsOfRank {rank : Nat} (h : 2 * fractionSize ≤ rank) :
    (unitsOfRank rank).log2 = 52 + shift rank := by
  have hsize : fractionSize = 2 ^ 52 := rfl
  have hmod : rank % fractionSize < fractionSize := Nat.mod_lt _ (by decide)
  have hsig : significand rank = fractionSize + rank % fractionSize := if_neg (by omega)
  have hpow : 0 < 2 ^ shift rank := Nat.pow_pos (by decide)
  have hpos : unitsOfRank rank ≠ 0 := by
    have : 0 < significand rank * 2 ^ shift rank := Nat.mul_pos (by omega) hpow
    exact Nat.pos_iff_ne_zero.1 this
  rw [Nat.log2_eq_iff hpos]
  simp only [unitsOfRank, Nat.pow_eq, hsig]
  constructor
  · rw [Nat.pow_add]
    exact Nat.mul_le_mul_right _ (by omega)
  · rw [show 52 + shift rank + 1 = 53 + shift rank by omega, Nat.pow_add]
    exact Nat.mul_lt_mul_of_pos_right (by omega) hpow

theorem nearestRank_unitsOfRank (rank : Nat) : nearestRank (unitsOfRank rank) 1 = rank := by
  have hsize : fractionSize = 2 ^ 52 := rfl
  by_cases h : rank < 2 * fractionSize
  · have hexcess : excessBits rank 1 = 0 := by
      by_cases h0 : rank = 0
      · simp [excessBits, h0]
      · have : rank.log2 < 53 := (Nat.log2_lt h0).2 (by omega)
        simp [excessBits]
        omega
    simp [unitsOfRank_of_lt h, nearestRank, hexcess, nearestEven_one]
  · have hexcess : excessBits (unitsOfRank rank) 1 = shift rank := by
      simp [excessBits, log2_unitsOfRank (Nat.le_of_not_lt h)]
    have hround : nearestEven (unitsOfRank rank) (1 * Nat.pow 2 (shift rank))
        = significand rank := by
      rw [Nat.one_mul]
      exact nearestEven_mul _ _ (Nat.pow_pos (by decide))
    have hsig : significand rank = fractionSize + rank % fractionSize := if_neg (by omega)
    have hblock : 2 ≤ rank / fractionSize := (Nat.le_div_iff_mul_le (by decide)).2 (by omega)
    have hshift : fractionSize * shift rank + fractionSize
        = fractionSize * (rank / fractionSize) := by
      rw [← Nat.mul_succ, shift, Nat.succ_eq_add_one, Nat.sub_add_cancel (by omega)]
    have hdiv := Nat.div_add_mod rank fractionSize
    rw [nearestRank, hexcess, hround, hsig]
    omega

def ofRank (negative : Bool) (rank : Nat) : Binary64 :=
  if h : rank < rankCount then finite negative ⟨rank, h⟩ else infinite negative

def ofUnits (negative : Bool) (num den : Nat) : Binary64 :=
  ofRank negative (nearestRank num den)

def ofQuotient (negative : Bool) (num den : Nat) : Binary64 :=
  ofUnits negative (oneInUnits * num) den

def ofInt (n : Int) : Binary64 :=
  ofQuotient (decide (n < 0)) n.natAbs 1

end Reckoner.Binary64
