import Mathlib
import Reckoner.Binary64.Arithmetic

namespace Reckoner.Binary64

section NearestEven

variable {num num' den n : Nat}

theorem div_le_nearestEven : num / den ≤ nearestEven num den := by
  simp only [nearestEven]
  split <;> omega

theorem nearestEven_le : nearestEven num den ≤ num / den + 1 := by
  simp only [nearestEven]
  split <;> omega

theorem nearestEven_mono (h : num ≤ num') : nearestEven num den ≤ nearestEven num' den := by
  rcases Nat.lt_or_eq_of_le (Nat.div_le_div_right h : num / den ≤ num' / den) with hlt | heq
  case inl => exact nearestEven_le.trans (Nat.le_trans hlt div_le_nearestEven)
  case inr =>
    -- With the same floor it is the remainders that are in order.
    have hnum := Nat.div_add_mod num den
    have hnum' := Nat.div_add_mod num' den
    rw [heq] at hnum
    have hmod : num % den ≤ num' % den := by omega
    simp only [nearestEven, heq]
    split <;> split <;> omega

-- What lies below halfway to the next natural number is not rounded up to it.
theorem nearestEven_le_of_lt (h : 2 * num < (2 * n + 1) * den) : nearestEven num den ≤ n := by
  have hden : 0 < den := Nat.pos_of_ne_zero fun hzero => by simp [hzero] at h
  have hnum := Nat.div_add_mod num den
  have hmod := Nat.mod_lt num hden
  have hfloor : num / den ≤ n := by
    refine Nat.lt_succ_iff.mp (Nat.div_lt_of_lt_mul ?_)
    nlinarith
  rcases Nat.lt_or_eq_of_le hfloor with hlt | heq
  case inl => exact nearestEven_le.trans hlt
  case inr =>
    have hhalf : 2 * (num % den) < den := by
      rw [heq] at hnum
      nlinarith
    simp only [nearestEven, hhalf, true_or, if_true, heq, le_refl]

end NearestEven

section Significand

variable {num num' den n e : Nat}

theorem fractionSize_eq : fractionSize = 2 ^ 52 := rfl

theorem excessBits_mono (h : num ≤ num') : excessBits num den ≤ excessBits num' den := by
  refine Nat.sub_le_sub_right ?_ 52
  rw [Nat.log2_eq_log_two, Nat.log2_eq_log_two]
  exact Nat.log_mono_right (Nat.div_le_div_right h)

theorem excessBits_le (h : num / den < 2 ^ (53 + e)) : excessBits num den ≤ e := by
  unfold excessBits
  by_cases hzero : num / den = 0
  case pos => simp [hzero]
  case neg =>
    have hlog := (Nat.log2_lt hzero).mpr h
    omega

theorem excessBits_pos (h : 2 ^ 53 ≤ num / den) : 0 < excessBits num den := by
  have hne : num / den ≠ 0 := Nat.pos_iff_ne_zero.mp (Nat.lt_of_lt_of_le (by decide) h)
  have hlog := (Nat.le_log2 hne).mpr h
  unfold excessBits
  omega

theorem div_lt_excess : num / den / 2 ^ excessBits num den < 2 * fractionSize := by
  refine Nat.div_lt_of_lt_mul ?_
  have hlt : num / den < 2 ^ ((num / den).log2 + 1) := Nat.lt_log2_self
  refine hlt.trans_le ?_
  rw [fractionSize_eq, ← Nat.pow_succ', ← Nat.pow_add]
  exact Nat.pow_le_pow_right (by decide) (by unfold excessBits; omega)

theorem le_div_excess (h : 0 < excessBits num den) :
    fractionSize ≤ num / den / 2 ^ excessBits num den := by
  have hlog : (num / den).log2 = 52 + excessBits num den := by
    unfold excessBits at h ⊢
    omega
  have hne : num / den ≠ 0 := by
    intro hzero
    rw [hzero, Nat.log2_zero] at hlog
    omega
  have hle := Nat.log2_self_le hne
  rw [hlog, Nat.pow_add] at hle
  exact (Nat.le_div_iff_mul_le (Nat.pow_pos (by decide))).mpr hle

-- The significand that a quotient is rounded to.
theorem nearestEven_excess_le : nearestEven num (den * 2 ^ excessBits num den) ≤ 2 * fractionSize :=
  nearestEven_le.trans (by
    rw [← Nat.div_div_eq_div_mul]
    exact div_lt_excess)

theorem le_nearestEven_excess (h : 0 < excessBits num den) :
    fractionSize ≤ nearestEven num (den * 2 ^ excessBits num den) := by
  refine (le_div_excess h).trans ?_
  rw [Nat.div_div_eq_div_mul]
  exact div_le_nearestEven

theorem unitsOfRank_block (h : n < fractionSize) :
    unitsOfRank (fractionSize * (e + 1) + n) = (fractionSize + n) * 2 ^ e := by
  have hpos : 0 < fractionSize := by decide
  have hle : fractionSize ≤ fractionSize * (e + 1) + n :=
    (Nat.le_mul_of_pos_right _ (Nat.succ_pos e)).trans (Nat.le_add_right ..)
  have hdiv : (fractionSize * (e + 1) + n) / fractionSize = e + 1 := by
    rw [Nat.mul_add_div hpos, Nat.div_eq_of_lt h, Nat.add_zero]
  have hmod : (fractionSize * (e + 1) + n) % fractionSize = n := by
    rw [Nat.mul_add_mod, Nat.mod_eq_of_lt h]
  rw [unitsOfRank, significand, if_neg (Nat.not_lt.mpr hle), hmod, shift, hdiv]
  rfl

theorem unitsOfRank_significand (h : n ≤ 2 * fractionSize) (hn : e = 0 ∨ fractionSize ≤ n) :
    unitsOfRank (fractionSize * e + n) = n * 2 ^ e := by
  rcases Nat.lt_or_ge n fractionSize with hlt | hge
  case inl =>
    obtain rfl : e = 0 := hn.resolve_right (Nat.not_le.mpr hlt)
    rw [Nat.mul_zero, Nat.zero_add, unitsOfRank_of_lt (by omega), Nat.pow_zero, Nat.mul_one]
  case inr =>
    obtain ⟨m, rfl⟩ := Nat.exists_eq_add_of_le hge
    rw [← Nat.add_assoc, ← Nat.mul_succ]
    rcases Nat.lt_or_eq_of_le (by omega : m ≤ fractionSize) with hlt | rfl
    case inl => exact unitsOfRank_block hlt
    case inr =>
      -- A significand that has grown by one bit stands at the beginning of the next block.
      have hnext := @unitsOfRank_block 0 (e + 1) (by decide)
      rw [Nat.add_zero, Nat.add_zero] at hnext
      rw [← Nat.mul_succ, hnext, Nat.pow_succ']
      ring

end Significand

section NearestRank

variable {num num' den n : Nat}

theorem unitsOfRank_nearestRank (num den : Nat) : unitsOfRank (nearestRank num den) =
    nearestEven num (den * 2 ^ excessBits num den) * 2 ^ excessBits num den := by
  refine unitsOfRank_significand nearestEven_excess_le ?_
  exact (Nat.eq_zero_or_pos _).imp_right le_nearestEven_excess

theorem nearestRank_le {e : Nat} (h : num / den < 2 ^ (53 + e)) :
    nearestRank num den ≤ fractionSize * (e + 2) := by
  have hexcess := Nat.mul_le_mul_left fractionSize (excessBits_le h)
  have hround : nearestEven num (den * 2 ^ excessBits num den) ≤ _ := nearestEven_excess_le
  rw [Nat.mul_add, Nat.mul_comm _ 2]
  exact Nat.add_le_add hexcess hround

theorem nearestRank_mono (h : num ≤ num') : nearestRank num den ≤ nearestRank num' den := by
  change fractionSize * excessBits num den + nearestEven num (den * 2 ^ excessBits num den) ≤
    fractionSize * excessBits num' den + nearestEven num' (den * 2 ^ excessBits num' den)
  rcases Nat.lt_or_eq_of_le (excessBits_mono h : excessBits num den ≤ _) with hlt | heq
  case inl =>
    have hnum : nearestEven num (den * 2 ^ excessBits num den) ≤ _ := nearestEven_excess_le
    have hnum' := le_nearestEven_excess (Nat.lt_of_le_of_lt (Nat.zero_le _) hlt)
    have hblocks := Nat.mul_le_mul_left fractionSize hlt
    rw [Nat.mul_succ] at hblocks
    omega
  case inr =>
    rw [heq]
    exact Nat.add_le_add_left (nearestEven_mono h) _

-- Rounding keeps a number that has nothing in the bits to be rounded away.
theorem unitsOfRank_nearestRank_of_dvd (h : 2 ^ excessBits n 1 ∣ n) :
    unitsOfRank (nearestRank n 1) = n := by
  obtain ⟨m, hm⟩ := h
  have hround : nearestEven n (1 * 2 ^ excessBits n 1) = m := by
    rw [Nat.one_mul]
    nth_rewrite 1 [hm]
    rw [Nat.mul_comm]
    exact nearestEven_mul _ _ (Nat.pow_pos (by decide))
  rw [unitsOfRank_nearestRank, hround, Nat.mul_comm]
  exact hm.symm

end NearestRank

-- The place of a number that is given by its rank. All that is too large has the same place.
theorem place?_ofRank (negative : Bool) (rank : Nat) : (ofRank negative rank).place? =
    some (if negative then -(min rank rankCount : Nat) else (min rank rankCount : Nat) : Int) := by
  unfold ofRank
  split
  case isTrue h => rw [place?, Nat.min_eq_left (Nat.le_of_lt h)]
  case isFalse h => rw [place?, Nat.min_eq_right (Nat.le_of_not_lt h)]

section Integers

variable {n a b : Nat}

theorem oneInUnits_eq : oneInUnits = 2 ^ smallestPlaces := by
  rw [oneInUnits]
  rfl

theorem oneInUnits_pos : 0 < oneInUnits := by
  rw [oneInUnits_eq]
  exact Nat.pow_pos (by decide)

-- An integer is rounded to an integer.
theorem oneInUnits_dvd_unitsOfRank (n : Nat) :
    oneInUnits ∣ unitsOfRank (nearestRank (oneInUnits * n) 1) := by
  rcases Nat.le_total (excessBits (oneInUnits * n) 1) smallestPlaces with hle | hge
  case inl =>
    have hdvd : 2 ^ excessBits (oneInUnits * n) 1 ∣ oneInUnits := by
      rw [oneInUnits_eq]
      exact Nat.pow_dvd_pow 2 (oneInUnits_eq ▸ hle)
    rw [unitsOfRank_nearestRank_of_dvd (hdvd.mul_right n)]
    exact Nat.dvd_mul_right ..
  case inr =>
    rw [unitsOfRank_nearestRank]
    refine Nat.dvd_mul_left_of_dvd ?_ _
    nth_rewrite 1 [oneInUnits_eq]
    exact Nat.pow_dvd_pow 2 hge

-- Integers of at most 53 bits are kept, and so is the one after these.
theorem unitsOfRank_nearestRank_oneInUnits (h : n ≤ 2 ^ 53) :
    unitsOfRank (nearestRank (oneInUnits * n) 1) = oneInUnits * n := by
  refine unitsOfRank_nearestRank_of_dvd ?_
  rcases Nat.lt_or_eq_of_le h with hlt | rfl
  case inl =>
    have hexcess : excessBits (oneInUnits * n) 1 ≤ smallestPlaces := by
      refine excessBits_le ?_
      rw [Nat.div_one, Nat.pow_add, Nat.mul_comm, oneInUnits_eq]
      exact Nat.mul_lt_mul_of_pos_right hlt (Nat.pow_pos (by decide))
    refine Nat.dvd_mul_right_of_dvd ?_ n
    nth_rewrite 2 [oneInUnits_eq]
    exact Nat.pow_dvd_pow 2 hexcess
  case inr =>
    have hexcess : excessBits (oneInUnits * 2 ^ 53) 1 ≤ smallestPlaces + 1 := by
      refine excessBits_le ?_
      rw [Nat.div_one, oneInUnits_eq, ← Nat.pow_add]
      exact Nat.pow_lt_pow_right (by decide) (by omega)
    nth_rewrite 2 [oneInUnits_eq]
    rw [← Nat.pow_add]
    exact Nat.pow_dvd_pow 2 (by omega)

-- A quotient of integers that is no integer stays below the next integer when it is rounded to some
-- fraction of a power of two: it is at least one part in `b` away from it, and half a step of the
-- fractions is less than this.
theorem nearestEven_quotient_lt {t : Nat} (ha : a ≤ 2 ^ 53) (hb : b ≤ 2 ^ 53) (hpos : 0 < b)
    (hdvd : ¬b ∣ a) (h : 2 ^ 52 * b ≤ 2 ^ t * a) :
    nearestEven (2 ^ t * a) b < (a / b + 1) * 2 ^ t := by
  have ht : 0 < 2 ^ t := Nat.pow_pos (by decide)
  have hstep : b ≤ 2 * 2 ^ t := by
    refine Nat.le_of_mul_le_mul_left (?_ : 2 ^ 52 * b ≤ 2 ^ 52 * (2 * 2 ^ t)) (by decide)
    calc 2 ^ 52 * b
      _ ≤ 2 ^ t * a               := h
      _ ≤ 2 ^ t * 2 ^ 53          := Nat.mul_le_mul_left _ ha
      _ = 2 ^ 52 * (2 * 2 ^ t)    := by ring
  have hne : b ≠ 2 * 2 ^ t := by
    -- Only the largest quotients get that close, and these are quotients of powers of two.
    intro heq
    have hge : 2 ^ 53 ≤ a := by
      refine Nat.le_of_mul_le_mul_left (?_ : 2 ^ t * 2 ^ 53 ≤ 2 ^ t * a) ht
      calc 2 ^ t * 2 ^ 53
        _ = 2 ^ 52 * b := by rw [heq]; ring
        _ ≤ 2 ^ t * a  := h
    rw [← Nat.pow_succ'] at heq
    rw [heq, Nat.pow_le_pow_iff_right (by decide)] at hb
    rw [heq, Nat.le_antisymm ha hge] at hdvd
    exact hdvd (Nat.pow_dvd_pow 2 hb)
  obtain ⟨n, hn⟩ : ∃ n, (a / b + 1) * 2 ^ t = n + 1 :=
    Nat.exists_eq_succ_of_ne_zero (Nat.mul_pos (Nat.succ_pos _) ht).ne'
  rw [hn, Nat.lt_succ_iff]
  refine nearestEven_le_of_lt ?_
  have hnext : a + 1 ≤ (a / b + 1) * b := Nat.lt_mul_of_div_lt (Nat.lt_succ_self _) hpos
  have hscaled : 2 ^ t * (a + 1) ≤ (n + 1) * b := by
    calc 2 ^ t * (a + 1)
      _ ≤ 2 ^ t * ((a / b + 1) * b) := Nat.mul_le_mul_left _ hnext
      _ = (n + 1) * b               := by rw [← hn]; ring
  have hlt : b < 2 * 2 ^ t := Nat.lt_of_le_of_ne hstep hne
  calc 2 * (2 ^ t * a)
    _ < 2 * (2 ^ t * (a + 1)) - b := by rw [Nat.mul_succ]; omega
    _ ≤ 2 * ((n + 1) * b) - b     := Nat.sub_le_sub_right (Nat.mul_le_mul_left 2 hscaled) b
    _ = (2 * n + 1) * b           := by rw [Nat.sub_eq_iff_eq_add (by nlinarith)]; ring

-- A quotient that is neither very large nor very small is rounded to a fraction of a power of two,
-- with a numerator of 53 bits.
theorem exists_fraction (hpos : 0 < b) (hsmall : a < b * 2 ^ 53)
    (hlarge : 2 ^ 53 * b ≤ oneInUnits * a) :
    ∃ t, 2 ^ 52 * b ≤ 2 ^ t * a ∧ unitsOfRank (nearestRank (oneInUnits * a) b) / oneInUnits =
      nearestEven (2 ^ t * a) b / 2 ^ t := by
  have hle : excessBits (oneInUnits * a) b ≤ smallestPlaces := by
    refine excessBits_le (Nat.div_lt_of_lt_mul ?_)
    calc oneInUnits * a
      _ < oneInUnits * (b * 2 ^ 53)    := Nat.mul_lt_mul_of_pos_left hsmall oneInUnits_pos
      _ = b * 2 ^ (53 + smallestPlaces) := by rw [Nat.pow_add, oneInUnits_eq]; ring
  have hexcess : 0 < excessBits (oneInUnits * a) b :=
    excessBits_pos ((Nat.le_div_iff_mul_le hpos).mpr hlarge)
  obtain ⟨t, ht⟩ := Nat.exists_eq_add_of_le' hle
  have hbits := le_div_excess hexcess
  have hround := unitsOfRank_nearestRank (oneInUnits * a) b
  generalize excessBits (oneInUnits * a) b = e at ht hbits hround
  have hpow : 0 < 2 ^ e := Nat.pow_pos (by decide)
  have hone : oneInUnits = 2 ^ t * 2 ^ e := by rw [oneInUnits_eq, ht, Nat.pow_add]
  have hnum : oneInUnits * a = 2 ^ t * a * 2 ^ e := by rw [hone]; ring
  refine ⟨t, ?_, ?_⟩
  case refine_1 =>
    rw [Nat.div_div_eq_div_mul, hnum, Nat.mul_div_mul_right _ _ hpow] at hbits
    exact (Nat.le_div_iff_mul_le hpos).mp hbits
  case refine_2 =>
    rw [hround, hnum, nearestEven_scale _ _ _ hpow, hone, Nat.mul_div_mul_right _ _ hpow]

-- A quotient of integers is cut off to the same integer whether it was rounded before or not.
theorem unitsOfRank_nearestRank_div (ha : a ≤ 2 ^ 53) (hb : b ≤ 2 ^ 53) (hpos : 0 < b) :
    unitsOfRank (nearestRank (oneInUnits * a) b) / oneInUnits = a / b := by
  by_cases hdvd : b ∣ a
  case pos =>
    obtain ⟨q, rfl⟩ := hdvd
    have hq : q ≤ 2 ^ 53 := (Nat.le_mul_of_pos_left q hpos).trans ha
    have hscale := nearestRank_scale (oneInUnits * q) 1 b hpos
    rw [Nat.one_mul, Nat.mul_assoc, Nat.mul_comm q] at hscale
    rw [hscale, unitsOfRank_nearestRank_oneInUnits hq, Nat.mul_div_cancel_left _ oneInUnits_pos,
      Nat.mul_div_cancel_left _ hpos]
  case neg =>
    have hone : b ≠ 1 := fun h => hdvd (h ▸ one_dvd a)
    have hzero : a ≠ 0 := fun h => hdvd (h ▸ dvd_zero b)
    have hlarge : 2 ^ 53 * b ≤ oneInUnits * a := by
      refine Nat.le_trans ?_ (Nat.le_mul_of_pos_right _ (Nat.pos_of_ne_zero hzero))
      rw [oneInUnits_eq, smallestPlaces]
      omega
    obtain ⟨t, ht, hround⟩ := exists_fraction hpos (by omega) hlarge
    rw [hround]
    refine Nat.div_eq_of_lt_le ?_ (nearestEven_quotient_lt ha hb hpos hdvd ht)
    refine Nat.le_trans ?_ div_le_nearestEven
    rw [Nat.le_div_iff_mul_le hpos, Nat.mul_assoc, Nat.mul_left_comm]
    exact Nat.mul_le_mul_left _ (Nat.div_mul_le_self a b)

end Integers

end Reckoner.Binary64
