import Reckoner.Value.Operator
import Reckoner.Proofs.Rounding

namespace Reckoner

namespace Binary64

-- The integer of a sign and a magnitude.
def signed (negative : Bool) (n : Nat) : Int :=
  if negative then -n else n

section Conversion

variable {a b c : Int} {num den n rank : Nat} {negative : Bool}

theorem signed_natAbs (h : c ≠ 0 → negative = decide (c < 0)) : signed negative c.natAbs = c := by
  by_cases hc : c = 0
  case pos => cases negative <;> simp [signed, hc]
  case neg =>
    rw [signed, h hc]
    by_cases hneg : c < 0
    case pos => rw [decide_eq_true hneg, if_pos rfl, Int.ofNat_natAbs_of_nonpos hneg.le, neg_neg]
    case neg =>
      rw [decide_eq_false hneg, if_neg Bool.false_ne_true, Int.natAbs_of_nonneg (not_lt.mp hneg)]

-- The sign of a product, and of a quotient that is not cut off to zero.
theorem xor_eq_of_sign (hc : c ≠ 0) (h : c.sign = a.sign * b.sign) :
    (decide (a < 0) ^^ decide (b < 0)) = decide (c < 0) := by
  rw [← Int.sign_mul] at h
  have hneg : c < 0 ↔ a * b < 0 := by
    rw [← Int.sign_eq_neg_one_iff_neg, h, Int.sign_eq_neg_one_iff_neg]
  have hne : a * b ≠ 0 := by
    rwa [← Int.sign_eq_zero_iff_zero.ne, ← h, Int.sign_eq_zero_iff_zero.ne]
  obtain ⟨ha, hb⟩ := mul_ne_zero_iff.mp hne
  rw [Bool.eq_iff_iff]
  simp only [bne_iff_ne, ne_eq, decide_eq_decide, decide_eq_true_eq, hneg, mul_neg_iff]
  omega

theorem signedUnits_not (rank : Nat) :
    signedUnits (!negative) rank = -signedUnits negative rank := by
  cases negative <;> simp [signedUnits]

theorem signedUnits_eq (h : unitsOfRank rank = oneInUnits * a.natAbs) :
    signedUnits (decide (a < 0)) rank = oneInUnits * a := by
  have ha : signed (decide (a < 0)) a.natAbs = a := signed_natAbs fun _ => rfl
  rw [signed] at ha
  rw [signedUnits, h, Nat.cast_mul]
  split at ha
  case isTrue hneg => rw [if_pos hneg, ← Int.mul_neg, ha]
  case isFalse hneg => rw [if_neg hneg, ha]

theorem nearestRank_lt_rankCount (h : num ≤ oneInUnits * 2 ^ 53 * den) :
    nearestRank num den < rankCount := by
  have hlt : num / den < 2 ^ (53 + (smallestPlaces + 1)) := by
    refine Nat.lt_of_le_of_lt (Nat.div_le_of_le_mul (Nat.mul_comm .. ▸ h)) ?_
    rw [oneInUnits_eq, ← Nat.pow_add]
    exact Nat.pow_lt_pow_right (by decide) (by omega)
  refine Nat.lt_of_le_of_lt (nearestRank_le hlt) ?_
  rw [smallestPlaces, rankCount]
  decide

-- An integer of up to 53 bits is a float.
theorem exists_finite_ofInt (h : a.natAbs ≤ 2 ^ 53) : ∃ rank,
    ofInt a = finite (decide (a < 0)) rank ∧ unitsOfRank rank = oneInUnits * a.natAbs := by
  have hrank : nearestRank (oneInUnits * a.natAbs) 1 < rankCount :=
    nearestRank_lt_rankCount (by simpa using Nat.mul_le_mul_left oneInUnits h)
  refine ⟨⟨_, hrank⟩, ?_, unitsOfRank_nearestRank_oneInUnits h⟩
  simp only [ofInt, ofQuotient, ofUnits, ofRank, dif_pos hrank]

-- A float of up to 53 bits before the point is cut off to these.
theorem toInt_toInt64_ofRank (hrank : rank < rankCount)
    (hwhole : unitsOfRank rank / oneInUnits = n) (hn : n ≤ 2 ^ 53) :
    (ofRank negative rank).toInt64.toInt = signed negative n := by
  have hmin := Int64.toInt_minValue
  have hmax := Int64.toInt_maxValue
  simp only [ofRank, dif_pos hrank, toInt64, hwhole, signed]
  apply Int64.toInt_ofIntClamp <;> split <;> omega

theorem toInt_toInt64_ofUnits (hn : n ≤ 2 ^ 53) :
    (ofUnits negative (oneInUnits * n) 1).toInt64.toInt = signed negative n := by
  refine toInt_toInt64_ofRank (nearestRank_lt_rankCount ?_) ?_ hn
  case refine_1 => simpa using Nat.mul_le_mul_left oneInUnits hn
  case refine_2 =>
    rw [unitsOfRank_nearestRank_oneInUnits hn, Nat.mul_div_cancel_left _ oneInUnits_pos]

end Conversion

section Arithmetic

variable {a b : Int}

-- The sum of floats that are integers. Zeros may have either sign.
theorem toInt_add_of_units {s t : Bool} {x y : Fin rankCount}
    (hx : signedUnits s x = oneInUnits * a) (hy : signedUnits t y = oneInUnits * b)
    (h : (a + b).natAbs ≤ 2 ^ 53) :
    ((finite s x).add (finite t y)).toInt64.toInt = a + b := by
  have hone : (0 : Int) < oneInUnits := Int.natCast_pos.mpr oneInUnits_pos
  simp only [add, hx, hy, ← Int.mul_add, Int.natAbs_mul, Int.natAbs_natCast]
  rw [toInt_toInt64_ofUnits h]
  refine signed_natAbs fun hne => ?_
  rw [if_neg (mul_ne_zero hone.ne' hne)]
  exact decide_eq_decide.mpr (by rw [← not_le, mul_nonneg_iff_of_pos_left hone, not_le])

theorem toInt_add (ha : a.natAbs ≤ 2 ^ 53) (hb : b.natAbs ≤ 2 ^ 53) (h : (a + b).natAbs ≤ 2 ^ 53) :
    ((ofInt a).add (ofInt b)).toInt64.toInt = a + b := by
  obtain ⟨x, hx, hxunits⟩ := exists_finite_ofInt ha
  obtain ⟨y, hy, hyunits⟩ := exists_finite_ofInt hb
  rw [hx, hy]
  exact toInt_add_of_units (signedUnits_eq hxunits) (signedUnits_eq hyunits) h

theorem toInt_sub (ha : a.natAbs ≤ 2 ^ 53) (hb : b.natAbs ≤ 2 ^ 53) (h : (a - b).natAbs ≤ 2 ^ 53) :
    ((ofInt a).sub (ofInt b)).toInt64.toInt = a - b := by
  obtain ⟨x, hx, hxunits⟩ := exists_finite_ofInt ha
  obtain ⟨y, hy, hyunits⟩ := exists_finite_ofInt hb
  rw [sub, hx, hy, negate, Int.sub_eq_add_neg]
  refine toInt_add_of_units (signedUnits_eq hxunits) ?_ h
  rw [signedUnits_not, signedUnits_eq hyunits, Int.mul_neg]

theorem toInt_mul (ha : a.natAbs ≤ 2 ^ 53) (hb : b.natAbs ≤ 2 ^ 53) (h : (a * b).natAbs ≤ 2 ^ 53) :
    ((ofInt a).mul (ofInt b)).toInt64.toInt = a * b := by
  obtain ⟨x, hx, hxunits⟩ := exists_finite_ofInt ha
  obtain ⟨y, hy, hyunits⟩ := exists_finite_ofInt hb
  have hunits : unitsOfRank x * unitsOfRank y = oneInUnits * (a * b).natAbs * oneInUnits := by
    rw [hxunits, hyunits, Int.natAbs_mul]
    ring
  have hscale := nearestRank_scale (oneInUnits * (a * b).natAbs) 1 oneInUnits oneInUnits_pos
  rw [Nat.one_mul, ← hunits] at hscale
  have hproduct : (ofInt a).mul (ofInt b) =
      ofUnits (decide (a < 0) ^^ decide (b < 0)) (oneInUnits * (a * b).natAbs) 1 := by
    rw [hx, hy]
    exact congrArg (ofRank _) hscale
  rw [hproduct, toInt_toInt64_ofUnits h]
  exact signed_natAbs fun hne => xor_eq_of_sign hne (Int.sign_mul a b)

theorem toInt_div (ha : a.natAbs ≤ 2 ^ 53) (hb : b.natAbs ≤ 2 ^ 53) (hne : b ≠ 0) :
    ((ofInt a).div (ofInt b)).toInt64.toInt = a.tdiv b := by
  obtain ⟨x, hx, hxunits⟩ := exists_finite_ofInt ha
  obtain ⟨y, hy, hyunits⟩ := exists_finite_ofInt hb
  have hpos : 0 < b.natAbs := Int.natAbs_pos.mpr hne
  have hy0 : y.val ≠ 0 := by
    intro hzero
    rw [hzero] at hyunits
    exact absurd hyunits.symm (Nat.mul_pos oneInUnits_pos hpos).ne'
  have hscale := nearestRank_scale (oneInUnits * a.natAbs) b.natAbs oneInUnits oneInUnits_pos
  rw [Nat.mul_comm _ oneInUnits, Nat.mul_comm _ oneInUnits, ← hxunits, ← hyunits, hxunits] at hscale
  have hquotient : (ofInt a).div (ofInt b) = ofRank (decide (a < 0) ^^ decide (b < 0))
      (nearestRank (oneInUnits * a.natAbs) b.natAbs) := by
    rw [hx, hy, div, if_neg hy0, ofUnits, hxunits, hscale]
  have hle : oneInUnits * a.natAbs ≤ oneInUnits * 2 ^ 53 * b.natAbs :=
    (Nat.mul_le_mul_left _ ha).trans (Nat.le_mul_of_pos_right _ hpos)
  have hwhole : unitsOfRank (nearestRank (oneInUnits * a.natAbs) b.natAbs) / oneInUnits =
      (a.tdiv b).natAbs := by
    rw [unitsOfRank_nearestRank_div ha hb hpos, Int.natAbs_tdiv]
    rfl
  have hn : (a.tdiv b).natAbs ≤ 2 ^ 53 := (Int.natAbs_tdiv_le_natAbs a b).trans ha
  rw [hquotient, toInt_toInt64_ofRank (nearestRank_lt_rankCount hle) hwhole hn]
  refine signed_natAbs fun hnonzero => xor_eq_of_sign hnonzero ?_
  rw [Int.sign_tdiv, if_neg]
  intro hlt
  refine hnonzero (Int.natAbs_eq_zero.mp ?_)
  rw [Int.natAbs_tdiv]
  exact Nat.div_eq_of_lt hlt

end Arithmetic

section Order

variable {a b : Int} {m n : Nat}

-- The rank of a natural number. All that are too large have the same.
def rankOfNat (n : Nat) : Nat :=
  min (nearestRank (oneInUnits * n) 1) rankCount

theorem rankOfNat_mono (h : m ≤ n) : rankOfNat m ≤ rankOfNat n :=
  min_le_min_right _ (nearestRank_mono (Nat.mul_le_mul_left _ h))

theorem rankOfNat_lt (h : m < n) (hn : n ≤ 2 ^ 53) : rankOfNat m < rankOfNat n := by
  have hunits : ∀ k ≤ 2 ^ 53, unitsOfRank (rankOfNat k) = oneInUnits * k := by
    intro k hk
    have hlt : nearestRank (oneInUnits * k) 1 < rankCount :=
      nearestRank_lt_rankCount (by simpa using Nat.mul_le_mul_left oneInUnits hk)
    rw [rankOfNat, Nat.min_eq_left hlt.le, unitsOfRank_nearestRank_oneInUnits hk]
  refine Nat.lt_of_le_of_ne (rankOfNat_mono h.le) fun heq => h.ne ?_
  refine Nat.eq_of_mul_eq_mul_left oneInUnits_pos ?_
  rw [← hunits m (h.le.trans hn), heq, hunits n hn]

-- The place of an integer among the floats.
def placeOfInt (a : Int) : Int :=
  signed (decide (a < 0)) (rankOfNat a.natAbs)

theorem compareBy_ofInt (test : Int → Int → Bool) (a b : Int) :
    compareBy test (ofInt a) (ofInt b) = test (placeOfInt a) (placeOfInt b) := by
  have hplace : ∀ a, (ofInt a).place? = some (placeOfInt a) := fun a => place?_ofRank _ _
  rw [compareBy, hplace, hplace]

theorem placeOfInt_mono (h : a ≤ b) : placeOfInt a ≤ placeOfInt b := by
  simp only [placeOfInt, signed, decide_eq_true_eq]
  split <;> split
  case isTrue.isTrue =>
    have hrank : rankOfNat b.natAbs ≤ rankOfNat a.natAbs := rankOfNat_mono (by omega)
    omega
  case isFalse.isFalse =>
    have hrank : rankOfNat a.natAbs ≤ rankOfNat b.natAbs := rankOfNat_mono (by omega)
    omega
  all_goals omega

-- Integers that are floats themselves keep their places apart.
theorem placeOfInt_strictMonoOn : StrictMonoOn placeOfInt {a | a.natAbs ≤ 2 ^ 53} := by
  intro a ha b hb h
  simp only [placeOfInt, signed, decide_eq_true_eq]
  split <;> split
  case isTrue.isTrue =>
    have hrank : rankOfNat b.natAbs < rankOfNat a.natAbs := rankOfNat_lt (by omega) ha
    omega
  case isTrue.isFalse =>
    have hrank : rankOfNat 0 < rankOfNat a.natAbs := rankOfNat_lt (by omega) ha
    omega
  case isFalse.isTrue => omega
  case isFalse.isFalse =>
    have hrank : rankOfNat a.natAbs < rankOfNat b.natAbs := rankOfNat_lt (by omega) hb
    omega

theorem eq_ofInt (ha : a.natAbs ≤ 2 ^ 53) (hb : b.natAbs ≤ 2 ^ 53) :
    (ofInt a).eq (ofInt b) = decide (a = b) := by
  rw [eq, compareBy_ofInt, beq_eq_decide]
  exact decide_eq_decide.mpr (placeOfInt_strictMonoOn.injOn.eq_iff ha hb)

theorem less_ofInt (ha : a.natAbs ≤ 2 ^ 53) (hb : b.natAbs ≤ 2 ^ 53) :
    (ofInt a).less (ofInt b) = decide (a < b) := by
  rw [less, compareBy_ofInt]
  exact decide_eq_decide.mpr (placeOfInt_strictMonoOn.lt_iff_lt ha hb)

theorem lessEq_ofInt (ha : a.natAbs ≤ 2 ^ 53) (hb : b.natAbs ≤ 2 ^ 53) :
    (ofInt a).lessEq (ofInt b) = decide (a ≤ b) := by
  rw [lessEq, compareBy_ofInt]
  exact decide_eq_decide.mpr (placeOfInt_strictMonoOn.le_iff_le ha hb)

end Order

end Binary64

namespace Value

-- The integer that a value stands for, if it is no float.
def integer? : Value → Option Int
  | int n => some n.toInt
  | float _ => none
  | bool b => some b.toNat

-- An operation that gives an integer, and this integer.
def Gives (result : Except Fault Value) (c : Int) : Prop :=
  ∃ n : Int64, result = .ok (.int n) ∧ n.toInt = c

variable {l r v : Value} {a b : Int} {op : Binary64 → Binary64 → Binary64}
  {test : Binary64 → Binary64 → Bool}

theorem magnitude_of_integer? (h : v.integer? = some a) : v.magnitude = .ofInt a := by
  cases v <;> cases h <;> rfl

theorem isInteger_of_integer? (h : v.integer? = some a) : v.isInteger := by
  cases v <;> cases h <;> rfl

theorem gives_arithmetic (hl : l.integer? = some a) (hr : r.integer? = some b) {c : Int}
    (h : (op (.ofInt a) (.ofInt b)).toInt64.toInt = c) : Gives (.ok (arithmetic op l r)) c := by
  refine ⟨_, ?_, h⟩
  rw [arithmetic, magnitude_of_integer? hl, magnitude_of_integer? hr, isInteger_of_integer? hl,
    isInteger_of_integer? hr]
  rfl

theorem comparison_eq (hl : l.integer? = some a) (hr : r.integer? = some b) :
    comparison test l r = .bool (test (.ofInt a) (.ofInt b)) := by
  rw [comparison, magnitude_of_integer? hl, magnitude_of_integer? hr]

-- Only zero is zero as a float.
theorem isZero_of_integer? (hr : r.integer? = some b) (hb : b.natAbs ≤ 2 ^ 53) :
    r.magnitude.isZero = decide (b = 0) := by
  have hzero : Binary64.ofInt 0 = .zero := by decide +kernel
  rw [magnitude_of_integer? hr, Binary64.isZero, ← hzero]
  exact Binary64.eq_ofInt hb (by decide)

end Value

open Value (Gives)

-- What the operators make of values that stand for the integers `a` and `b`. If neither is larger
-- than `2 ^ 53`, whatever its sign:
-- 1. the sum, the difference and the product are the exact ones wherever these are no larger either
-- 2. the quotient is the exact one without its fraction, and there is none exactly if `b` is zero
-- 3. the comparisons are those of the integers
-- And however large they are, integers in order are not found to be out of order.
theorem integers_computed_exactly {l r : Value} {a b : Int} (hl : l.integer? = some a)
    (hr : r.integer? = some b) :
    (a.natAbs ≤ 2 ^ 53 → b.natAbs ≤ 2 ^ 53 →
      (((a + b).natAbs ≤ 2 ^ 53 → Gives (BinaryOperator.add.apply l r) (a + b)) ∧
        ((a - b).natAbs ≤ 2 ^ 53 → Gives (BinaryOperator.subtract.apply l r) (a - b)) ∧
        ((a * b).natAbs ≤ 2 ^ 53 → Gives (BinaryOperator.multiply.apply l r) (a * b))) ∧
      ((b ≠ 0 → Gives (BinaryOperator.divide.apply l r) (a.tdiv b)) ∧
        (BinaryOperator.divide.apply l r = .error .divisionByZero ↔ b = 0)) ∧
      BinaryOperator.equal.apply l r = .ok (.bool (a = b)) ∧
      BinaryOperator.notEqual.apply l r = .ok (.bool (a ≠ b)) ∧
      BinaryOperator.less.apply l r = .ok (.bool (a < b)) ∧
      BinaryOperator.lessEqual.apply l r = .ok (.bool (a ≤ b)) ∧
      BinaryOperator.greater.apply l r = .ok (.bool (a > b)) ∧
      BinaryOperator.greaterEqual.apply l r = .ok (.bool (a ≥ b))) ∧
    (a ≤ b → BinaryOperator.lessEqual.apply l r = .ok (.bool true) ∧
      BinaryOperator.greater.apply l r = .ok (.bool false)) := by
  refine ⟨fun ha hb => ⟨⟨?_, ?_, ?_⟩, ⟨?_, ?_⟩, ?_, ?_, ?_, ?_, ?_, ?_⟩, fun h => ⟨?_, ?_⟩⟩
  case refine_1 => exact fun h => Value.gives_arithmetic hl hr (Binary64.toInt_add ha hb h)
  case refine_2 => exact fun h => Value.gives_arithmetic hl hr (Binary64.toInt_sub ha hb h)
  case refine_3 => exact fun h => Value.gives_arithmetic hl hr (Binary64.toInt_mul ha hb h)
  case refine_4 =>
    intro hne
    rw [BinaryOperator.apply, Value.divide, Value.isZero_of_integer? hr hb, decide_eq_false hne]
    exact Value.gives_arithmetic hl hr (Binary64.toInt_div ha hb hne)
  case refine_5 =>
    rw [BinaryOperator.apply, Value.divide, Value.isZero_of_integer? hr hb]
    by_cases hzero : b = 0 <;> simp [hzero]
  all_goals rw [BinaryOperator.apply, Value.comparison_eq hl hr]
  case refine_6 => rw [Binary64.eq_ofInt ha hb]
  case refine_7 => rw [Binary64.eq_ofInt ha hb, decide_not]
  case refine_8 => rw [Binary64.less_ofInt ha hb]
  case refine_9 => rw [Binary64.lessEq_ofInt ha hb]
  case refine_10 => rw [Binary64.less_ofInt hb ha]
  case refine_11 => rw [Binary64.lessEq_ofInt hb ha]
  case refine_12 =>
    rw [Binary64.lessEq, Binary64.compareBy_ofInt, decide_eq_true (Binary64.placeOfInt_mono h)]
  case refine_13 =>
    have hle := Binary64.placeOfInt_mono h
    rw [Binary64.less, Binary64.compareBy_ofInt, decide_eq_false (Int.not_lt.mpr hle)]

-- One step from the largest integer that is kept for certain, and a quotient by a negative integer.
theorem integers_computed_exactly_largest :
    let l : Value := .int 9007199254740991
    let r : Value := .bool true
    let divisor : Value := .int (-4)
    l.integer? = some (2 ^ 53 - 1) ∧ r.integer? = some 1 ∧ divisor.integer? = some (-4) ∧
      Gives (BinaryOperator.add.apply l r) (2 ^ 53) ∧
      Gives (BinaryOperator.divide.apply l divisor) (-2251799813685247) ∧
      BinaryOperator.lessEqual.apply r l = .ok (.bool true) := by
  intro l r divisor
  have hl : l.integer? = some (2 ^ 53 - 1) := by decide
  have hr : r.integer? = some 1 := by decide
  have hdivisor : divisor.integer? = some (-4) := by decide
  obtain ⟨⟨hadd, _⟩, _⟩ := (integers_computed_exactly hl hr).left (by decide) (by decide)
  obtain ⟨_, ⟨hdivide, _⟩, _⟩ :=
    (integers_computed_exactly hl hdivisor).left (by decide) (by decide)
  obtain ⟨hle, _⟩ := (integers_computed_exactly hr hl).right (by decide)
  exact ⟨hl, hr, hdivisor, hadd (by decide), hdivide (by decide), hle⟩

end Reckoner
