import Reckoner.Session
import Reckoner.Proofs.Outcomes
import Reckoner.Proofs.RoundTrip

namespace Reckoner

open Grammar Lexical

section Literals

-- The literals of a text and what they stand for.
inductive Denotes : Meaning → Value → Prop
  | int (n : Int64) : Denotes (.int, some (.int n)) (.int n)
  | float (x : Binary64) : Denotes (.float, some (.float x)) (.float x)

variable {s : Session} {line : List Char} {store : Store} {m : Meaning} {ms : List Meaning}
  {node : Token → Expr} {v : Value} {name : String}

theorem exists_parseLine (h : Lexes [] line ms) : ∃ w, w.map Token.meaning = ms ∧
    ∀ e, Derives .one .expression w e → s.parseLine line = .ok e := by
  obtain ⟨w, _, htokens, hw, hiff⟩ := @parse_of_lexes (s.source line) ms h
  refine ⟨w, hw, fun e he => ?_⟩
  rw [Session.parseLine, htokens]
  exact (hiff e).mpr he

-- A line of one token, and a line of a sign and one token.

theorem exists_parseLine_lone (h : Spells line (.ok m))
    (hnode : ∀ t : Token, t.kind = m.1 → Derives .one .atom [t] (node t)) :
    ∃ t : Token, t.meaning = m ∧ s.parseLine line = .ok (node t) := by
  obtain ⟨w, hw, hparse⟩ := @exists_parseLine s _ _ (lexes_alone h)
  obtain ⟨t, rfl, ht⟩ := List.map_eq_singleton_iff.mp hw
  exact ⟨t, ht, hparse _ (hnode t (congrArg Prod.fst ht)).of_atom⟩

theorem exists_parseLine_minus (h : Spells line (.ok m))
    (hnode : ∀ t : Token, t.kind = m.1 → Derives .one .atom [t] (node t)) :
    ∃ sign t : Token, sign.kind = .minus ∧ t.meaning = m ∧
      s.parseLine ('-' :: line) = .ok (.unary sign (node t)) := by
  obtain ⟨w, hw, hparse⟩ := @exists_parseLine s _ _ (lexes_alone h).minus
  obtain ⟨sign, w, rfl, hsign, hw⟩ := List.map_eq_cons_iff.mp hw
  obtain ⟨t, rfl, ht⟩ := List.map_eq_singleton_iff.mp hw
  have hkind : sign.kind = .minus := congrArg Prod.fst hsign
  refine ⟨sign, t, hkind, ht, hparse _ (Expr.derives_unary ?_ (hnode t (congrArg Prod.fst ht)))⟩
  simp [hkind, Expr.prefixes]

theorem run_eq {e : Expr} (h : s.parseLine line = .ok e) :
    s.run line store = s.frame.evaluate e store := by
  rw [Session.run, h]

theorem eval_literal {scope : ScopeId} {t : Token} (ht : t.meaning = m) (hm : Denotes m v) :
    (Expr.number t).eval scope store = .value v store := by
  obtain ⟨kind, payload, span⟩ := t
  cases ht
  cases hm <;> rfl

theorem derives_literal (hm : Denotes m v) (t : Token) (ht : t.kind = m.1) :
    Derives .one .atom [t] (.number t) := by
  cases hm
  case int => exact .number (.inl ht)
  case float => exact .number (.inr ht)

theorem run_literal (h : Spells line (.ok m)) (hm : Denotes m v) :
    s.run line store = (.ok v, store) := by
  obtain ⟨t, ht, hparse⟩ := exists_parseLine_lone h (derives_literal hm)
  rw [run_eq hparse, Frame.evaluate_eq, eval_literal ht hm]
  rfl

theorem run_minus_literal (h : Spells line (.ok m)) (hm : Denotes m v) :
    s.run ('-' :: line) store = (.ok v.negate, store) := by
  obtain ⟨sign, t, hsign, ht, hparse⟩ := exists_parseLine_minus h (derives_literal hm)
  rw [run_eq hparse, Frame.evaluate_eq, Expr.eval, eval_literal ht hm]
  simp only [Eval.Outcome.andThen, Eval.Outcome.value, Eval.unary, hsign]
  rfl

end Literals

section Names

variable {s : Session} {line : List Char} {store : Store} {v : Value} {name : String}

theorem eval_name {scope : ScopeId} {t : Token}
    (ht : t.meaning = (.identifier, some (.name name))) : (Expr.var t).eval scope store =
      .after (.read name) (match store.find? scope name with
        | some v => .value v store
        | none => .failure (.undefined name) t.span store) := by
  obtain ⟨kind, payload, span⟩ := t
  cases ht
  rfl

theorem run_name (h : Spells line (.ok (.identifier, some (.name name))))
    (hbound : store.find? s.scope name = some v) : s.run line store = (.ok v, store) := by
  obtain ⟨t, ht, hparse⟩ := @exists_parseLine_lone s _ _ .var h fun _ => .name
  rw [run_eq hparse, Frame.evaluate_eq, eval_name ht]
  change store.find? s.frame.scope name = _ at hbound
  rw [hbound]
  rfl

-- A name that is not bound has no value, and neither has its negative.

theorem run_unbound (h : Spells line (.ok (.identifier, some (.name name))))
    (hunbound : store.find? s.scope name = none) : ∃ d, s.run line store = (.error d, store) := by
  obtain ⟨t, ht, hparse⟩ := @exists_parseLine_lone s _ _ .var h fun _ => .name
  change store.find? s.frame.scope name = _ at hunbound
  rw [run_eq hparse, Frame.evaluate_eq, eval_name ht, hunbound]
  exact ⟨_, rfl⟩

theorem run_minus_unbound (h : Spells line (.ok (.identifier, some (.name name))))
    (hunbound : store.find? s.scope name = none) :
    ∃ d, s.run ('-' :: line) store = (.error d, store) := by
  obtain ⟨sign, t, _, ht, hparse⟩ := @exists_parseLine_minus s _ _ .var h fun _ => .name
  change store.find? s.frame.scope name = _ at hunbound
  rw [run_eq hparse, Frame.evaluate_eq, Expr.eval, eval_name ht, hunbound]
  exact ⟨_, rfl⟩

-- The values that are printed as names.

theorem run_bool {b : Bool} (hbound : store.find? s.scope (Value.bool b).text = some (.bool b)) :
    s.run (Value.bool b).text.toList store = (.ok (.bool b), store) := by
  refine run_name ?_ hbound
  cases b
  case false =>
    exact .name (by decide) (List.all_eq_true.mp (by decide)) fun k => by cases k <;> decide
  case true =>
    exact .name (by decide) (List.all_eq_true.mp (by decide)) fun k => by cases k <;> decide

theorem run_nan (hunbound : store.find? s.scope "NaN" = none) :
    ∃ d, s.run (Value.float .nan).text.toList store = (.error d, store) := by
  have hspells : Spells ['N', 'a', 'N'] (.ok (.identifier, some (.name "NaN"))) :=
    .name (by decide) (List.all_eq_true.mp (by decide)) fun k => by cases k <;> decide
  exact run_unbound hspells hunbound

theorem run_infinite (negative : Bool) (hunbound : store.find? s.scope "inf" = none) :
    ∃ d, s.run (Value.float (.infinite negative)).text.toList store = (.error d, store) := by
  cases negative
  case false => exact run_unbound spells_infinity hunbound
  case true => exact run_minus_unbound spells_infinity hunbound

end Names

section Integers

variable {s : Session} {store : Store} {n : Int64} {digits : List Char}

theorem run_int (h : n ≠ Int64.minValue) :
    s.run (Value.int n).text.toList store = (.ok (.int n), store) := by
  have hmin : n.toInt ≠ Int64.minValue.toInt := fun heq => h (Int64.toInt_inj.mp heq)
  have hle := n.le_toInt
  rw [Int64.toInt_minValue] at hmin
  rw [Value.text]
  by_cases hn : 0 ≤ n.toInt
  case pos => exact run_literal (spells_int hn) (.int n)
  case neg =>
    have hlt : (-n.toInt).toNat < 2 ^ 63 := by omega
    have hnegate : -Int64.ofNat (-n.toInt).toNat = n := by
      rw [← Int64.ofInt_eq_ofNat, ← Int64.ofInt_neg, Int.toNat_of_nonneg (by omega), Int.neg_neg,
        Int64.ofInt_toInt]
    rw [toString_toList_of_neg (by omega), run_minus_literal (spells_toDigits hlt) (.int _),
      Value.negate, hnegate]

-- A sign before digits that are too large for an integer does not make them any smaller.
theorem run_minus_outOfRange (hne : digits ≠ []) (hd : Digits digits)
    (hlt : Int64.maxValue.toInt < value digits) :
    let source := s.source ('-' :: digits)
    s.run ('-' :: digits) store = (.error ⟨.invalidSyntax,
      "Integer literal " ++ String.ofList digits ++ " is out of range",
      ⟨.after source 1, .after source (1 + digits.length)⟩, []⟩, store) := by
  intro source
  have hlongest : Longest digits (digits ++ []) := (IsNumber.integer hne hd).longest (by simp)
  have htokens : tokenize source = .error ⟨.invalidSyntax,
      "Integer literal " ++ String.ofList digits ++ " is out of range",
      .covering (.after source 1) digits.length, []⟩ := by
    change (Scan.scanFrom (.after source 0) (['-'] ++ digits)).complete = _
    rw [scanFrom_lexeme (longest_minus digits) spells_minus, complete_cons, after_forward,
      ← List.append_nil digits, scanFrom_fault hlongest (.outOfRange hne hd hlt),
      List.append_nil, complete_fail]
    rfl
  rw [Span.covering, after_forward] at htokens
  rw [Session.run, Session.parseLine, htokens]
  rfl

end Integers

section Floats

variable {s : Session} {store : Store} {rank : Nat}

theorem shortest_exponent_neg (h : Binary64.unitsOfRank rank % Binary64.oneInUnits ≠ 0) :
    (Decimal.shortest rank).exponent < 0 := by
  -- A decimal without places is an integer, and so is what it is rounded to.
  by_contra hge
  have hread := eq_of_beq (Decimal.readsAs_shortest rank)
  rw [Decimal.den_of_nonneg (Int.not_lt.mp hge)] at hread
  have hdvd := Binary64.oneInUnits_dvd_unitsOfRank (Decimal.shortest rank).num
  rw [hread] at hdvd
  exact h (Nat.mod_eq_zero_of_dvd hdvd)

theorem spells_floatText (rank : Fin Binary64.rankCount) :
    Spells (Value.floatText (.finite false rank)).toList
      (.ok (.float, some (.float (.finite false rank)))) := by
  have htext : (Value.floatText (.finite false rank)).toList =
      if Binary64.unitsOfRank rank % Binary64.oneInUnits = 0 then
        Nat.toDigits 10 (Binary64.unitsOfRank rank / Binary64.oneInUnits) ++ ['.', '0']
      else (Decimal.shortest rank).positional := by
    simp [Value.floatText, Binary64.textWith]
  rw [htext]
  split
  case isTrue hwhole =>
    have hunits := Nat.mul_div_cancel' (Nat.dvd_of_mod_eq_zero hwhole)
    have hvalue : Binary64.ofQuotient false (Binary64.unitsOfRank rank / Binary64.oneInUnits) 1 =
        .finite false rank := by
      rw [Binary64.ofQuotient, Binary64.ofUnits, hunits, Binary64.nearestRank_unitsOfRank,
        Binary64.ofRank, dif_pos rank.isLt]
    have hdigits := digits_toDigits (Binary64.unitsOfRank rank / Binary64.oneInUnits)
    have h := spells_point_zero hdigits Nat.toDigits_ne_nil
    rwa [value_toDigits, hvalue] at h
  case isFalse hfraction =>
    have h := spells_positional (Decimal.shortest rank)
    rwa [if_pos (shortest_exponent_neg hfraction), Decimal.toBinary64_shortest] at h

theorem run_finite (negative : Bool) (rank : Fin Binary64.rankCount) :
    s.run (Value.float (.finite negative rank)).text.toList store =
      (.ok (.float (.finite negative rank)), store) := by
  have h := spells_floatText rank
  cases negative
  case false => exact run_literal h (.float _)
  case true =>
    have htext : (Value.float (.finite true rank)).text.toList =
        '-' :: (Value.floatText (.finite false rank)).toList := by
      simp [Value.text, Value.floatText, Binary64.textWith]
    rw [htext]
    exact run_minus_literal h (.float _)

end Floats

-- In a session that has the truth values and no names for the floats that are not finite:
-- 1. the text of a value gives the value again unless it is the least integer or a float that is
--    not finite
-- 2. the least integer fails at the digits after its sign
theorem value_reads_back_iff {s : Session} {store : Store}
    (htrue : store.find? s.scope "TRUE" = some (.bool true))
    (hfalse : store.find? s.scope "FALSE" = some (.bool false))
    (hinf : store.find? s.scope "inf" = none) (hnan : store.find? s.scope "NaN" = none) :
    (∀ v : Value, (s.run v.text.toList store).1 = .ok v ↔ v ≠ .int Int64.minValue ∧
      v ≠ .float .nan ∧ ∀ negative, v ≠ .float (.infinite negative)) ∧
    let least := (Value.int Int64.minValue).text.toList
    least = '-' :: "9223372036854775808".toList ∧ (s.run least store).1 = .error ⟨.invalidSyntax,
      "Integer literal 9223372036854775808 is out of range",
      ⟨.after (s.source least) 1, .after (s.source least) least.length⟩, []⟩ := by
  have htext : (Value.int Int64.minValue).text.toList = '-' :: "9223372036854775808".toList := by
    decide
  have hleast := @run_minus_outOfRange s store "9223372036854775808".toList (by decide)
    (List.all_eq_true.mp (by decide)) (by decide)
  refine ⟨fun v => ?_, htext, by rw [htext, hleast]; rfl⟩
  cases v
  case int n =>
    by_cases hn : n = Int64.minValue
    case pos => rw [hn, htext, hleast]; simp
    case neg => rw [run_int hn]; simp [hn]
  case float x =>
    cases x
    case nan =>
      obtain ⟨d, hd⟩ := run_nan hnan
      rw [hd]
      simp
    case infinite negative =>
      obtain ⟨d, hd⟩ := run_infinite negative hinf
      rw [hd]
      simp
    case finite negative rank =>
      rw [run_finite]
      simp
  case bool b =>
    have hbound : store.find? s.scope (Value.bool b).text = some (.bool b) := by
      cases b
      case false => exact hfalse
      case true => exact htrue
    rw [run_bool hbound]
    simp

-- A zero that is negative, in a scope inside the one with the builtins.
theorem value_reads_back_iff_negative_zero :
    let s : Session := ⟨"f", 1⟩
    let store : Store := ⟨[.builtins, .inside 0]⟩
    let v : Value := .float (.finite true Binary64.zeroRank)
    store.find? s.scope "TRUE" = some (.bool true) ∧
      store.find? s.scope "FALSE" = some (.bool false) ∧
      store.find? s.scope "inf" = none ∧ store.find? s.scope "NaN" = none ∧
      v.text = "-0.0" ∧ (s.run v.text.toList store).1 = .ok v := by
  intro s store v
  have htrue : store.find? s.scope "TRUE" = some (.bool true) := by decide +kernel
  have hfalse : store.find? s.scope "FALSE" = some (.bool false) := by decide +kernel
  have hinf : store.find? s.scope "inf" = none := by decide +kernel
  have hnan : store.find? s.scope "NaN" = none := by decide +kernel
  obtain ⟨hiff, _⟩ := value_reads_back_iff htrue hfalse hinf hnan
  exact ⟨htrue, hfalse, hinf, hnan, by decide +kernel, (hiff v).mpr (by simp [v])⟩

end Reckoner
