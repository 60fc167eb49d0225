import Reckoner.Proofs.Viable

namespace Reckoner

namespace Parse

open Grammar

-- How a kind is named among what is expected. A token that is always written the same is quoted.
def quoted : Token.Kind → String
  | .int => "INT"
  | .float => "FLOAT"
  | .identifier => "IDENTIFIER"
  | kind => "'" ++ kind.symbol ++ "'"

def alternatives : List String → String
  | [] => ""
  | [last] => last
  | [other, last] => other ++ " or " ++ last
  | first :: others => first ++ ", " ++ alternatives others

-- What is named is all kinds that are expected, but where a name alone is.
theorem Expected.message_eq (x : Expected) :
    x.message = "Expected " ++
      if x = .identifier then "identifier" else alternatives (x.kinds.map quoted) := by
  cases x <;> decide

def opened (u : List Token) : Nat :=
  u.countP (·.kind = .openParen)

def closed (u : List Token) : Nat :=
  u.countP (·.kind = .closeParen)

-- What is expected behind an operand that ends the tokens that were read.
def expectedAfterOperand (u : List Token) : Expected :=
  if closed u < opened u then .closeParen else .continuation

-- What is expected behind the tokens that were read.
def expectedAfter (u : List Token) : Expected :=
  match u.reverse.map Token.kind with
  | [] | .openParen :: _ | .assign :: _ => .expression
  | .keyword .and :: _ | .keyword .or :: _ | .keyword .not :: _ => .comparison
  | .plus :: _ | .minus :: _ | .star :: _ | .slash :: _ | .caret :: _ => .operand
  | .equal :: _ | .notEqual :: _ | .less :: _ | .lessEqual :: _ => .operand
  | .greater :: _ | .greaterEqual :: _ => .operand
  | .keyword .var :: _ => .identifier
  | .identifier :: .keyword .var :: _ => .assign
  | _ => expectedAfterOperand u

section Counting

variable {x : Exponents} {r : Rule} {u v w : List Token} {e : Expr} {t : Token}

@[simp]
theorem opened_append : opened (u ++ v) = opened u + opened v := by
  simp [opened]

@[simp]
theorem closed_append : closed (u ++ v) = closed u + closed v := by
  simp [closed]

@[simp]
theorem opened_cons : opened (t :: u) = opened u + if t.kind = .openParen then 1 else 0 := by
  simp [opened, List.countP_cons]

@[simp]
theorem closed_cons : closed (t :: u) = closed u + if t.kind = .closeParen then 1 else 0 := by
  simp [closed, List.countP_cons]

@[simp]
theorem opened_nil : opened [] = 0 := rfl

@[simp]
theorem closed_nil : closed [] = 0 := rfl

theorem operator_not_paren {level : Parse.Level} (h : t.kind ∈ operators level) :
    t.kind ≠ .openParen ∧ t.kind ≠ .closeParen :=
  ⟨fun ho => operators_not_silent h (ho ▸ by decide),
   fun hc => operators_not_silent h (hc ▸ by decide)⟩

-- Words close all parentheses that they open.
theorem closed_eq_opened (h : Derives x r w e) : closed w = opened w := by
  induction h
  case assignment hv hn ha _ ih => simp [hv, hn, ha, ih]
  case not ht _ ih => simp [ht, ih]
  case sign ht _ ih => rcases ht with ht | ht <;> simp [ht, ih]
  case number ht => rcases ht with ht | ht <;> simp [ht]
  case name ht => simp [ht]
  case parens ho hc _ ih => simp [ho, hc, ih]
  case join t _ _ _ _ ht _ _ ihl ihr =>
    obtain ⟨ho, hc⟩ := operator_not_paren ht
    simp [ho, hc, ihl, ihr]
  all_goals assumption

end Counting

section After

variable {x : Exponents} {r : Rule} {before u v w : List Token} {e : Expr} {t : Token}
  {level : Level} {next : Option Token} {y : Expected}

-- What is expected behind a token that asks for more.

theorem expectedAfter_open (h : t.kind = .openParen ∨ t.kind = .assign) :
    expectedAfter (before ++ [t]) = .expression := by
  rcases h with h | h <;> simp [expectedAfter, h]

theorem expectedAfter_sign (h : t.kind = .plus ∨ t.kind = .minus) :
    expectedAfter (before ++ [t]) = .operand := by
  rcases h with h | h <;> simp [expectedAfter, h]

theorem expectedAfter_not (h : t.kind = .keyword .not) :
    expectedAfter (before ++ [t]) = .comparison := by
  simp [expectedAfter, h]

theorem expectedAfter_var (h : t.kind = .keyword .var) :
    expectedAfter (before ++ [t]) = .identifier := by
  simp [expectedAfter, h]

theorem expectedAfter_name {var : Token} (hv : var.kind = .keyword .var)
    (h : t.kind = .identifier) : expectedAfter (before ++ [var, t]) = .assign := by
  simp [expectedAfter, hv, h]

theorem expectedAfter_operator (h : t.kind ∈ operators level) :
    expectedAfter (before ++ [t]) = opening (Grammar.right level) := by
  cases level <;> simp [operators] at h
  case power => simp [expectedAfter, h, opening, Grammar.right]
  all_goals
    casesm* _ ∨ _
    all_goals simp [expectedAfter, *, opening, Grammar.right, Grammar.operand]

theorem expectedAfter_literal (h : t.kind = .int ∨ t.kind = .float ∨ t.kind = .closeParen) :
    expectedAfter (before ++ [t]) = expectedAfterOperand (before ++ [t]) := by
  rcases h with h | h | h <;> simp [expectedAfter, h]

theorem expectedAfter_identifier (h : t.kind = .identifier)
    (hvar : ∀ v ∈ before.getLast?, v.kind ≠ .keyword .var) :
    expectedAfter (before ++ [t]) = expectedAfterOperand (before ++ [t]) := by
  rcases List.eq_nil_or_concat before with rfl | ⟨more, v, rfl⟩
  · simp [expectedAfter, h]
  · have hv : v.kind ≠ .keyword .var := hvar v (by simp)
    simp [expectedAfter, h, hv]

theorem expectedAfter_derives (h : Derives x r w e)
    (hvar : ∀ v ∈ before.getLast?, v.kind ≠ .keyword .var) :
    expectedAfter (before ++ w) = expectedAfterOperand (before ++ w) := by
  induction h generalizing before
  case assignment var name eq w _ hv hn ha _ ih =>
    have h := @ih (before ++ [var, name, eq]) (by simp [ha])
    simpa using h
  case not t w _ ht _ ih =>
    have h := @ih (before ++ [t]) (by simp [ht])
    simpa using h
  case sign t w _ ht _ ih =>
    have h := @ih (before ++ [t]) (by rcases ht with ht | ht <;> simp [ht])
    simpa using h
  case number ht => exact expectedAfter_literal (ht.imp_right .inl)
  case name ht => exact expectedAfter_identifier ht hvar
  case parens o c w _ ho hc _ _ =>
    have h := @expectedAfter_literal (before ++ o :: w) c (.inr <| .inr hc)
    simpa using h
  case join t u _ _ _ ht _ _ _ ih =>
    have hop : t.kind ≠ .keyword .var := fun h => operators_not_silent ht (h ▸ by decide)
    have h := @ih (before ++ u ++ [t]) (by simp [hop])
    simpa using h
  case logical ih => exact ih hvar
  case relational ih => exact ih hvar
  case power ih => exact ih hvar
  case operand ih => exact ih hvar

-- Only the end of an operand leaves it to the parentheses what is expected.
theorem exists_operand_end (h : expectedAfter u = .closeParen ∨ expectedAfter u = .continuation)
    (hu : ∀ t ∈ u, t.kind ≠ .stop) :
    ∃ before t, u = before ++ [t] ∧ t.kind ∈ [.int, .float, .identifier, .closeParen] := by
  rcases List.eq_nil_or_concat u with rfl | ⟨before, t, rfl⟩
  case inl => simp [expectedAfter] at h
  case inr =>
    refine ⟨before, t, List.concat_eq_append, ?_⟩
    have ht : t.kind ≠ .stop := hu t (by simp)
    cases hkind : t.kind <;> simp [expectedAfter, hkind] at h ht ⊢
    case keyword k => cases k <;> simp at h

-- The induction carries the tokens before the rule, which decide what is expected only if the rule
-- has read nothing, and which may have left parentheses open.
theorem expected_of_stops (h : Stops r u next y)
    (hstart : u = [] → expectedAfter before = opening r)
    (hopen : closed before ≤ opened before) : y = expectedAfter (before ++ u) := by
  induction h generalizing before
  case start => rw [List.append_nil, hstart rfl]
  case identifier hv _ => exact (expectedAfter_var hv).symm
  case assign hv hn _ => exact (expectedAfter_name hv hn).symm
  case value var name eq _ _ _ hv hn ha _ ih =>
    have hafter : expectedAfter (before ++ [var, name, eq]) = .expression := by
      simpa using @expectedAfter_open (before ++ [var, name]) eq (.inr ha)
    have h := ih (fun _ => hafter) (by simpa [hv, hn, ha] using hopen)
    simpa using h
  case logical hu _ ih => exact ih (absurd · hu) hopen
  case not t _ _ _ ht _ ih =>
    have h := ih (fun _ => expectedAfter_not ht) (by simpa [ht] using hopen)
    simpa using h
  case relational hu _ ih => exact ih (absurd · hu) hopen
  case sign t _ _ _ ht _ ih =>
    have hopen : closed (before ++ [t]) ≤ opened (before ++ [t]) := by
      rcases ht with ht | ht <;> simpa [ht] using hopen
    have h := ih (fun _ => expectedAfter_sign ht) hopen
    simpa using h
  case power hu _ ih => exact ih (absurd · hu) hopen
  case inside o _ _ _ ho _ ih =>
    have hopen : closed (before ++ [o]) ≤ opened (before ++ [o]) := by
      simp [ho]
      omega
    have h := ih (fun _ => expectedAfter_open (.inl ho)) hopen
    simpa using h
  case close o w _ _ ho hd _ =>
    have hvar : ∀ v ∈ (before ++ [o]).getLast?, v.kind ≠ .keyword .var := by simp [ho]
    have h := expectedAfter_derives hd hvar
    have hlt : closed (before ++ [o] ++ w) < opened (before ++ [o] ++ w) := by
      simp [ho, closed_eq_opened hd]
      omega
    rw [expectedAfterOperand, if_pos hlt] at h
    simpa using h.symm
  case operand hu _ ih => exact ih (absurd · hu) hopen
  case right t w _ _ _ _ hd ht _ ih =>
    obtain ⟨ho, hc⟩ := operator_not_paren ht
    have hopen : closed (before ++ w ++ [t]) ≤ opened (before ++ w ++ [t]) := by
      simpa [ho, hc, closed_eq_opened hd] using hopen
    have h := ih (fun _ => expectedAfter_operator ht) hopen
    simpa using h

theorem expected_of_rejects (h : Rejects u next y) : y = expectedAfter u := by
  cases h
  case stopped hs =>
    have h : y = expectedAfter ([] ++ u) := expected_of_stops hs (fun _ => rfl) (Nat.le_refl _)
    exact h
  case complete hd _ _ =>
    have h : expectedAfter ([] ++ u) = expectedAfterOperand u := expectedAfter_derives hd (by simp)
    rw [expectedAfterOperand, closed_eq_opened hd, if_neg (Nat.lt_irrefl _)] at h
    exact h.symm

-- Behind anything but an operand, only what is expected fits.
theorem kind_mem_of_viable (h : Rejects u next y) (hy : y ≠ .closeParen) (hy' : y ≠ .continuation)
    (ht : Viable x (u ++ [t])) : t.kind ∈ y.kinds := by
  by_contra hkind
  cases h
  case complete => contradiction
  case stopped hs =>
    have hnext : ∀ t' ∈ ahead t, t'.kind ∉ y.kinds := by
      unfold ahead
      split <;> simp [hkind]
    exact Rejects.not_viable (.stopped (hs.of_next hy hnext)) ht

end After

end Parse

open Grammar Parse

-- What a failure to parse says to be expected is told by the tokens before the one where it stands:
-- 1. it is what is expected behind these, and its text names the kinds that are
-- 2. a token of any of these kinds fits there, so that some text of the grammar goes on with it
-- 3. no other token does, unless the end of an operand stands before it
theorem parse_expects_by_last_read {ts : List Token} {d : Diagnostic} (h : parse ts = .error d) :
    ∃ before t after, completed ts = before ++ t :: after ∧ d.span = t.span ∧
      (∀ t' ∈ before, t'.kind ≠ .stop) ∧
      whole (body ts) = .error ⟨(body ts).drop before.length, expectedAfter before⟩ ∧
      d.details = (expectedAfter before).message ∧
      (expectedAfter before).message = "Expected " ++ (if expectedAfter before = .identifier then
        "identifier" else alternatives ((expectedAfter before).kinds.map quoted)) ∧
      (∀ x t', t'.kind ∈ (expectedAfter before).kinds → Viable x (before ++ [t'])) ∧
      (expectedAfter before ≠ .closeParen → expectedAfter before ≠ .continuation →
        ∀ x t', Viable x (before ++ [t']) → t'.kind ∈ (expectedAfter before).kinds) ∧
      (expectedAfter before = .closeParen ∨ expectedAfter before = .continuation →
        ∃ rest last, before = rest ++ [last] ∧
          last.kind ∈ [.int, .float, .identifier, .closeParen]) := by
  obtain ⟨u, t, after, y, hts, hread, hrejects, hwhole, hd⟩ := exists_rejected h
  obtain rfl := expected_of_rejects hrejects
  refine ⟨u, t, after, hts, by rw [hd], hread, hwhole, by rw [hd], Expected.message_eq _, ?_, ?_,
    fun hoperand => exists_operand_end hoperand hread⟩
  case refine_1 =>
    intro x t' ht'
    obtain ⟨v, e, hd⟩ := hrejects.exists_extended ht'
    rw [← List.singleton_append, ← List.append_assoc] at hd
    exact viable_iff_one.mpr hd.viable
  case refine_2 =>
    intro hclose hcontinuation x t' ht'
    exact kind_mem_of_viable hrejects hclose hcontinuation ht'

-- The text of `(1 AND` asks for what begins a comparison, which an assignment does not.
theorem parse_expects_by_last_read_conjunction :
    let s := Source.ofString "a" "(1 AND"
    let o : Token := ⟨.openParen, none, .covering (.after s 0) 1⟩
    let one : Token := ⟨.int, some (.int 1), .covering (.after s 1) 1⟩
    let and : Token := ⟨.keyword .and, none, .covering (.after s 3) 3⟩
    let stop : Token := .stopAt (.after s 6)
    parse [o, one, and, stop] = .error ⟨.invalidSyntax,
        "Expected INT, FLOAT, IDENTIFIER, '+', '-', '(' or 'NOT'", stop.span, []⟩ ∧
      expectedAfter [o, one, and] = .comparison ∧
      Viable .many [o, one, and, o] ∧
      ¬Viable .many [o, one, and, ⟨.keyword .var, none, default⟩] := by
  intro s o one and stop
  have hparse : parse [o, one, and, stop] = .error ⟨.invalidSyntax,
      "Expected INT, FLOAT, IDENTIFIER, '+', '-', '(' or 'NOT'", stop.span, []⟩ := by
    decide +kernel
  obtain ⟨before, t, after, hts, hspan, hread, _, _, _, hfits, hmisfits, _⟩ :=
    parse_expects_by_last_read hparse
  change [o, one, and, stop] = before ++ t :: after at hts
  have hspans : o.span ≠ stop.span ∧ one.span ≠ stop.span ∧ and.span ≠ stop.span := by decide
  -- The span tells which of the four tokens it is.
  rcases before with _ | ⟨a, _ | ⟨b, _ | ⟨c, _ | ⟨d, before⟩⟩⟩⟩ <;> simp at hts
  · exact absurd (hts.left ▸ hspan.symm) hspans.left
  · exact absurd (hts.right.left ▸ hspan.symm) hspans.right.left
  · exact absurd (hts.right.right.left ▸ hspan.symm) hspans.right.right
  · obtain ⟨rfl, rfl, rfl, _⟩ := hts
    have hafter : expectedAfter [o, one, and] = .comparison := rfl
    rw [hafter] at hfits hmisfits
    refine ⟨hparse, hafter, hfits .many o (by decide), fun h => ?_⟩
    exact absurd (hmisfits (by decide) (by decide) .many _ h) (by decide)

end Reckoner
