import Reckoner.Proofs.Parsing

namespace Reckoner

namespace Grammar

open Parse (Level Expected)

-- What a rule expects before it has read anything.
def opening : Rule → Expected
  | .expression => .expression
  | .comparison | .chain .logical => .comparison
  | .factor | .atom | .chain _ => .operand

theorem first_operand (level : Level) : first (operand level) = first (.chain level) := by
  cases level <;> rfl

theorem opening_operand (level : Level) : opening (operand level) = opening (.chain level) := by
  cases level <;> rfl

-- The tokens that a rule has read when the next one, if there is one, stops it, and what would have
-- fitted instead. A rule that has read nothing speaks for itself, and else for the rule within it
-- that was stopped.
inductive Stops : Rule → List Token → Option Token → Expected → Prop
  | start {r next} : (∀ t ∈ next, t.kind ∉ first r) → Stops r [] next (opening r)
  | identifier {var : Token} {next : Option Token} :
    var.kind = .keyword .var → (∀ t ∈ next, t.kind ≠ .identifier) →
    Stops .expression [var] next .identifier
  | assign {var name : Token} {next : Option Token} :
    var.kind = .keyword .var → name.kind = .identifier → (∀ t ∈ next, t.kind ≠ .assign) →
    Stops .expression [var, name] next .assign
  | value {var name eq : Token} {u next x} :
    var.kind = .keyword .var → name.kind = .identifier → eq.kind = .assign →
    Stops .expression u next x → Stops .expression (var :: name :: eq :: u) next x
  | logical {u next x} : u ≠ [] → Stops (.chain .logical) u next x → Stops .expression u next x
  | not {t : Token} {u next x} :
    t.kind = .keyword .not → Stops .comparison u next x → Stops .comparison (t :: u) next x
  | relational {u next x} :
    u ≠ [] → Stops (.chain .relational) u next x → Stops .comparison u next x
  | sign {t : Token} {u next x} :
    t.kind = .plus ∨ t.kind = .minus → Stops .factor u next x → Stops .factor (t :: u) next x
  | power {u next x} : u ≠ [] → Stops (.chain .power) u next x → Stops .factor u next x
  | inside {o : Token} {u next x} :
    o.kind = .openParen → Stops .expression u next x → Stops .atom (o :: u) next x
  | close {o : Token} {u e} {next : Option Token} :
    o.kind = .openParen → Derives .one .expression u e →
    (∀ t ∈ next, t.kind ≠ .closeParen ∧ ∀ level, t.kind ∉ operators level) →
    Stops .atom (o :: u) next .closeParen
  | operand {level u next x} :
    u ≠ [] → Stops (operand level) u next x → Stops (.chain level) u next x
  | right {level} {t : Token} {u v l next x} :
    Derives .one (left .one level) u l → t.kind ∈ operators level → Stops (right level) v next x →
    Stops (.chain level) (u ++ t :: v) next x

namespace Stops

variable {r : Rule} {u : List Token} {next : Option Token} {x : Expected} {level : Level}

theorem nil_iff : Stops r [] next x ↔ (∀ t ∈ next, t.kind ∉ first r) ∧ x = opening r := by
  constructor
  case mp =>
    intro h
    generalize hu : [] = u at h
    cases h <;> simp at hu
    case start h => exact ⟨h, rfl⟩
    all_goals contradiction
  case mpr =>
    intro ⟨h, hx⟩
    exact hx ▸ .start h

-- What stops the first part of a rule stops the rule.

theorem chain (h : Stops (Grammar.operand level) u next x) : Stops (.chain level) u next x := by
  by_cases hu : u = []
  case neg => exact .operand hu h
  case pos =>
    subst hu
    have ⟨hnext, hx⟩ := nil_iff.mp h
    exact nil_iff.mpr ⟨first_operand level ▸ hnext, hx.trans (opening_operand level)⟩

theorem factor (h : Stops (.chain .power) u next x)
    (hsign : u = [] → ∀ t ∈ next, ¬(t.kind = .plus ∨ t.kind = .minus)) :
    Stops .factor u next x := by
  by_cases hu : u = []
  case neg => exact .power hu h
  case pos =>
    subst hu
    have ⟨hnext, hx⟩ := nil_iff.mp h
    refine nil_iff.mpr ⟨fun t ht => ?_, hx⟩
    have hsign := hsign rfl t ht
    have hnext := hnext t ht
    simp_all [first]

theorem comparison (h : Stops (.chain .relational) u next x)
    (hnot : u = [] → ∀ t ∈ next, t.kind ≠ .keyword .not) :
    Stops .comparison u next (if u = [] then .comparison else x) := by
  by_cases hu : u = []
  case neg => exact (if_neg hu).symm ▸ .relational hu h
  case pos =>
    subst hu
    have ⟨hnext, _⟩ := nil_iff.mp h
    refine nil_iff.mpr ⟨fun t ht => ?_, rfl⟩
    have hnot := hnot rfl t ht
    have hnext := hnext t ht
    simp_all [first]

theorem expression (h : Stops (.chain .logical) u next x)
    (hvar : u = [] → ∀ t ∈ next, t.kind ≠ .keyword .var) :
    Stops .expression u next (if u = [] then .expression else x) := by
  by_cases hu : u = []
  case neg => exact (if_neg hu).symm ▸ .logical hu h
  case pos =>
    subst hu
    have ⟨hnext, _⟩ := nil_iff.mp h
    refine nil_iff.mpr ⟨fun t ht => ?_, rfl⟩
    have hvar := hvar rfl t ht
    have hnext := hnext t ht
    simp_all [first]

end Stops

-- The tokens of a text before the one at which it stops being an expression or one that goes on.
inductive Rejects (u : List Token) (next : Option Token) : Expected → Prop
  | stopped {x} : Stops .expression u next x → Rejects u next x
  | complete {e t} : Derives .one .expression u e → next = some t →
    (∀ level, t.kind ∉ operators level) → Rejects u next .continuation

end Grammar

namespace Parse

open Grammar (Rule Derives Stops opening operators)

section Fails

variable {ts : List Token} {stop : Stop} {kind : Token.Kind} {expected : Expected} {level : Level}
  {l : Expr}

theorem expect_cons {t : Token} (h : t.kind = kind) :
    expect kind expected (t :: ts) = .ok (t, ⟨ts, by simp⟩) := by
  simp [expect, h]

theorem fails_expect : expect kind expected ts = .error stop ↔
    (∀ t ∈ ts.head?, t.kind ≠ kind) ∧ stop = ⟨ts, expected⟩ := by
  cases ts <;> simp [expect, eq_comm]
  case cons => split <;> simp_all

-- Each rule decides by the first tokens what stops it.

theorem fails_expression : expression ts = .error stop ↔
    (∃ var more, ts = var :: more ∧ var.kind = .keyword .var ∧
      (∀ t ∈ more.head?, t.kind ≠ .identifier) ∧ stop = ⟨more, .identifier⟩) ∨
    (∃ var name more, ts = var :: name :: more ∧ var.kind = .keyword .var ∧
      name.kind = .identifier ∧ (∀ t ∈ more.head?, t.kind ≠ .assign) ∧ stop = ⟨more, .assign⟩) ∨
    (∃ var name eq more, ts = var :: name :: eq :: more ∧ var.kind = .keyword .var ∧
      name.kind = .identifier ∧ eq.kind = .assign ∧ expression more = .error stop) ∨
    (∀ t ∈ ts.head?, t.kind ≠ .keyword .var) ∧
      orExpected .expression (joined .logical ts) = .error stop := by
  rw [expression]
  constructor
  case mp =>
    intro h
    split at h
    case h_2 hv => exact .inr <| .inr <| .inr ⟨(fails_expect.mp hv).left, h⟩
    case h_1 hv =>
      obtain ⟨hts, hv'⟩ := reads_expect.mp ⟨_, hv⟩
      split at h
      case h_1 hn =>
        obtain ⟨hn', hstop⟩ := fails_expect.mp hn
        cases h
        exact .inl ⟨_, _, hts, hv', hn', hstop⟩
      case h_2 hn =>
        obtain ⟨hts₁, hn'⟩ := reads_expect.mp ⟨_, hn⟩
        split at h
        case h_1 ha =>
          obtain ⟨ha', hstop⟩ := fails_expect.mp ha
          cases h
          exact .inr <| .inl ⟨_, _, _, hts₁ ▸ hts, hv', hn', ha', hstop⟩
        case h_2 ha =>
          obtain ⟨hts₂, ha'⟩ := reads_expect.mp ⟨_, ha⟩
          split at h
          case h_1 he =>
            cases h
            exact .inr <| .inr <| .inl ⟨_, _, _, _, hts₂ ▸ hts₁ ▸ hts, hv', hn', ha', he⟩
          case h_2 => cases h
  case mpr =>
    rintro (⟨var, more, rfl, hv, hn, rfl⟩ | ⟨var, name, more, rfl, hv, hn, ha, rfl⟩ |
      ⟨var, name, eq, more, rfl, hv, hn, ha, h⟩ | ⟨hv, h⟩)
    · simp [expect_cons hv, fails_expect.mpr ⟨hn, rfl⟩]
    · simp [expect_cons hv, expect_cons hn, fails_expect.mpr ⟨ha, rfl⟩]
    · simp [expect_cons hv, expect_cons hn, expect_cons ha, h]
    · simp [fails_expect.mpr ⟨hv, rfl⟩, h]

theorem fails_comparison : comparison ts = .error stop ↔
    (∃ t more, ts = t :: more ∧ t.kind = .keyword .not ∧ comparison more = .error stop) ∨
    (∀ t ∈ ts.head?, t.kind ≠ .keyword .not) ∧
      orExpected .comparison (joined .relational ts) = .error stop := by
  rw [comparison]
  constructor
  case mp =>
    intro h
    split at h
    case h_2 ht => exact .inr ⟨(fails_expect.mp ht).left, h⟩
    case h_1 ht =>
      obtain ⟨hts, ht'⟩ := reads_expect.mp ⟨_, ht⟩
      split at h
      case h_1 he =>
        cases h
        exact .inl ⟨_, _, hts, ht', he⟩
      case h_2 => cases h
  case mpr =>
    rintro (⟨t, more, rfl, ht, h⟩ | ⟨ht, h⟩)
    · simp [expect_cons ht, h]
    · simp [fails_expect.mpr ⟨ht, rfl⟩, h]

theorem fails_factor : factor ts = .error stop ↔
    (∃ t more, ts = t :: more ∧ (t.kind = .plus ∨ t.kind = .minus) ∧ factor more = .error stop) ∨
    (∀ t ∈ ts.head?, ¬(t.kind = .plus ∨ t.kind = .minus)) ∧ joined .power ts = .error stop := by
  cases ts <;> rw [factor]
  case nil => simp
  case cons t more =>
    constructor
    case mp =>
      intro h
      split at h
      case isFalse ht => exact .inr ⟨by simpa using ht, h⟩
      case isTrue ht =>
        split at h
        case h_1 he =>
          cases h
          exact .inl ⟨_, _, rfl, ht, he⟩
        case h_2 => cases h
    case mpr =>
      rintro (⟨t, more, hts, ht, h⟩ | ⟨ht, h⟩)
      · cases hts
        simp [ht, h]
      · simpa [ht t rfl] using h

theorem fails_atom : atom ts = .error stop ↔
    (∀ t ∈ ts.head?, t.kind ∉ Grammar.first .atom) ∧ stop = ⟨ts, .operand⟩ ∨
    (∃ o more, ts = o :: more ∧ o.kind = .openParen ∧ expression more = .error stop) ∨
    (∃ o more e rest, ts = o :: more ∧ o.kind = .openParen ∧ Reads (expression more) e rest ∧
      (∀ t ∈ rest.head?, t.kind ≠ .closeParen) ∧ stop = ⟨rest, .closeParen⟩) := by
  cases ts <;> rw [atom]
  case nil => simp [eq_comm]
  case cons t more =>
    constructor
    case mp =>
      intro h
      split at h
      case h_4 ht =>
        split at h
        case h_1 he =>
          cases h
          exact .inr <| .inl ⟨_, _, rfl, ht, he⟩
        case h_2 he =>
          split at h
          case h_1 hc =>
            obtain ⟨hc', hstop⟩ := fails_expect.mp hc
            cases h
            exact .inr <| .inr ⟨_, _, _, _, rfl, ht, ⟨_, he⟩, hc', hstop⟩
          case h_2 => cases h
      case h_5 =>
        cases h
        refine .inl ⟨?_, rfl⟩
        simp only [Grammar.first, List.head?_cons, Option.mem_some_iff, forall_eq', List.mem_cons,
          List.not_mem_nil, or_false, not_or]
        and_intros <;> assumption
      all_goals cases h
    case mpr =>
      rintro (⟨ht, rfl⟩ | ⟨o, more, hts, ho, h⟩ | ⟨o, more, e, rest, hts, ho, ⟨hlt, h⟩, hc, rfl⟩)
      · simp [Grammar.first] at ht
        simp [ht]
      · cases hts
        simp [ho, h]
      · cases hts
        simp [ho, h, fails_expect.mpr ⟨hc, rfl⟩]

theorem fails_joined : joined level ts = .error stop ↔
    operand level ts = .error stop ∨
    ∃ l mid, Reads (operand level ts) l mid ∧ continued level l mid = .error stop := by
  rw [joined]
  constructor
  case mp =>
    intro h
    split at h
    case h_1 hl =>
      cases h
      exact .inl hl
    case h_2 hl =>
      split at h
      case h_1 hr =>
        cases h
        exact .inr ⟨_, _, ⟨_, hl⟩, hr⟩
      case h_2 => cases h
  case mpr =>
    rintro (h | ⟨l, mid, ⟨hlt, hl⟩, h⟩)
    · simp [h]
    · simp [hl, h]

theorem fails_continued : continued level l ts = .error stop ↔
    ∃ t more, ts = t :: more ∧ t.kind ∈ operators level ∧
      (rightOperand level more = .error stop ∨ ∃ r mid, Reads (rightOperand level more) r mid ∧
        continued level (.binary l t r) mid = .error stop) := by
  cases ts <;> rw [continued]
  case nil => simp
  case cons t more =>
    simp only [Grammar.joins_iff]
    constructor
    case mp =>
      intro h
      split at h
      case isFalse => cases h
      case isTrue ht =>
        split at h
        case h_1 hr =>
          cases h
          exact ⟨_, _, rfl, ht, .inl hr⟩
        case h_2 hr =>
          split at h
          case h_1 hc =>
            cases h
            exact ⟨_, _, rfl, ht, .inr ⟨_, _, ⟨_, hr⟩, hc⟩⟩
          case h_2 => cases h
    case mpr =>
      rintro ⟨t, more, hts, ht, h | ⟨r, mid, ⟨hlt, hr⟩, h⟩⟩
      · cases hts
        simp [ht, h]
      · cases hts
        simp [ht, hr, h]

end Fails

-- An error that a rule replaces is one before its first token, and the new one stands there too.
theorem fails_orExpected {expected : Expected} {u rest : List Token} {x : Expected}
    {r : Front Expr (u ++ rest)} (h : r = .error ⟨rest, x⟩) :
    orExpected expected r = .error ⟨rest, if u = [] then expected else x⟩ := by
  cases u <;> simp [h, orExpected]
  case cons => omega

section Soundness

mutual

theorem stops_of_fails : (r : Rule) → {ts : List Token} → {stop : Stop} →
    ofRule r ts = .error stop →
    ∃ u, ts = u ++ stop.rest ∧ Stops r u stop.rest.head? stop.expected
  | .expression, ts, stop, h => by
    rcases fails_expression.mp h with ⟨_, _, hts, hv, hn, rfl⟩ | ⟨_, _, _, hts, hv, hn, ha, rfl⟩ |
      ⟨_, _, _, _, hts, hv, hn, ha, hin⟩ | ⟨hv, hin⟩
    · exact ⟨_, hts, .identifier hv hn⟩
    · exact ⟨_, hts, .assign hv hn ha⟩
    · obtain ⟨u, hu, hs⟩ := stops_of_fails .expression hin
      exact ⟨_, by simp [hts, hu], .value hv hn ha hs⟩
    · cases hj : joined .logical ts <;> rw [hj] at hin
      case ok => cases hin
      case error inner =>
        obtain ⟨u, rfl, hs⟩ := stops_of_fails (.chain .logical) hj
        rw [fails_orExpected rfl, Except.error.injEq] at hin
        subst hin
        exact ⟨u, rfl, hs.expression fun hu => by simpa [hu] using hv⟩
  | .comparison, ts, stop, h => by
    rcases fails_comparison.mp h with ⟨_, _, hts, ht, hin⟩ | ⟨ht, hin⟩
    · obtain ⟨u, hu, hs⟩ := stops_of_fails .comparison hin
      exact ⟨_, by simp [hts, hu], .not ht hs⟩
    · cases hj : joined .relational ts <;> rw [hj] at hin
      case ok => cases hin
      case error inner =>
        obtain ⟨u, rfl, hs⟩ := stops_of_fails (.chain .relational) hj
        rw [fails_orExpected rfl, Except.error.injEq] at hin
        subst hin
        exact ⟨u, rfl, hs.comparison fun hu => by simpa [hu] using ht⟩
  | .factor, ts, stop, h => by
    rcases fails_factor.mp h with ⟨_, _, hts, ht, hin⟩ | ⟨ht, hin⟩
    · obtain ⟨u, hu, hs⟩ := stops_of_fails .factor hin
      exact ⟨_, by simp [hts, hu], .sign ht hs⟩
    · obtain ⟨u, rfl, hs⟩ := stops_of_fails (.chain .power) hin
      exact ⟨u, rfl, hs.factor fun hu => by simpa [hu] using ht⟩
  | .atom, ts, stop, h => by
    rcases fails_atom.mp h with
      ⟨ht, rfl⟩ | ⟨_, _, hts, ho, hin⟩ | ⟨_, _, _, _, hts, ho, hin, hc, rfl⟩
    · exact ⟨[], rfl, .start ht⟩
    · obtain ⟨u, hu, hs⟩ := stops_of_fails .expression hin
      exact ⟨_, by simp [hts, hu], .inside ho hs⟩
    · obtain ⟨⟨w, hw, hd⟩, he⟩ := Reads.derives .expression hin
      exact ⟨_, by simp [hts, hw], .close ho hd fun t ht =>
        ⟨hc t ht, fun level => he t ht level level.depth_le⟩⟩
  | .chain level, ts, stop, h => by
    have hrank := rank_operand_lt level
    rcases fails_joined.mp h with hl | ⟨l, mid, hl, hc⟩ <;> rw [← ofRule_operand] at hl
    · obtain ⟨u, hu, hs⟩ := stops_of_fails _ hl
      exact ⟨u, hu, hs.chain⟩
    · have hlt := hl.length_lt
      obtain ⟨⟨u, hu, hd⟩, _⟩ := hl.derives
      obtain ⟨v, hv, hs⟩ := stops_of_continued hc (.inl hd.left_of_operand)
      exact ⟨_, by simp [hu, hv], hs⟩
termination_by r ts => 16 * ts.length + rank r
decreasing_by
  all_goals
    try have hlen := congrArg List.length hts
    simp only [rank, Level.depth, List.length_cons] at *
    omega

-- The invariant of a chain is the one of reading it: no second exponent is looked for.
theorem stops_of_continued {level : Level} {ts u : List Token} {l : Expr} {stop : Stop}
    (h : continued level l ts = .error stop)
    (hnext : Derives .one (Grammar.left .one level) u l ∨
      ∀ t ∈ ts.head?, t.kind ∉ operators level) :
    ∃ v, ts = v ++ stop.rest ∧ Stops (.chain level) (u ++ v) stop.rest.head? stop.expected := by
  obtain ⟨t, more, hts, ht, hr⟩ := fails_continued.mp h
  have hleft := hnext.resolve_right (fun h => h t (by simp [hts]) ht)
  have hrank := rank_lt (Grammar.right level)
  rcases hr with hr | ⟨r, mid, hr, hc⟩ <;> rw [← ofRule_right] at hr
  · obtain ⟨v, hv, hs⟩ := stops_of_fails _ hr
    exact ⟨_, by simp [hts, hv], .right hleft ht hs⟩
  · have hlt := hr.length_lt
    obtain ⟨⟨v, hv, hd⟩, he⟩ := hr.derives
    have hnext : Derives .one (Grammar.left .one level) (u ++ t :: v) (.binary l t r) ∨
        ∀ t ∈ mid.head?, t.kind ∉ operators level := by
      cases level
      case power => exact .inr fun t ht => he t ht .power (Nat.le_refl _)
      all_goals exact .inl (.join ht hleft hd)
    obtain ⟨w, hw, hs⟩ := stops_of_continued hc hnext
    exact ⟨t :: v ++ w, by simp [hts, hv, hw], by simpa using hs⟩
termination_by 16 * ts.length
decreasing_by
  all_goals
    have hlen := congrArg List.length hts
    simp only [List.length_cons] at hlen
    omega

end

end Soundness

section Completeness

variable {r : Rule} {ts rest u : List Token} {t : Token} {next : Option Token} {x : Expected}
  {l : Expr} {level : Level} {stop : Stop}

theorem fails_of_start : (r : Rule) → (∀ t ∈ ts.head?, t.kind ∉ Grammar.first r) →
    ofRule r ts = .error ⟨ts, opening r⟩
  | .expression, h => by
    have hfirst : ∀ k ∈ Grammar.first (.chain .logical), k ∈ Grammar.first .expression := by decide
    have hj := fails_of_start (.chain .logical) fun t ht hk => h t ht (hfirst _ hk)
    refine fails_expression.mpr <| .inr <| .inr <| .inr ⟨fun t ht hk => ?_, ?_⟩
    · exact h t ht (hk ▸ by decide)
    · exact fails_orExpected (u := []) hj
  | .comparison, h => by
    have hfirst : ∀ k ∈ Grammar.first (.chain .relational), k ∈ Grammar.first .comparison := by
      decide
    have hj := fails_of_start (.chain .relational) fun t ht hk => h t ht (hfirst _ hk)
    refine fails_comparison.mpr <| .inr ⟨fun t ht hk => ?_, ?_⟩
    · exact h t ht (hk ▸ by decide)
    · exact fails_orExpected (u := []) hj
  | .factor, h => by
    have hfirst : ∀ k ∈ Grammar.first (.chain .power), k ∈ Grammar.first .factor := by decide
    have hj := fails_of_start (.chain .power) fun t ht hk => h t ht (hfirst _ hk)
    refine fails_factor.mpr <| .inr ⟨fun t ht hk => ?_, hj⟩
    rcases hk with hk | hk <;> exact h t ht (hk ▸ by decide)
  | .atom, h => fails_atom.mpr <| .inl ⟨h, rfl⟩
  | .chain level, h => by
    have hrank := rank_operand_lt level
    have hl := fails_of_start (Grammar.operand level) (Grammar.first_operand level ▸ h)
    rw [ofRule_operand, Grammar.opening_operand] at hl
    exact fails_joined.mpr <| .inl hl
termination_by r => rank r
decreasing_by
  case _ | _ | _ => decide
  case _ => exact hrank

-- What was joined before an operator is read as its left operand, and then the operator decides.

theorem fails_of_chain (h : Derives .one (.chain level) u l)
    (hlevel : reach (Grammar.right level) < level.depth) (ht : t.kind ∈ operators level)
    (hfail : continued level l (t :: rest) = .error stop) :
    joined level (u ++ t :: rest) = .error stop := by
  generalize hr : Rule.chain level = r at h
  induction h generalizing t rest <;> cases hr
  case operand hd _ =>
    have hends : Ends (Grammar.operand level) (t :: rest) :=
      .operator ht (Nat.lt_of_le_of_lt (reach_operand_le level) hlevel)
    have hl := (reads_iff_derives hends).mpr hd
    rw [ofRule_operand] at hl
    exact fails_joined.mpr <| .inr ⟨_, _, hl, hfail⟩
  case join t' u v l r ht' hl hr ihl _ =>
    have hends : Ends (Grammar.right level) (t :: rest) := .operator ht hlevel
    have hright := (reads_iff_derives hends).mpr hr
    rw [ofRule_right] at hright
    have hcont : continued level l (t' :: (v ++ t :: rest)) = .error stop :=
      fails_continued.mpr ⟨_, _, rfl, ht', .inr ⟨_, _, hright, hfail⟩⟩
    have hleft : Rule.chain level = Grammar.left .one level := by
      cases level <;> first | rfl | exact absurd hlevel (by decide)
    rw [List.append_assoc]
    exact ihl ht' hcont hleft

theorem fails_of_left (h : Derives .one (Grammar.left .one level) u l)
    (ht : t.kind ∈ operators level) (hfail : continued level l (t :: rest) = .error stop) :
    joined level (u ++ t :: rest) = .error stop := by
  cases level
  case power =>
    have hends : Ends .atom (t :: rest) := .atom
    have hl := (reads_iff_derives hends).mpr h
    exact fails_joined.mpr <| .inr ⟨_, _, by rwa [operand], hfail⟩
  all_goals exact fails_of_chain h (by decide) ht hfail

-- A rule that has read something has begun with a token that it can begin with.
theorem mem_first_of_fails (h : ofRule r (u ++ rest) = .error ⟨rest, x⟩) (hu : u ≠ []) :
    ∀ t ∈ (u ++ rest).head?, t.kind ∈ Grammar.first r := by
  by_contra hfirst
  cases u
  case nil => contradiction
  case cons t u =>
    have hstart : ofRule r (t :: u ++ rest) = _ := fails_of_start r (by simpa using hfirst)
    have hlength := congrArg (List.length ∘ Stop.rest) (Except.error.inj (h.symm.trans hstart))
    simp at hlength
    omega

theorem fails_of_stops (h : Stops r u next x) (hrest : rest.head? = next) :
    ofRule r (u ++ rest) = .error ⟨rest, x⟩ := by
  induction h generalizing rest
  case start r next h => exact fails_of_start r (hrest ▸ h)
  case identifier hv hn =>
    exact fails_expression.mpr <| .inl ⟨_, _, rfl, hv, hrest ▸ hn, rfl⟩
  case assign hv hn ha =>
    exact fails_expression.mpr <| .inr <| .inl ⟨_, _, _, rfl, hv, hn, hrest ▸ ha, rfl⟩
  case value hv hn ha _ ih =>
    exact fails_expression.mpr <| .inr <| .inr <| .inl ⟨_, _, _, _, rfl, hv, hn, ha, ih hrest⟩
  case logical hu _ ih =>
    have hfirst := mem_first_of_fails (ih hrest) hu
    refine fails_expression.mpr <| .inr <| .inr <| .inr ⟨fun t ht hk => ?_, ?_⟩
    · exact absurd (hk ▸ hfirst t ht) (by decide)
    · exact (fails_orExpected (ih hrest)).trans (by rw [if_neg hu])
  case not ht _ ih => exact fails_comparison.mpr <| .inl ⟨_, _, rfl, ht, ih hrest⟩
  case relational hu _ ih =>
    have hfirst := mem_first_of_fails (ih hrest) hu
    refine fails_comparison.mpr <| .inr ⟨fun t ht hk => ?_, ?_⟩
    · exact absurd (hk ▸ hfirst t ht) (by decide)
    · exact (fails_orExpected (ih hrest)).trans (by rw [if_neg hu])
  case sign ht _ ih => exact fails_factor.mpr <| .inl ⟨_, _, rfl, ht, ih hrest⟩
  case power hu _ ih =>
    have hfirst := mem_first_of_fails (ih hrest) hu
    refine fails_factor.mpr <| .inr ⟨fun t ht hk => ?_, ih hrest⟩
    rcases hk with hk | hk <;> exact absurd (hk ▸ hfirst t ht) (by decide)
  case inside ho _ ih => exact fails_atom.mpr <| .inr <| .inl ⟨_, _, rfl, ho, ih hrest⟩
  case close ho hd hc =>
    have hends : Ends .expression rest := fun t ht level _ => (hc t (hrest ▸ ht)).right level
    have hin := (reads_iff_derives hends).mpr hd
    exact fails_atom.mpr <| .inr <| .inr
      ⟨_, _, _, _, rfl, ho, hin, fun t ht => (hc t (hrest ▸ ht)).left, rfl⟩
  case operand ih =>
    have hl := ih hrest
    rw [ofRule_operand] at hl
    exact fails_joined.mpr <| .inl hl
  case right hd ht _ ih =>
    have hr := ih hrest
    rw [ofRule_right] at hr
    rw [List.append_assoc]
    exact fails_of_left hd ht <| fails_continued.mpr ⟨_, _, rfl, ht, .inl hr⟩

end Completeness

theorem whole_eq_error_iff {ts : List Token} {stop : Stop} :
    whole ts = .error stop ↔
      ∃ u, ts = u ++ stop.rest ∧ Grammar.Rejects u stop.rest.head? stop.expected := by
  constructor
  case mp =>
    intro h
    rw [whole] at h
    split at h
    case h_1 he =>
      cases h
      obtain ⟨u, hu, hs⟩ := stops_of_fails .expression he
      exact ⟨u, hu, .stopped hs⟩
    case h_2 => cases h
    case h_3 he =>
      cases h
      obtain ⟨⟨u, hu, hd⟩, hends⟩ := Reads.derives .expression ⟨_, he⟩
      exact ⟨u, hu, .complete hd rfl fun level => hends _ rfl level level.depth_le⟩
  case mpr =>
    rintro ⟨u, hu, h⟩
    obtain ⟨rest, expected⟩ := stop
    subst hu
    cases h
    case stopped hs =>
      have hfails : expression (u ++ rest) = .error ⟨rest, expected⟩ := fails_of_stops hs rfl
      rw [whole, hfails]
    case complete e t hd ht hnext =>
      obtain ⟨rest, hrest⟩ := List.head?_eq_some_iff.mp hnext
      subst hrest
      have hends : Ends .expression (t :: rest) := by
        rintro _ ⟨⟩ level _
        exact ht level
      obtain ⟨hlt, he⟩ := (reads_iff_derives hends).mpr hd
      change expression _ = _ at he
      rw [whole, he]

end Parse

end Reckoner
