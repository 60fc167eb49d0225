import Reckoner.Proofs.Grammar

namespace Reckoner

namespace Parse

open Grammar (Rule Derives operators)

-- The result of a rule that has read something, with the rest of the tokens.
def Reads {α : Type} {p : List Token → Prop} (r : Except Stop (α × { rest // p rest })) (a : α)
    (rest : List Token) : Prop :=
  ∃ h, r = .ok (a, ⟨rest, h⟩)

section Reads

variable {α : Type} {p : List Token → Prop} {a b : α} {ts rest : List Token} {t : Token}
  {e l : Expr} {level : Level} {kind : Token.Kind} {expected : Expected}

theorem reads_ok {x : { rest // p rest }} : Reads (.ok (b, x)) a rest ↔ b = a ∧ x.val = rest := by
  grind [Reads]

theorem reads_error {stop : Stop} : ¬Reads (p := p) (.error stop) a rest := by
  simp [Reads]

theorem reads_expect : Reads (expect kind expected ts) t rest ↔ ts = t :: rest ∧ t.kind = kind := by
  cases ts <;> simp [Reads, expect]
  case cons => split <;> simp <;> grind

theorem expect_fails_iff :
    (∃ stop, expect kind expected ts = .error stop) ↔ ∀ t ∈ ts.head?, t.kind ≠ kind := by
  cases ts <;> simp [expect]
  case cons => split <;> simp_all

theorem reads_orExpected {r : Front Expr ts} :
    Reads (orExpected expected r) e rest ↔ Reads r e rest := by
  cases r <;> simp [Reads, orExpected]

-- Each rule decides by the first token what it reads.

theorem reads_expression : Reads (expression ts) e rest ↔
    (∃ var name eq more value, ts = var :: name :: eq :: more ∧ var.kind = .keyword .var ∧
      name.kind = .identifier ∧ eq.kind = .assign ∧ Reads (expression more) value rest ∧
      e = .assign name value) ∨
    (∀ t ∈ ts.head?, t.kind ≠ .keyword .var) ∧ Reads (joined .logical ts) e rest := by
  rw [expression]
  constructor
  case mp =>
    intro h
    split at h
    case h_2 hv => exact .inr ⟨expect_fails_iff.mp ⟨_, hv⟩, reads_orExpected.mp h⟩
    case h_1 hv =>
      split at h <;> try exact absurd h reads_error
      case h_2 hn =>
        split at h <;> try exact absurd h reads_error
        case h_2 ha =>
          split at h <;> try exact absurd h reads_error
          case h_2 hr =>
            obtain ⟨hts, hv'⟩ := reads_expect.mp ⟨_, hv⟩
            obtain ⟨hts₁, hn'⟩ := reads_expect.mp ⟨_, hn⟩
            obtain ⟨hts₂, ha'⟩ := reads_expect.mp ⟨_, ha⟩
            obtain ⟨he, hrest⟩ := reads_ok.mp h
            subst hts hts₁ hts₂ hrest
            exact .inl ⟨_, _, _, _, _, rfl, hv', hn', ha', ⟨_, hr⟩, he.symm⟩
  case mpr =>
    rintro (⟨var, name, eq, more, value, rfl, hv, hn, ha, ⟨hlt, h⟩, rfl⟩ | ⟨hv, h⟩)
    · simp [expect, hv, hn, ha, h, reads_ok]
    · obtain ⟨stop, hv⟩ : ∃ stop, expect _ .expression ts = .error stop := expect_fails_iff.mpr hv
      rw [hv]
      exact reads_orExpected.mpr h

theorem reads_comparison : Reads (comparison ts) e rest ↔
    (∃ t more inner, ts = t :: more ∧ t.kind = .keyword .not ∧ Reads (comparison more) inner rest ∧
      e = .unary t inner) ∨
    (∀ t ∈ ts.head?, t.kind ≠ .keyword .not) ∧ Reads (joined .relational ts) e rest := by
  rw [comparison]
  constructor
  case mp =>
    intro h
    split at h
    case h_2 ht => exact .inr ⟨expect_fails_iff.mp ⟨_, ht⟩, reads_orExpected.mp h⟩
    case h_1 ht =>
      split at h <;> try exact absurd h reads_error
      case h_2 hr =>
        obtain ⟨hts, ht'⟩ := reads_expect.mp ⟨_, ht⟩
        obtain ⟨he, hrest⟩ := reads_ok.mp h
        subst hts hrest
        exact .inl ⟨_, _, _, rfl, ht', ⟨_, hr⟩, he.symm⟩
  case mpr =>
    rintro (⟨t, more, inner, rfl, ht, ⟨hlt, h⟩, rfl⟩ | ⟨ht, h⟩)
    · simp [expect, ht, h, reads_ok]
    · obtain ⟨stop, ht⟩ : ∃ stop, expect _ .comparison ts = .error stop := expect_fails_iff.mpr ht
      rw [ht]
      exact reads_orExpected.mpr h

theorem reads_factor : Reads (factor ts) e rest ↔
    (∃ t more inner, ts = t :: more ∧ (t.kind = .plus ∨ t.kind = .minus) ∧
      Reads (factor more) inner rest ∧ e = .unary t inner) ∨
    (∀ t ∈ ts.head?, ¬(t.kind = .plus ∨ t.kind = .minus)) ∧ Reads (joined .power ts) e rest := by
  cases ts <;> rw [factor]
  case nil => simp
  case cons t more =>
    constructor
    case mp =>
      intro h
      split at h
      case isFalse ht => exact .inr ⟨by simpa using ht, h⟩
      case isTrue ht =>
        split at h <;> try exact absurd h reads_error
        case h_2 hr =>
          obtain ⟨he, hrest⟩ := reads_ok.mp h
          subst hrest
          exact .inl ⟨_, _, _, rfl, ht, ⟨_, hr⟩, he.symm⟩
    case mpr =>
      rintro (⟨t, more, inner, hts, ht, ⟨hlt, h⟩, rfl⟩ | ⟨ht, h⟩)
      · cases hts
        simp [ht, h, reads_ok]
      · simpa [ht t rfl] using h

theorem reads_atom : Reads (atom ts) e rest ↔
    (∃ t, ts = t :: rest ∧ (t.kind = .int ∨ t.kind = .float) ∧ e = .number t) ∨
    (∃ t, ts = t :: rest ∧ t.kind = .identifier ∧ e = .var t) ∨
    (∃ o c more, ts = o :: more ∧ o.kind = .openParen ∧ c.kind = .closeParen ∧
      Reads (expression more) e (c :: rest)) := by
  cases ts <;> rw [atom]
  case nil => simp [reads_error]
  case cons t more =>
    constructor
    case mp =>
      intro h
      split at h
      case h_5 => exact absurd h reads_error
      case h_4 ht =>
        split at h <;> try exact absurd h reads_error
        case h_2 hr =>
          split at h <;> try exact absurd h reads_error
          case h_2 hc =>
            obtain ⟨hts, hc'⟩ := reads_expect.mp ⟨_, hc⟩
            obtain ⟨he, hrest⟩ := reads_ok.mp h
            subst hts hrest he
            exact .inr <| .inr ⟨_, _, _, rfl, ht, hc', ⟨_, hr⟩⟩
      all_goals
        obtain ⟨he, hrest⟩ := reads_ok.mp h
        subst hrest
        simp_all
    case mpr =>
      rintro (⟨t, hts, ht, rfl⟩ | ⟨t, hts, ht, rfl⟩ | ⟨o, c, more, hts, ho, hc, ⟨hlt, h⟩⟩)
      · cases hts
        rcases ht with ht | ht <;> simp [ht, reads_ok]
      · cases hts
        simp [ht, reads_ok]
      · cases hts
        simp [ho, h, hc, expect, reads_ok]

theorem reads_joined : Reads (joined level ts) e rest ↔
    ∃ l mid, Reads (operand level ts) l mid ∧ Reads (continued level l mid) e rest := by
  rw [joined]
  constructor
  case mp =>
    intro h
    split at h <;> try exact absurd h reads_error
    case h_2 hl =>
      split at h <;> try exact absurd h reads_error
      case h_2 hr =>
        obtain ⟨he, hrest⟩ := reads_ok.mp h
        subst he hrest
        exact ⟨_, _, ⟨_, hl⟩, ⟨_, hr⟩⟩
  case mpr =>
    rintro ⟨l, mid, ⟨hlt, hl⟩, ⟨hle, h⟩⟩
    simp [hl, h, reads_ok]

theorem reads_continued : Reads (continued level l ts) e rest ↔
    (∃ t more r mid, ts = t :: more ∧ t.kind ∈ operators level ∧
      Reads (rightOperand level more) r mid ∧ Reads (continued level (.binary l t r) mid) e rest) ∨
    (∀ t ∈ ts.head?, t.kind ∉ operators level) ∧ e = l ∧ rest = ts := by
  cases ts <;> rw [continued]
  case nil => simp [reads_ok, eq_comm]
  case cons t more =>
    simp only [Grammar.joins_iff]
    constructor
    case mp =>
      intro h
      split at h
      case isFalse ht =>
        obtain ⟨he, hrest⟩ := reads_ok.mp h
        exact .inr ⟨by simpa using ht, he.symm, hrest.symm⟩
      case isTrue ht =>
        split at h <;> try exact absurd h reads_error
        case h_2 hr =>
          split at h <;> try exact absurd h reads_error
          case h_2 hc =>
            obtain ⟨he, hrest⟩ := reads_ok.mp h
            subst he hrest
            exact .inl ⟨_, _, _, _, rfl, ht, ⟨_, hr⟩, ⟨_, hc⟩⟩
    case mpr =>
      rintro (⟨t, more, r, mid, hts, ht, ⟨hlt, hr⟩, ⟨hle, h⟩⟩ | ⟨ht, rfl, rfl⟩)
      · cases hts
        simp [ht, hr, h, reads_ok]
      · simp [ht t rfl, reads_ok]

end Reads

-- The part of parsing that carries out a rule of the grammar.
def ofRule : Rule → (ts : List Token) → Front Expr ts
  | .expression => expression
  | .comparison => comparison
  | .chain level => joined level
  | .factor => factor
  | .atom => atom

theorem ofRule_operand (level : Level) : ofRule (Grammar.operand level) = operand level := by
  funext ts
  cases level <;> rw [operand] <;> rfl

theorem ofRule_right (level : Level) : ofRule (Grammar.right level) = rightOperand level := by
  funext ts
  cases level <;> simp [rightOperand, Grammar.right, ofRule_operand]
  case power => rfl

-- How loosely an operator can bind and still continue what a rule has read. An operator that binds
-- more tightly continues the last operand. After an atom any operator may follow.
def reach : Rule → Nat
  | .expression => Level.depth .logical
  | .comparison => Level.depth .relational
  | .chain level => level.depth
  | .factor => Level.depth .power
  | .atom => 0

-- No operator stands at the front that would continue what a rule has read.
def Ends (r : Rule) (rest : List Token) : Prop :=
  ∀ t ∈ rest.head?, ∀ level : Level, level.depth ≤ reach r → t.kind ∉ operators level

section Ends

variable {r r' : Rule} {rest : List Token} {t : Token} {level : Level}

theorem Ends.nil : Ends r [] := by
  simp [Ends]

theorem Ends.mono (h : Ends r rest) (hr : reach r' ≤ reach r) : Ends r' rest :=
  fun t ht level hl => h t ht level (Nat.le_trans hl hr)

theorem Ends.atom : Ends .atom rest := by
  intro t _ level hl
  cases level <;> simp [reach] at hl

theorem Ends.silent (h : t.kind ∈ Grammar.silent) : Ends r (t :: rest) := by
  intro t' ht level _ hop
  cases ht
  exact Grammar.operators_not_silent hop h

-- An operator ends everything that may stand before it in a chain of its level.
theorem Ends.operator (h : t.kind ∈ operators level) (hr : reach r < level.depth) :
    Ends r (t :: rest) := by
  intro t' ht other hl hop
  cases ht
  cases Grammar.operators_disjoint h hop
  omega

theorem Ends.chain_iff : Ends (.chain level) rest ↔
    (∀ t ∈ rest.head?, t.kind ∉ operators level) ∧ Ends (Grammar.operand level) rest := by
  constructor
  case mp =>
    intro h
    refine ⟨fun t ht => h t ht level (Nat.le_refl _), h.mono ?_⟩
    cases level <;> decide
  case mpr =>
    intro ⟨h, h'⟩ t ht other hl hop
    by_cases heq : other = level
    case pos => exact h t ht (heq ▸ hop)
    case neg =>
      refine h' t ht other ?_ hop
      cases level <;> cases other <;> simp_all [reach, Grammar.operand]

end Ends

-- How many steps of sixteen a rule may take before it has read a token, as in the definition of
-- parsing.
def rank : Rule → Nat
  | .expression => 13
  | .comparison => 10
  | .chain level => level.depth + 1
  | .factor => 3
  | .atom => 0

theorem rank_lt (r : Rule) : rank r < 16 := by
  cases r <;> try decide
  case chain level => exact Nat.lt_of_le_of_lt (Nat.succ_le_succ level.depth_le) (by decide)

theorem rank_operand_lt (level : Level) : rank (Grammar.operand level) < level.depth + 1 := by
  cases level <;> decide

section Soundness

variable {α : Type} {a : α} {ts rest u : List Token} {e l : Expr} {level : Level}

theorem Reads.length_lt {r : Front α ts} : Reads r a rest → rest.length < ts.length
  | ⟨h, _⟩ => h

mutual

-- A rule reads a word that it derives, and as much as it can.
theorem Reads.derives : (r : Rule) → {ts rest : List Token} → {e : Expr} →
    Reads (ofRule r ts) e rest → (∃ w, ts = w ++ rest ∧ Derives .one r w e) ∧ Ends r rest
  | .expression, ts, rest, e, h => by
    rcases reads_expression.mp h with ⟨_, _, _, _, _, hts, hv, hn, ha, hin, rfl⟩ | ⟨_, hin⟩
    · have ⟨⟨w, hw, hd⟩, he⟩ := Reads.derives .expression hin
      exact ⟨⟨_, by simp [hts, hw], .assignment hv hn ha hd⟩, he⟩
    · have ⟨⟨w, hw, hd⟩, he⟩ := Reads.derives (.chain .logical) hin
      exact ⟨⟨_, hw, .logical hd⟩, he⟩
  | .comparison, ts, rest, e, h => by
    rcases reads_comparison.mp h with ⟨_, _, _, hts, ht, hin, rfl⟩ | ⟨_, hin⟩
    · have ⟨⟨w, hw, hd⟩, he⟩ := Reads.derives .comparison hin
      exact ⟨⟨_, by simp [hts, hw], .not ht hd⟩, he⟩
    · have ⟨⟨w, hw, hd⟩, he⟩ := Reads.derives (.chain .relational) hin
      exact ⟨⟨_, hw, .relational hd⟩, he⟩
  | .factor, ts, rest, e, h => by
    rcases reads_factor.mp h with ⟨_, _, _, hts, ht, hin, rfl⟩ | ⟨_, hin⟩
    · have ⟨⟨w, hw, hd⟩, he⟩ := Reads.derives .factor hin
      exact ⟨⟨_, by simp [hts, hw], .sign ht hd⟩, he⟩
    · have ⟨⟨w, hw, hd⟩, he⟩ := Reads.derives (.chain .power) hin
      exact ⟨⟨_, hw, .power hd⟩, he⟩
  | .atom, ts, rest, e, h => by
    refine ⟨?_, .atom⟩
    rcases reads_atom.mp h with ⟨t, hts, ht, rfl⟩ | ⟨t, hts, ht, rfl⟩ | ⟨_, _, _, hts, ho, hc, hin⟩
    · exact ⟨[t], hts, .number ht⟩
    · exact ⟨[t], hts, .name ht⟩
    · have ⟨⟨w, hw, hd⟩, _⟩ := Reads.derives .expression hin
      exact ⟨_, by simp [hts, hw], .parens ho hc hd⟩
  | .chain level, ts, rest, e, h => by
    have ⟨l, mid, hl, hc⟩ := reads_joined.mp h
    rw [← ofRule_operand] at hl
    have hlt := hl.length_lt
    have hrank := rank_operand_lt level
    have ⟨⟨u, hu, hd⟩, he⟩ := Reads.derives _ hl
    have hleft := hd.left_of_operand
    have ⟨⟨w, hw, hd⟩, he⟩ := Reads.derives_continued hc (.operand hd) (.inl hleft) he
    exact ⟨⟨_, by simp [hu, hw], hd⟩, he⟩
termination_by r ts => 16 * ts.length + rank r
decreasing_by
  all_goals
    try have hlen := congrArg List.length hts
    simp only [rank, Level.depth, List.length_cons] at *
    omega

-- The invariant of a chain: what was joined so far is itself a chain, and it can be continued
-- unless no operator of the level follows. After an exponent none does.
theorem Reads.derives_continued {level : Level} {ts rest u : List Token} {l e : Expr}
    (h : Reads (continued level l ts) e rest) (hl : Derives .one (.chain level) u l)
    (hnext : Derives .one (Grammar.left .one level) u l ∨
      ∀ t ∈ ts.head?, t.kind ∉ operators level)
    (hends : Ends (Grammar.operand level) ts) :
    (∃ w, ts = w ++ rest ∧ Derives .one (.chain level) (u ++ w) e) ∧ Ends (.chain level) rest := by
  rcases reads_continued.mp h with ⟨t, more, r, mid, hts, ht, hr, hc⟩ | ⟨ht, rfl, rfl⟩
  case inr => exact ⟨⟨[], by simp, by simpa using hl⟩, Ends.chain_iff.mpr ⟨ht, hends⟩⟩
  case inl =>
    rw [← ofRule_right] at hr
    have hlt := hr.length_lt
    have hrank := rank_lt (Grammar.right level)
    have ⟨⟨v, hv, hd⟩, he⟩ := Reads.derives _ hr
    have hleft := hnext.resolve_right (fun h => h t (by simp [hts]) ht)
    have hjoin := Derives.join ht hleft hd
    have hnext : Derives .one (Grammar.left .one level) (u ++ t :: v) (.binary l t r) ∨
        ∀ t ∈ mid.head?, t.kind ∉ operators level := by
      cases level
      case power => exact .inr fun t ht => he t ht .power (Nat.le_refl _)
      all_goals exact .inl hjoin
    have hends : Ends (Grammar.operand level) mid := he.mono (by cases level <;> decide)
    have ⟨⟨w, hw, hd⟩, he⟩ := Reads.derives_continued hc hjoin hnext hends
    exact ⟨⟨t :: v ++ w, by simp [hts, hv, hw], by simpa using hd⟩, he⟩
termination_by 16 * ts.length
decreasing_by
  all_goals
    have hlen := congrArg List.length hts
    simp only [List.length_cons] at hlen
    omega

end

end Soundness

-- The rule whose end shows that the words of a rule cannot go on but by an operator of their level.
def follow : Rule → Rule
  | .chain level => Grammar.right level
  | r => r

theorem reach_follow_le (r : Rule) : reach (follow r) ≤ reach r := by
  cases r <;> try exact Nat.le_refl _
  case chain level => cases level <;> decide

theorem reach_operand_le (level : Level) :
    reach (Grammar.operand level) ≤ reach (Grammar.right level) := by
  cases level <;> decide

-- What parsing by a rule has come to when it has made a tree of the tokens before the rest. A chain
-- has come only to the point where it looks for its next operator.
def Reaches (r : Rule) (ts : List Token) (e : Expr) (rest : List Token) : Prop :=
  match r with
  | .chain level =>
    ∀ e' rest', Reads (continued level e rest) e' rest' → Reads (joined level ts) e' rest'
  | r => Reads (ofRule r ts) e rest

section Completeness

variable {r : Rule} {ts rest w : List Token} {e l : Expr} {level : Level}

theorem Reaches.reads (h : Reaches r ts e rest) (hends : Ends r rest) :
    Reads (ofRule r ts) e rest := by
  cases r <;> try exact h
  case chain level =>
    exact h _ _ <| reads_continued.mpr <| .inr ⟨(Ends.chain_iff.mp hends).left, rfl, rfl⟩

theorem Reaches.chain_of_operand (h : Reads (ofRule (Grammar.operand level) ts) l rest) :
    Reaches (.chain level) ts l rest := by
  intro e' rest' hc
  rw [ofRule_operand] at h
  exact reads_joined.mpr ⟨_, _, h, hc⟩

theorem Reaches.chain_of_left (h : Reaches (Grammar.left .one level) ts l rest) :
    Reaches (.chain level) ts l rest := by
  cases level <;> try exact h
  case power => exact chain_of_operand h

-- Reading goes by the first token, which tells the alternatives of a rule apart.
theorem head?_append_ne (h : Derives .one r w e) {kind : Token.Kind} (hk : kind ∉ Grammar.first r) :
    ∀ t ∈ (w ++ rest).head?, t.kind ≠ kind := by
  have ⟨t, v, hw, ht⟩ := h.exists_first
  subst hw
  intro t' ht' hkind
  cases ht'
  exact hk (hkind ▸ ht)

theorem reaches_of_derives (h : Derives .one r w e) (hends : Ends (follow r) rest) :
    Reaches r (w ++ rest) e rest := by
  induction h generalizing rest
  case assignment hv hn ha _ ih =>
    exact reads_expression.mpr <| .inl ⟨_, _, _, _, _, rfl, hv, hn, ha, ih hends, rfl⟩
  case logical hd ih =>
    have hends' := hends.mono (reach_follow_le (.chain .logical))
    exact reads_expression.mpr <| .inr ⟨head?_append_ne hd (by decide), (ih hends').reads hends⟩
  case not ht _ ih =>
    exact reads_comparison.mpr <| .inl ⟨_, _, _, rfl, ht, ih hends, rfl⟩
  case relational hd ih =>
    have hends' := hends.mono (reach_follow_le (.chain .relational))
    exact reads_comparison.mpr <| .inr ⟨head?_append_ne hd (by decide), (ih hends').reads hends⟩
  case sign ht _ ih =>
    exact reads_factor.mpr <| .inl ⟨_, _, _, rfl, ht, ih hends, rfl⟩
  case power hd ih =>
    have hends' := hends.mono (reach_follow_le (.chain .power))
    refine reads_factor.mpr <| .inr ⟨fun t ht => not_or.mpr ⟨?_, ?_⟩, (ih hends').reads hends⟩
    · exact head?_append_ne hd (by decide) t ht
    · exact head?_append_ne hd (by decide) t ht
  case number ht => exact reads_atom.mpr <| .inl ⟨_, rfl, ht, rfl⟩
  case name ht => exact reads_atom.mpr <| .inr <| .inl ⟨_, rfl, ht, rfl⟩
  case parens o c w e ho hc _ ih =>
    have hends : Ends .expression (c :: rest) := .silent (by simp [hc, Grammar.silent])
    rw [List.append_assoc]
    exact reads_atom.mpr <| .inr <| .inr ⟨o, c, w ++ c :: rest, rfl, ho, hc, ih hends⟩
  case operand level w e _ ih =>
    have hends := hends.mono (reach_operand_le level)
    exact .chain_of_operand <| (ih (hends.mono (reach_follow_le _))).reads hends
  case join level t u v l r ht _ _ ihl ihr =>
    -- The operator ends what stands before it, for it binds more loosely than all operators there;
    -- before an exponent stands but an atom.
    have hleft : Ends (follow (Grammar.left .one level)) (t :: v ++ rest) := by
      cases level
      case power => exact .atom
      all_goals exact .operator ht (by decide)
    have hright := (ihr (hends.mono (reach_follow_le _))).reads hends
    rw [ofRule_right] at hright
    intro e' rest' hc
    have hcont := reads_continued.mpr <| .inl ⟨t, v ++ rest, r, rest, rfl, ht, hright, hc⟩
    rw [List.append_assoc]
    exact (ihl hleft).chain_of_left _ _ hcont

-- A rule reads exactly the words that it derives, if they are followed by what ends it.
theorem reads_iff_derives (hends : Ends r rest) :
    Reads (ofRule r (w ++ rest)) e rest ↔ Derives .one r w e := by
  constructor
  case mp =>
    intro h
    have ⟨⟨w', hw, hd⟩, _⟩ := h.derives
    exact List.append_cancel_right hw ▸ hd
  case mpr =>
    intro h
    exact (reaches_of_derives h (hends.mono (reach_follow_le r))).reads hends

end Completeness

theorem whole_eq_ok_iff {ts : List Token} {e : Expr} :
    whole ts = .ok e ↔ Derives .one .expression ts e := by
  rw [← reads_iff_derives Ends.nil, List.append_nil]
  change _ ↔ Reads (expression ts) e []
  rw [whole]
  split
  case h_1 h => simp [h, reads_error]
  case h_2 h => simp [h, reads_ok]
  case h_3 h => simp [h, reads_ok]

theorem body_eq_self {ts : List Token} (h : ∀ t ∈ ts, t.kind ≠ .stop) : body ts = ts :=
  List.takeWhile_eq_self_iff.mpr fun t ht => decide_eq_true (h t ht)

theorem body_append_stop {before after : List Token} {stop : Token} (h : stop.kind = .stop) :
    body (before ++ stop :: after) = body before := by
  simp [body, List.takeWhile_append, h]
  intro hlen
  exact (List.takeWhile_sublist _).eq_of_length hlen |>.symm

theorem ending_append_stop {before after : List Token} {stop : Token} (h : stop.kind = .stop) :
    ending (before ++ stop :: after) = ending (before ++ [stop]) := by
  simp [ending, List.find?_append, h]

end Parse

open Grammar

theorem parse_eq_ok_iff {ts : List Token} {e : Expr} :
    parse ts = .ok e ↔ Derives .one .expression (Parse.body ts) e := by
  rw [← Parse.whole_eq_ok_iff, parse]
  cases Parse.whole (Parse.body ts) <;> simp [Except.mapError]

theorem parse_append_stop {before after : List Token} {stop : Token} (h : stop.kind = .stop) :
    parse (before ++ stop :: after) = parse (before ++ [stop]) := by
  simp only [parse, Parse.body_append_stop h, Parse.ending_append_stop h]

-- A word has at most one tree.
theorem Grammar.Derives.unique {w : List Token} {e e' : Expr}
    (h : Derives .one .expression w e) (h' : Derives .one .expression w e') : e = e' := by
  have heq := Parse.whole_eq_ok_iff.mpr h |>.symm.trans <| Parse.whole_eq_ok_iff.mpr h'
  injection heq

-- Parsing accepts the tokens before the first one that ends the text exactly if the grammar does,
-- and gives their only tree:
-- 1. which holds these very tokens, but for those that only group or mark an assignment
-- 2. whatever follows the token that ends the text
-- 3. and the grammar accepts no more and no less if exponents can be repeated
theorem parse_follows_grammar (ts : List Token) :
    (∀ e, parse ts = .ok e ↔ Derives .one .expression (Parse.body ts) e) ∧
    (∀ e e', Derives .one .expression (Parse.body ts) e →
      Derives .one .expression (Parse.body ts) e' → e = e') ∧
    (∀ e, Derives .one .expression (Parse.body ts) e →
      e.tokens = (Parse.body ts).filter (·.kind ∉ silent)) ∧
    (∀ before stop after, ts = before ++ stop :: after → stop.kind = .stop →
      parse ts = parse (before ++ [stop])) ∧
    ((∃ e, Derives .one .expression (Parse.body ts) e) ↔
      ∃ e, Derives .many .expression (Parse.body ts) e) := by
  refine ⟨fun _ => parse_eq_ok_iff, fun _ _ h h' => h.unique h', fun _ h => h.tokens_eq, ?_,
    derives_one_iff_many⟩
  intro before stop after hts hstop
  rw [hts]
  exact parse_append_stop hstop

-- The tokens of `2 ^ - 2`, and two more behind the end of the text.
theorem parse_follows_grammar_exponent :
    let two : Token := ⟨.int, some (.int 2), default⟩
    let caret : Token := ⟨.caret, none, default⟩
    let minus : Token := ⟨.minus, none, default⟩
    let stop : Token := ⟨.stop, none, default⟩
    let tree := Expr.binary (.number two) caret (.unary minus (.number two))
    Derives .one .expression [two, caret, minus, two] tree ∧
      parse [two, caret, minus, two, stop, caret, two] = .ok tree ∧
      parse [two, caret, minus, two, stop] = .ok tree := by
  intro two caret minus stop tree
  have hatom : Derives .one .atom [two] (.number two) := .number (.inl rfl)
  have hsign : Derives .one .factor [minus, two] (.unary minus (.number two)) :=
    .sign (.inr rfl) (.power (.operand hatom))
  have hpower : Derives .one (.chain .power) [two, caret, minus, two] tree :=
    .join (u := [two]) (by decide) hatom hsign
  have hderives : Derives .one .expression [two, caret, minus, two] tree :=
    .logical (.operand (.relational (.operand (.operand (.operand (.power hpower))))))
  have ⟨hiff, _, _, hafter, _⟩ := parse_follows_grammar [two, caret, minus, two, stop, caret, two]
  have hparse := (hiff tree).mpr hderives
  have hstop := hafter [two, caret, minus, two] stop [caret, two] rfl rfl
  exact ⟨hderives, hparse, hstop ▸ hparse⟩

end Reckoner
