import Reckoner.Proofs.Walking

namespace Reckoner

open Parse (Level Expected Stop Reads ofRule)
open Grammar (Rule Derives operators)

namespace Walk

section Agreement

open Parse (ofRule_operand ofRule_right rank rank_lt rank_operand_lt)

variable {tape : Tape}

mutual

-- What parsing reads is read by the walk.
theorem goes_of_reads : (r : Rule) → {us rest : List Token} → {e : Expr} →
    Reads (ofRule r us) e rest → Goes tape (Rule.walk tape.tokens r) us (.ok e) rest
  | .expression, us, rest, e, h => by
    rw [Rule.walk]
    refine goes_cursor.bind ?_
    rcases Parse.reads_expression.mp h with ⟨_, _, _, _, _, hus, hv, hn, ha, hin, rfl⟩ | ⟨hv, hin⟩
    · have hin := goes_of_reads .expression hin
      rw [hus]
      exact .of_check hv <| goes_advance.bind <| (goes_consume hn).bind <|
        (goes_consume ha).bind <| hin.bind .pure
    · have hin := goes_of_reads (.chain .logical) hin
      exact .of_not_check (by decide) hv hin.onFault_ok
  | .comparison, us, rest, e, h => by
    rw [Rule.walk]
    refine goes_cursor.bind ?_
    rcases Parse.reads_comparison.mp h with ⟨_, _, _, hus, ht, hin, rfl⟩ | ⟨ht, hin⟩
    · have hin := goes_of_reads .comparison hin
      rw [hus]
      exact .of_check ht <| goes_advance.bind <| hin.bind .pure
    · have hin := goes_of_reads (.chain .relational) hin
      exact .of_not_check (by decide) ht hin.onFault_ok
  | .factor, us, rest, e, h => by
    rw [Rule.walk]
    refine goes_check.bind <| goes_check.bind ?_
    rcases Parse.reads_factor.mp h with ⟨_, _, _, hus, ht, hin, rfl⟩ | ⟨ht, hin⟩
    · have hin := goes_of_reads .factor hin
      subst hus
      rw [if_pos (by simpa using ht)]
      exact goes_advance.bind <| hin.bind .pure
    · have hin := goes_of_reads (.chain .power) hin
      have ht := tape.kind_headD (p := fun k => ¬(k = .plus ∨ k = .minus)) (by decide) ht
      rwa [if_neg (by simpa using ht)]
  | .atom, us, rest, e, h => by
    rw [Rule.walk]
    refine goes_peek.bind ?_
    rcases Parse.reads_atom.mp h with
      ⟨t, hus, ht, rfl⟩ | ⟨t, hus, ht, rfl⟩ | ⟨o, c, more, hus, ho, hc, hin⟩
    · subst hus
      rcases ht with ht | ht <;> simp only [List.headD_cons, ht] <;> exact goes_advance.bind .pure
    · subst hus
      simp only [List.headD_cons, ht]
      exact goes_advance.bind .pure
    · have hin := goes_of_reads .expression hin
      subst hus
      simp only [List.headD_cons, ho]
      exact goes_advance.bind <| hin.bind <| (goes_consume hc).bind .pure
  | .chain level, us, rest, e, h => by
    obtain ⟨l, mid, hl, hc⟩ := Parse.reads_joined.mp h
    rw [← ofRule_operand] at hl
    have hlt := hl.length_lt
    have hrank := rank_operand_lt level
    rw [Rule.walk]
    exact (goes_of_reads _ hl).bind (goes_of_reads_continued hc)
termination_by r us => 16 * us.length + rank r
decreasing_by
  all_goals
    try have hlen := congrArg List.length hus
    simp only [rank, Level.depth, List.length_cons] at *
    omega

theorem goes_of_reads_continued {level : Level} {us rest : List Token} {l e : Expr}
    (h : Reads (Parse.continued level l us) e rest) :
    Goes tape (Level.walkOn tape.tokens level l) us (.ok e) rest := by
  rw [Level.walkOn]
  refine goes_peek.bind ?_
  rcases Parse.reads_continued.mp h with ⟨t, more, r, mid, hus, ht, hr, hc⟩ | ⟨ht, rfl, rfl⟩
  case inl =>
    rw [← ofRule_right] at hr
    have hlt := hr.length_lt
    have hrank := rank_lt (Grammar.right level)
    have hright := goes_of_reads _ hr
    have hloop := goes_of_reads_continued hc
    subst hus
    rw [if_pos (by simpa using ht)]
    exact goes_advance.bind <| hright.bind hloop
  case inr =>
    rw [if_neg (tape.kind_headD (p := (· ∉ operators level)) (by cases level <;> decide) ht)]
    exact .pure
termination_by 16 * us.length
decreasing_by
  all_goals
    have hlen := congrArg List.length hus
    simp only [List.length_cons] at hlen
    omega

end

mutual

-- Where parsing stops the walk stops, and for the same reason.
theorem goes_of_fails : (r : Rule) → {us : List Token} → {stop : Stop} →
    ofRule r us = .error stop →
    Goes tape (Rule.walk tape.tokens r) us (.error (tape.rejection stop)) stop.rest
  | .expression, us, stop, h => by
    rw [Rule.walk]
    refine goes_cursor.bind ?_
    rcases Parse.fails_expression.mp h with ⟨_, _, hus, hv, hn, rfl⟩ |
      ⟨_, _, _, hus, hv, hn, ha, rfl⟩ | ⟨_, _, _, _, hus, hv, hn, ha, hin⟩ | ⟨hv, hin⟩
    · rw [hus]
      exact .of_check hv <| goes_advance.bind (goes_consume_error (by decide) hn).bind_error
    · rw [hus]
      exact .of_check hv <| goes_advance.bind <| (goes_consume hn).bind
        (goes_consume_error (by decide) ha).bind_error
    · have hin := goes_of_fails .expression hin
      rw [hus]
      exact .of_check hv <| goes_advance.bind <| (goes_consume hn).bind <|
        (goes_consume ha).bind hin.bind_error
    · cases hj : Parse.joined .logical us
      case ok => simp [hj, Parse.orExpected] at hin
      case error =>
        have hj' := goes_of_fails (.chain .logical) hj
        exact .of_not_check (by decide) hv (goes_unlessAdvanced hj' hj hin)
  | .comparison, us, stop, h => by
    rw [Rule.walk]
    refine goes_cursor.bind ?_
    rcases Parse.fails_comparison.mp h with ⟨_, _, hus, ht, hin⟩ | ⟨ht, hin⟩
    · have hin := goes_of_fails .comparison hin
      rw [hus]
      exact .of_check ht <| goes_advance.bind hin.bind_error
    · cases hj : Parse.joined .relational us
      case ok => simp [hj, Parse.orExpected] at hin
      case error =>
        have hj' := goes_of_fails (.chain .relational) hj
        exact .of_not_check (by decide) ht (goes_unlessAdvanced hj' hj hin)
  | .factor, us, stop, h => by
    rw [Rule.walk]
    refine goes_check.bind <| goes_check.bind ?_
    rcases Parse.fails_factor.mp h with ⟨_, _, hus, ht, hin⟩ | ⟨ht, hin⟩
    · have hin := goes_of_fails .factor hin
      subst hus
      rw [if_pos (by simpa using ht)]
      exact goes_advance.bind hin.bind_error
    · have hin := goes_of_fails (.chain .power) hin
      have ht := tape.kind_headD (p := fun k => ¬(k = .plus ∨ k = .minus)) (by decide) ht
      rwa [if_neg (by simpa using ht)]
  | .atom, us, stop, h => by
    rw [Rule.walk]
    refine goes_peek.bind ?_
    rcases Parse.fails_atom.mp h with
      ⟨ht, rfl⟩ | ⟨_, _, hus, ho, hin⟩ | ⟨_, _, _, _, hus, ho, hin, hc, rfl⟩
    · have ht := tape.kind_headD (p := (· ∉ Grammar.first .atom)) (by decide) ht
      simp only [Grammar.first, List.mem_cons, List.not_mem_nil, or_false, not_or] at ht
      split
      case h_5 => exact goes_reject
      all_goals simp_all
    · have hin := goes_of_fails .expression hin
      subst hus
      simp only [List.headD_cons, ho]
      exact goes_advance.bind hin.bind_error
    · have hin : Goes tape _ _ _ _ := goes_of_reads .expression hin
      subst hus
      simp only [List.headD_cons, ho]
      exact goes_advance.bind <| hin.bind (goes_consume_error (by decide) hc).bind_error
  | .chain level, us, stop, h => by
    have hrank := rank_operand_lt level
    rw [Rule.walk]
    rcases Parse.fails_joined.mp h with hl | ⟨l, mid, hl, hc⟩ <;> rw [← ofRule_operand] at hl
    · exact (goes_of_fails _ hl).bind_error
    · have hlt := hl.length_lt
      exact (goes_of_reads _ hl).bind (goes_of_fails_continued hc)
termination_by r us => 16 * us.length + rank r
decreasing_by
  all_goals
    try have hlen := congrArg List.length hus
    simp only [rank, Level.depth, List.length_cons] at *
    omega

theorem goes_of_fails_continued {level : Level} {us : List Token} {l : Expr} {stop : Stop}
    (h : Parse.continued level l us = .error stop) :
    Goes tape (Level.walkOn tape.tokens level l) us (.error (tape.rejection stop)) stop.rest := by
  obtain ⟨t, more, hus, ht, hr⟩ := Parse.fails_continued.mp h
  have hrank := rank_lt (Grammar.right level)
  rw [Level.walkOn]
  refine goes_peek.bind ?_
  rcases hr with hr | ⟨r, mid, hr, hc⟩ <;> rw [← ofRule_right] at hr
  · have hright := goes_of_fails _ hr
    subst hus
    rw [if_pos (by simpa using ht)]
    exact goes_advance.bind hright.bind_error
  · have hlt := hr.length_lt
    have hloop := goes_of_fails_continued hc
    subst hus
    rw [if_pos (by simpa using ht)]
    exact goes_advance.bind <| (goes_of_reads _ hr).bind hloop
termination_by 16 * us.length
decreasing_by
  all_goals
    have hlen := congrArg List.length hus
    simp only [List.length_cons] at hlen
    omega

end

-- After an exponent no other one follows, so the loop of a power is left after the first.

theorem goes_powered_of_reads {us rest : List Token} {e : Expr}
    (h : Reads (Parse.joined .power us) e rest) :
    Goes tape (powered tape.tokens) us (.ok e) rest := by
  obtain ⟨l, mid, hl, hc⟩ := Parse.reads_joined.mp h
  rw [← ofRule_operand] at hl
  refine (goes_of_reads .atom hl).bind <| goes_peek.bind ?_
  rcases Parse.reads_continued.mp hc with ⟨t, more, r, after, hmid, ht, hr, hloop⟩ | ⟨ht, rfl, rfl⟩
  case inl =>
    rw [← ofRule_right] at hr
    obtain ⟨_, hends⟩ := hr.derives
    have hright : Goes tape _ _ _ _ := goes_of_reads .factor hr
    subst hmid
    rw [if_pos (by simpa using ht)]
    rcases Parse.reads_continued.mp hloop with ⟨t', _, _, _, hafter, ht', _⟩ | ⟨_, rfl, rfl⟩
    case inl => exact absurd ht' (hends t' (by simp [hafter]) .power (Nat.le_refl _))
    case inr => exact goes_advance.bind <| hright.bind .pure
  case inr =>
    rw [if_neg (tape.kind_headD (p := (· ∉ operators .power)) (by decide) ht)]
    exact .pure

theorem goes_powered_of_fails {us : List Token} {stop : Stop}
    (h : Parse.joined .power us = .error stop) :
    Goes tape (powered tape.tokens) us (.error (tape.rejection stop)) stop.rest := by
  rcases Parse.fails_joined.mp h with hl | ⟨l, mid, hl, hc⟩ <;> rw [← ofRule_operand] at hl
  case inl => exact (goes_of_fails .atom hl).bind_error
  case inr =>
    obtain ⟨t, more, hmid, ht, hr⟩ := Parse.fails_continued.mp hc
    refine (goes_of_reads .atom hl).bind <| goes_peek.bind ?_
    rcases hr with hr | ⟨r, after, hr, hc⟩ <;> rw [← ofRule_right] at hr
    case inl =>
      have hright : Goes tape _ _ _ _ := goes_of_fails .factor hr
      subst hmid
      rw [if_pos (by simpa using ht)]
      exact goes_advance.bind hright.bind_error
    case inr =>
      obtain ⟨_, hends⟩ := hr.derives
      obtain ⟨t', _, hafter, ht', _⟩ := Parse.fails_continued.mp hc
      exact absurd ht' (hends t' (by simp [hafter]) .power (Nat.le_refl _))

theorem run_power_eq {us : List Token} (hus : us <:+ tape.before) (log : List Advance) :
    (Rule.walk tape.tokens (.chain .power)).runFrom ⟨tape.place us, log⟩ =
      (powered tape.tokens).runFrom ⟨tape.place us, log⟩ := by
  cases hresult : Parse.joined .power us
  case ok read =>
    obtain ⟨e, rest, hlt⟩ := read
    have hreads : Reads (Parse.joined .power us) e rest := ⟨hlt, hresult⟩
    exact (goes_of_reads (.chain .power) hreads).run_eq (goes_powered_of_reads hreads) hus log
  case error =>
    exact (goes_of_fails (.chain .power) hresult).run_eq (goes_powered_of_fails hresult) hus log

theorem goes_whole (tape : Tape) : ∃ rest, Goes tape (whole tape.tokens) tape.before
    ((Parse.whole tape.before).mapError tape.rejection) rest := by
  rw [Parse.whole]
  split
  case h_1 h => exact ⟨_, (goes_of_fails .expression h).bind_error⟩
  case h_2 h =>
    refine ⟨[], (goes_of_reads .expression ⟨_, h⟩).bind <| goes_peek.bind ?_⟩
    rw [if_pos (by exact tape.stops)]
    exact .pure
  case h_3 t rest _ h =>
    refine ⟨t :: rest, fun hbefore => ?_⟩
    have hgoes : Goes tape _ _ _ _ := goes_of_reads .expression ⟨_, h⟩
    obtain ⟨v, hv, _⟩ := hgoes hbefore
    have ht : t.kind ≠ .stop := tape.readable t (by simp [hv])
    refine hgoes.bind (goes_peek.bind ?_) hbefore
    rw [if_neg (by exact ht)]
    exact goes_reject

end Agreement

namespace Tape

variable {tape : Tape} {v rest : List Token} {k : Nat}

theorem drop_place (h : rest <:+ tape.before) : tape.before.drop (tape.place rest) = rest := by
  obtain ⟨front, hfront⟩ := h
  rw [place_of_append hfront, ← hfront, List.drop_left]

theorem place_drop (h : k ≤ tape.before.length) : tape.place (tape.before.drop k) = k := by
  rw [place, List.length_drop, Nat.sub_sub_self h]

-- The tokens between two places of the cursor.
theorem drop_take_place (h : v ++ rest <:+ tape.before) :
    (tape.tokens.take (tape.place rest)).drop (tape.place (v ++ rest)) = v := by
  obtain ⟨front, hfront⟩ := h
  rw [place_of_append hfront, place_of_append ((List.append_assoc ..).trans hfront), tokens,
    ← hfront, ← List.append_assoc front, List.append_assoc (front ++ v), List.take_left,
    List.drop_left]

theorem body_tokens (tape : Tape) : Parse.body tape.tokens = tape.before := by
  rw [tokens, Parse.body_append_stop tape.stops, Parse.body_eq_self tape.readable]

theorem findIdx_tokens (tape : Tape) :
    tape.tokens.findIdx (·.kind = .stop) = tape.before.length := by
  have hnone : tape.before.findIdx (·.kind = .stop) = tape.before.length :=
    List.findIdx_eq_length.mpr fun t ht => decide_eq_false (tape.readable t ht)
  rw [tokens, List.findIdx_append, hnone, if_neg (Nat.lt_irrefl _), List.findIdx_cons]
  simp [tape.stops]

end Tape

-- The tokens that are parsed are cut at the one that ends the text.
theorem exists_tape (ts : List Token) : ∃ tape : Tape, tape.tokens = Parse.completed ts ∧
    tape.before = Parse.body ts ∧ tape.stop = Parse.ending ts := by
  obtain ⟨after, hafter⟩ := Parse.exists_completed ts
  have hbody : ∀ t ∈ Parse.body ts, t.kind ≠ .stop := fun t ht => by
    simpa using List.mem_takeWhile_imp ht
  exact ⟨⟨Parse.body ts, Parse.ending ts, after, hbody, Parse.kind_ending ts⟩, hafter.symm, rfl,
    rfl⟩

-- A walk that was at an index of the list has gone on to another one.
structure Passes (ts : List Token) (k : Nat) (log : List Advance) (s : State) : Prop where
  -- The cursor is no further back, and not behind the first token that ends the text.
  le       : k ≤ s.current
  le_stop  : s.current ≤ ts.findIdx (·.kind = .stop)
  -- It has gone on by one call for each token between, made on that token and returning it, and
  -- none of them ends the text.
  advances : s.advances = log ++ ((ts.take s.current).drop k).map fun t => ⟨t, t⟩
  readable : ∀ t ∈ (ts.take s.current).drop k, t.kind ≠ .stop

-- What a rule that began at an index has come to.
def Answers (ts : List Token) (r : Rule) (k : Nat) (s : State) : Except Fault Expr → Prop
  -- A tree of the tokens between, of which there is at least one. The token at the cursor does not
  -- join operands at the level of the rule or at one that binds more tightly.
  | .ok e =>
    k < s.current ∧ Derives .one r ((ts.take s.current).drop k) e ∧
      (∃ t, ts[s.current]? = some t ∧
        ∀ level : Level, level.depth ≤ Parse.reach r → t.kind ∉ operators level) ∧
      Reads (ofRule r ((Parse.body ts).drop k)) e ((Parse.body ts).drop s.current)
  -- A failure that is reported at the token at the cursor.
  | .error (.rejected d) =>
    ∃ t x, ts[s.current]? = some t ∧ d = ⟨.invalidSyntax, x.message, t.span, []⟩ ∧
      ofRule r ((Parse.body ts).drop k) = .error ⟨(Parse.body ts).drop s.current, x⟩
  | .error .outside => False

section Keeping

variable {tape : Tape} {r : Rule} {v rest : List Token} {e : Expr} {stop : Stop}
  {log : List Advance}

theorem passes (h : v ++ rest <:+ tape.before) : Passes tape.tokens (tape.place (v ++ rest)) log
    ⟨tape.place rest, log ++ v.map fun t => ⟨t, t⟩⟩ where
  le       := Nat.sub_le_sub_left (by simp) _
  le_stop  := tape.findIdx_tokens ▸ tape.place_le rest
  advances := by rw [Tape.drop_take_place h]
  readable := by
    rw [Tape.drop_take_place h]
    exact fun t ht => Tape.ne_stop_of_suffix h t (List.mem_append_left rest ht)

theorem answers_of_reads (hus : v ++ rest <:+ tape.before)
    (h : Reads (ofRule r (v ++ rest)) e rest) :
    Answers tape.tokens r (tape.place (v ++ rest))
      ⟨tape.place rest, log ++ v.map fun t => ⟨t, t⟩⟩ (.ok e) := by
  have hrest : rest <:+ tape.before := (List.suffix_append v rest).trans hus
  obtain ⟨⟨w, hw, hderives⟩, hends⟩ := h.derives
  obtain rfl := List.append_cancel_right hw
  have hlt : tape.place (v ++ rest) < tape.place rest := by
    have hlength := h.length_lt
    have hle := hus.length_le
    rw [Tape.place, Tape.place]
    omega
  rw [Answers, Tape.drop_take_place hus, tape.body_tokens, Tape.drop_place hus,
    Tape.drop_place hrest]
  refine ⟨hlt, hderives, ⟨_, Tape.getElem?_place hrest, fun level hlevel => ?_⟩, h⟩
  exact tape.kind_headD (p := (· ∉ operators level)) (by cases level <;> decide)
    fun t ht => hends t ht level hlevel

theorem answers_of_fails (hus : v ++ stop.rest <:+ tape.before)
    (h : ofRule r (v ++ stop.rest) = .error stop) :
    Answers tape.tokens r (tape.place (v ++ stop.rest))
      ⟨tape.place stop.rest, log ++ v.map fun t => ⟨t, t⟩⟩ (.error (tape.rejection stop)) := by
  have hrest : stop.rest <:+ tape.before := (List.suffix_append v stop.rest).trans hus
  rw [Tape.rejection, Answers, tape.body_tokens, Tape.drop_place hus, Tape.drop_place hrest]
  exact ⟨_, stop.expected, Tape.getElem?_place hrest, rfl, h⟩

theorem exists_answer (tape : Tape) (r : Rule) {k : Nat} (hk : k ≤ tape.before.length)
    (log : List Advance) : ∃ result s,
      (Rule.walk tape.tokens r).runFrom ⟨k, log⟩ = some (result, s) ∧
        Passes tape.tokens k log s ∧ Answers tape.tokens r k s result := by
  have hus : tape.before.drop k <:+ tape.before := List.drop_suffix k tape.before
  have hplace := Tape.place_drop hk
  generalize tape.before.drop k = us at hus hplace
  subst hplace
  cases hresult : ofRule r us
  case ok read =>
    obtain ⟨e, rest, hlt⟩ := read
    have hreads : Reads (ofRule r us) e rest := ⟨hlt, hresult⟩
    obtain ⟨v, rfl, hrun⟩ := goes_of_reads r hreads hus
    exact ⟨_, _, hrun log, passes hus, answers_of_reads hus hreads⟩
  case error stop =>
    obtain ⟨v, rfl, hrun⟩ := goes_of_fails r hresult hus
    exact ⟨_, _, hrun log, passes hus, answers_of_fails hus hresult⟩

-- With no condition on the tokens, the walk along them as they are completed comes to what parsing
-- does.
theorem exists_run_whole (ts : List Token) : ∃ s,
    (whole (Parse.completed ts)).runFrom ⟨0, []⟩ = some ((parse ts).mapError .rejected, s) := by
  obtain ⟨tape, htokens, hbefore, hstop⟩ := exists_tape ts
  obtain ⟨rest, hgoes⟩ := goes_whole tape
  obtain ⟨v, _, hrun⟩ := hgoes (List.suffix_refl _)
  have hzero : tape.place tape.before = 0 := Nat.sub_self _
  have hresult : (Parse.whole tape.before).mapError tape.rejection =
      (parse ts).mapError .rejected := by
    rw [parse, hbefore]
    cases Parse.whole (Parse.body ts) <;> simp [Except.mapError, Tape.rejection, hstop]
  rw [hresult, hzero, htokens] at hrun
  exact ⟨_, hrun []⟩

end Keeping

end Walk

open Walk

section Misfit

open Parse (completed exists_rejected)
open Grammar (Viable viable_iff_one)

-- If parsing fails it is for the first token that cannot go on:
-- 1. what was read before it begins some text of the grammar, and with it begins none
-- 2. the token is at most the first one that ends the text
-- 3. the walk along the tokens fails for it too, and a failure of a rule of the walk that may be
--    replaced by a wider one stays at its token
theorem parse_fails_at_first_misfit {ts : List Token} {d : Diagnostic} (h : parse ts = .error d) :
    d.kind = .invalidSyntax ∧
    (∃ before t after, completed ts = before ++ t :: after ∧ d.span = t.span ∧
      (∀ t' ∈ before, t'.kind ≠ .stop) ∧
      (∀ x, Viable x before) ∧ ∀ x, ¬Viable x (before ++ [t])) ∧
    (∃ s, (whole (completed ts)).runFrom ⟨0, []⟩ = some (.error (.rejected d), s)) ∧
    ∀ k ≤ (completed ts).findIdx (·.kind = .stop), ∀ r log d' s,
      (Rule.walk (completed ts) r).runFrom ⟨k, log⟩ = some (.error (.rejected d'), s) →
        ∀ entry expected, ∃ d'', (unlessAdvanced (completed ts) entry expected
          (.rejected d')).runFrom s = some (.error (.rejected d''), s) ∧ d''.kind = d'.kind ∧
            d''.span = d'.span ∧ (s.current ≠ entry → d'' = d') := by
  obtain ⟨u, t, after, x, hts, hread, hrejects, _, hd⟩ := exists_rejected h
  refine ⟨by rw [hd], ⟨u, t, after, hts, by rw [hd], hread, fun y => ?begun, fun y => ?misfit⟩,
    ?walked, fun k hk r log d' s hrun entry expected => ?kept⟩
  case begun =>
    obtain ⟨kind, hkind⟩ : ∃ k, k ∈ x.kinds := by cases x <;> exact ⟨_, List.mem_cons_self ..⟩
    let t' : Token := ⟨kind, none, default⟩
    obtain ⟨v, e, hd⟩ := hrejects.exists_extended (t := t') hkind
    exact viable_iff_one.mpr hd.viable
  case misfit => exact hrejects.not_viable
  case walked =>
    have hwhole := exists_run_whole ts
    rwa [h] at hwhole
  case kept =>
    obtain ⟨tape, htokens, _⟩ := exists_tape ts
    rw [← htokens] at hk hrun ⊢
    rw [tape.findIdx_tokens] at hk
    obtain ⟨_, _, hrun', _, hanswers⟩ := exists_answer tape r hk log
    obtain ⟨rfl, rfl⟩ := Prod.mk.inj (Option.some.inj (hrun'.symm.trans hrun))
    obtain ⟨t', _, ht', rfl, _⟩ := hanswers
    exact run_unlessAdvanced ht' rfl rfl entry expected

-- In `(1 2` nothing but an operator or a parenthesis can stand where the second number does.
theorem parse_fails_at_first_misfit_unclosed :
    let s := Source.ofString "a" "(1 2"
    let o : Token := ⟨.openParen, none, .covering (.after s 0) 1⟩
    let one : Token := ⟨.int, some (.int 1), .covering (.after s 1) 1⟩
    let two : Token := ⟨.int, some (.int 2), .covering (.after s 3) 1⟩
    let stop : Token := .stopAt (.after s 4)
    parse [o, one, two] = .error ⟨.invalidSyntax, "Expected ')'", two.span, []⟩ ∧
      completed [o, one, two] = [o, one, two, stop] ∧
      Viable .many [o, one] ∧ ¬Viable .many [o, one, two] := by
  intro s o one two stop
  have hparse : parse [o, one, two] = .error ⟨.invalidSyntax, "Expected ')'", two.span, []⟩ := by
    decide +kernel
  obtain ⟨_, ⟨before, t, after, hts, hspan, _, hviable, hnot⟩, _⟩ :=
    parse_fails_at_first_misfit hparse
  change [o, one, two, stop] = before ++ t :: after at hts
  have hspans : o.span ≠ two.span ∧ one.span ≠ two.span ∧ stop.span ≠ two.span := by decide
  -- The span tells which of the four tokens it is.
  rcases before with _ | ⟨a, _ | ⟨b, _ | ⟨c, _ | ⟨d, before⟩⟩⟩⟩ <;> simp at hts
  · exact absurd (hts.left ▸ hspan.symm) hspans.left
  · exact absurd (hts.right.left ▸ hspan.symm) hspans.right.left
  · obtain ⟨rfl, rfl, rfl, _⟩ := hts
    exact ⟨hparse, rfl, hviable .many, hnot .many⟩
  · exact absurd (hts.right.right.right.left ▸ hspan.symm) hspans.right.right

end Misfit

-- A walk along a list of tokens that ends with one that ends the text, from any index up to the
-- first such token and by any rule:
-- 1. it has an end
-- 2. its cursor goes on from token to token up to at most that first one, by calls that are made on
--    the token they return, none of which ends the text
-- 3. it asks for no token outside the list
-- 4. it comes to the tree or the failure that parsing by the rule does
-- 5. the loop of a power is run through at most once
-- If the list is completed as for parsing, then with no condition on it the walk as a whole has an
-- end and comes to what parsing does.
theorem rules_walk_within_text (ts : List Token) :
    ((∃ t ∈ ts.getLast?, t.kind = .stop) → ∀ k log, k ≤ ts.findIdx (·.kind = .stop) →
      (∀ r, ∃ result s, (Rule.walk ts r).runFrom ⟨k, log⟩ = some (result, s) ∧
        Passes ts k log s ∧ Answers ts r k s result) ∧
      (Rule.walk ts (.chain .power)).runFrom ⟨k, log⟩ = (powered ts).runFrom ⟨k, log⟩) ∧
    ∃ s, (whole (Parse.completed ts)).runFrom ⟨0, []⟩ =
      some ((parse ts).mapError .rejected, s) := by
  refine ⟨?_, exists_run_whole ts⟩
  rintro ⟨t, hlast, hkind⟩ k log hk
  obtain ⟨tape, htokens, _⟩ := exists_tape ts
  have hcompleted : Parse.completed ts = ts := by
    simp [Parse.completed, Option.mem_def.mp hlast, hkind]
  rw [hcompleted] at htokens
  subst htokens
  rw [tape.findIdx_tokens] at hk
  refine ⟨fun r => exists_answer tape r hk log, ?_⟩
  have hpower := run_power_eq (List.drop_suffix k tape.before) log
  rwa [Tape.place_drop hk] at hpower

-- Of `1 ^ - 2 )` a power leaves the parenthesis, and does not come to the operator behind the end.
theorem rules_walk_within_text_power :
    let one : Token := ⟨.int, some (.int 1), default⟩
    let two : Token := ⟨.int, some (.int 2), default⟩
    let caret : Token := ⟨.caret, none, default⟩
    let minus : Token := ⟨.minus, none, default⟩
    let close : Token := ⟨.closeParen, none, default⟩
    let stop : Token := ⟨.stop, none, default⟩
    let ts := [one, caret, minus, two, close, stop, caret, stop]
    (∃ t ∈ ts.getLast?, t.kind = .stop) ∧ 0 ≤ ts.findIdx (·.kind = .stop) ∧
      ∃ s, (Rule.walk ts (.chain .power)).runFrom ⟨0, []⟩ =
          some (.ok (.binary (.number one) caret (.unary minus (.number two))), s) ∧
        s.current = 4 ∧ s.advances = [⟨one, one⟩, ⟨caret, caret⟩, ⟨minus, minus⟩, ⟨two, two⟩] := by
  intro one two caret minus close stop ts
  have hlast : ∃ t ∈ ts.getLast?, t.kind = .stop := ⟨stop, rfl, rfl⟩
  have hread : (ofRule (.chain .power) ((Parse.body ts).drop 0)).map (fun x => (x.1, x.2.val)) =
      .ok (.binary (.number one) caret (.unary minus (.number two)), [close]) := by
    decide +kernel
  obtain ⟨hrules, _⟩ := (rules_walk_within_text ts).left hlast 0 [] (Nat.zero_le _)
  obtain ⟨result, s, hrun, hpasses, hanswers⟩ := hrules (.chain .power)
  refine ⟨hlast, Nat.zero_le _, s, ?_⟩
  rcases result with (_ | d) | e
  case error.outside => exact hanswers.elim
  case error.rejected =>
    obtain ⟨_, _, _, _, hfails⟩ := hanswers
    rw [hfails] at hread
    cases hread
  case ok =>
    obtain ⟨_, _, _, _, hreads⟩ := hanswers
    rw [hreads] at hread
    have hresult := Except.ok.inj hread
    obtain ⟨rfl, hrest⟩ := Prod.mk.inj hresult
    have hbody : (Parse.body ts).length = 5 := rfl
    have hlength : (Parse.body ts).length - s.current = 1 := by
      simpa using congrArg List.length hrest
    have hcurrent : s.current = 4 := by omega
    refine ⟨hrun, hcurrent, ?_⟩
    rw [hpasses.advances, hcurrent]
    rfl

end Reckoner
