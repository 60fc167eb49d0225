import Reckoner.Proofs.Stopping

namespace Reckoner

-- The kinds of tokens that are named as what would have fitted.
def Parse.Expected.kinds : Parse.Expected → List Token.Kind
  | expression =>
    [.keyword .var, .int, .float, .identifier, .plus, .minus, .openParen, .keyword .not]
  | comparison => [.int, .float, .identifier, .plus, .minus, .openParen, .keyword .not]
  | operand => [.int, .float, .identifier, .plus, .minus, .openParen]
  | identifier => [.identifier]
  | assign => [.assign]
  | closeParen => [.closeParen]
  | continuation =>
    [.plus, .minus, .star, .slash, .caret, .equal, .notEqual, .less, .greater, .lessEqual,
     .greaterEqual, .keyword .and, .keyword .or]

namespace Grammar

open Parse (Level Expected)

-- A text of the grammar: an expression and the token that ends the text.
def Sentence (x : Exponents) (s : List Token) : Prop :=
  ∃ w e stop, Derives x .expression w e ∧ stop.kind = .stop ∧ s = w ++ [stop]

def Viable (x : Exponents) (u : List Token) : Prop :=
  ∃ s, Sentence x s ∧ u <+: s

section Viable

variable {x : Exponents} {r : Rule} {u v w : List Token} {e : Expr} {t : Token} {level : Level}

theorem viable_iff_one : Viable x u ↔ Viable .one u := by
  cases x
  case one => rfl
  case many =>
    constructor
    · intro ⟨s, ⟨w, e, stop, hd, hstop, hs⟩, hu⟩
      obtain ⟨e', hd⟩ := hd.toOne
      exact ⟨s, ⟨w, e', stop, hd, hstop, hs⟩, hu⟩
    · intro ⟨s, ⟨w, e, stop, hd, hstop, hs⟩, hu⟩
      exact ⟨s, ⟨w, e, stop, hd.toMany, hstop, hs⟩, hu⟩

theorem Derives.viable (h : Derives x .expression (u ++ v) e) : Viable x u :=
  ⟨u ++ v ++ [⟨.stop, none, default⟩], ⟨_, e, _, h, rfl, rfl⟩, by simp⟩

theorem Derives.ne_stop (h : Derives x r w e) : ∀ t ∈ w, t.kind ≠ .stop := by
  induction h
  case assignment hv hn ha _ ih => simpa [hv, hn, ha] using ih
  case not ht _ ih => simpa [ht] using ih
  case sign ht _ ih => rcases ht with ht | ht <;> simpa [ht] using ih
  case number ht => rcases ht with ht | ht <;> simp [ht]
  case name ht => simp [ht]
  case parens ho hc _ ih =>
    refine List.forall_mem_append.mpr ⟨List.forall_mem_cons.mpr ⟨by simp [ho], ih⟩, by simp [hc]⟩
  case join level t _ _ _ _ ht _ _ ihl ihr =>
    have hstop : ∀ k ∈ operators level, k ≠ .stop := by cases level <;> decide
    exact List.forall_mem_append.mpr ⟨ihl, List.forall_mem_cons.mpr ⟨hstop _ ht, ihr⟩⟩
  all_goals assumption

-- Every kind of token that the words of a rule can begin with does begin one.

theorem exists_derives_atom (x : Exponents) : ∃ w e, Derives x .atom w e :=
  ⟨[⟨.int, none, default⟩], _, .number (.inl rfl)⟩

theorem exists_derives_of_first : (r : Rule) → t.kind ∈ first r → ∃ v e, Derives x r (t :: v) e
  | .expression, h => by
    have hfirst : ∀ k ∈ first .expression, k = .keyword .var ∨ k ∈ first (.chain .logical) := by
      decide
    rcases hfirst _ h with hv | h
    · obtain ⟨w, e, hd⟩ := exists_derives_atom x
      let name : Token := ⟨.identifier, none, default⟩
      let eq : Token := ⟨.assign, none, default⟩
      exact ⟨name :: eq :: w, _, .assignment hv rfl rfl hd.of_atom⟩
    · obtain ⟨v, e, hd⟩ := exists_derives_of_first (.chain .logical) h
      exact ⟨v, e, .logical hd⟩
  | .comparison, h => by
    have hfirst : ∀ k ∈ first .comparison, k = .keyword .not ∨ k ∈ first (.chain .relational) := by
      decide
    rcases hfirst _ h with ht | h
    · obtain ⟨w, e, hd⟩ := exists_derives_atom x
      exact ⟨w, _, .not ht hd.of_atom⟩
    · obtain ⟨v, e, hd⟩ := exists_derives_of_first (.chain .relational) h
      exact ⟨v, e, .relational hd⟩
  | .factor, h => by
    have hfirst : ∀ k ∈ first .factor, (k = .plus ∨ k = .minus) ∨ k ∈ first (.chain .power) := by
      decide
    rcases hfirst _ h with ht | h
    · obtain ⟨w, e, hd⟩ := exists_derives_atom x
      exact ⟨w, _, .sign ht hd.of_atom⟩
    · obtain ⟨v, e, hd⟩ := exists_derives_of_first (.chain .power) h
      exact ⟨v, e, .power hd⟩
  | .atom, h => by
    have hfirst : ∀ k ∈ first .atom,
        (k = .int ∨ k = .float) ∨ k = .identifier ∨ k = .openParen := by
      decide
    rcases hfirst _ h with ht | ht | ho
    · exact ⟨[], _, .number ht⟩
    · exact ⟨[], _, .name ht⟩
    · obtain ⟨w, e, hd⟩ := exists_derives_atom x
      let c : Token := ⟨.closeParen, none, default⟩
      exact ⟨w ++ [c], _, .parens ho rfl hd.of_atom⟩
  | .chain level, h => by
    have hrank := Parse.rank_operand_lt level
    obtain ⟨v, e, hd⟩ := exists_derives_of_first (operand level) (first_operand level ▸ h)
    exact ⟨v, e, .operand hd⟩
termination_by r => Parse.rank r
decreasing_by
  case _ | _ | _ => decide
  case _ => exact hrank

theorem eq_of_reach {chain : Level} (h : level.depth ≤ Parse.reach (.chain chain))
    (h' : ¬level.depth ≤ Parse.reach (operand chain)) : level = chain := by
  cases level <;> cases chain <;> simp_all [Parse.reach, operand]

-- An operator that a rule reaches goes on with what the rule derives: within its last part if that
-- reaches the operator too, and else as the next operator of the chain.
theorem Derives.exists_continued (h : Derives .one r w e) (hr : level.depth ≤ Parse.reach r)
    (ht : t.kind ∈ operators level) : ∃ v e', Derives .one r (w ++ t :: v) e' := by
  induction h
  case assignment hv hn ha _ ih =>
    obtain ⟨v, e', hd⟩ := ih hr
    exact ⟨v, _, .assignment hv hn ha hd⟩
  case logical ih =>
    obtain ⟨v, e', hd⟩ := ih hr
    exact ⟨v, _, .logical hd⟩
  case not hnot _ ih =>
    obtain ⟨v, e', hd⟩ := ih hr
    exact ⟨v, _, .not hnot hd⟩
  case relational ih =>
    obtain ⟨v, e', hd⟩ := ih hr
    exact ⟨v, _, .relational hd⟩
  case sign hsign _ ih =>
    obtain ⟨v, e', hd⟩ := ih hr
    exact ⟨v, _, .sign hsign hd⟩
  case power ih =>
    obtain ⟨v, e', hd⟩ := ih hr
    exact ⟨v, _, .power hd⟩
  case operand chain w e hd ih =>
    by_cases hreach : level.depth ≤ Parse.reach (Grammar.operand chain)
    case pos =>
      obtain ⟨v, e', hd⟩ := ih hreach
      exact ⟨v, _, .operand hd⟩
    case neg =>
      obtain rfl := eq_of_reach hr hreach
      obtain ⟨v, f, hv⟩ := exists_derives_atom .one
      exact ⟨v, _, .join ht hd.left_of_operand hv.of_atom⟩
  case join chain t' u v l r ht' hl hright _ ih =>
    by_cases hreach : level.depth ≤ Parse.reach (Grammar.right chain)
    case pos =>
      obtain ⟨v', e', hd⟩ := ih hreach
      exact ⟨v', _, by simpa using Derives.join ht' hl hd⟩
    case neg =>
      obtain rfl := eq_of_reach hr fun h => hreach (h.trans (Parse.reach_operand_le chain))
      have hleft : Grammar.left .one level = .chain level := by
        cases level <;> first | rfl | exact absurd (Nat.le_refl _) hreach
      have hjoin := Derives.join ht' hl hright
      obtain ⟨v', f, hv⟩ := exists_derives_atom .one
      exact ⟨v', _, .join ht (hleft ▸ hjoin) hv.of_atom⟩
  -- No operator goes on with an atom.
  all_goals cases level <;> exact absurd hr (by decide)

end Viable

section Stopped

variable {r : Rule} {u : List Token} {next next' : Option Token} {x : Expected} {t : Token}
  {y : Exponents}

-- What a rule can begin with is among what it expects. The rules for atoms and powers expect signs
-- too, for they are only come to where a factor could have begun.
theorem kinds_opening_of_first {kind : Token.Kind} (h : kind ∈ first r) :
    kind ∈ (opening r).kinds := by
  have hall : ∀ k ∈ first r, k ∈ (opening r).kinds := by
    cases r <;> try decide
    case chain level => cases level <;> decide
  exact hall kind h

-- What is expected fits: with it, what was read can be completed.
theorem Stops.exists_extended (h : Stops r u next x) (hr : u = [] → (opening r).kinds = first r)
    (ht : t.kind ∈ x.kinds) : ∃ v e, Derives .one r (u ++ t :: v) e := by
  induction h
  case start r _ _ => exact exists_derives_of_first r (hr rfl ▸ ht)
  case identifier hv _ =>
    obtain ⟨w, e, hd⟩ := exists_derives_atom .one
    let eq : Token := ⟨.assign, none, default⟩
    exact ⟨eq :: w, _, .assignment hv (List.mem_singleton.mp ht) rfl hd.of_atom⟩
  case assign hv hn _ =>
    obtain ⟨w, e, hd⟩ := exists_derives_atom .one
    exact ⟨w, _, .assignment hv hn (List.mem_singleton.mp ht) hd.of_atom⟩
  case value hv hn ha _ ih =>
    obtain ⟨v, e, hd⟩ := ih (fun _ => rfl) ht
    exact ⟨v, _, .assignment hv hn ha hd⟩
  case logical hu _ ih =>
    obtain ⟨v, e, hd⟩ := ih (absurd · hu) ht
    exact ⟨v, _, .logical hd⟩
  case not hnot _ ih =>
    obtain ⟨v, e, hd⟩ := ih (fun _ => rfl) ht
    exact ⟨v, _, .not hnot hd⟩
  case relational hu _ ih =>
    obtain ⟨v, e, hd⟩ := ih (absurd · hu) ht
    exact ⟨v, _, .relational hd⟩
  case sign hsign _ ih =>
    obtain ⟨v, e, hd⟩ := ih (fun _ => rfl) ht
    exact ⟨v, _, .sign hsign hd⟩
  case power hu _ ih =>
    obtain ⟨v, e, hd⟩ := ih (absurd · hu) ht
    exact ⟨v, _, .power hd⟩
  case inside ho _ ih =>
    obtain ⟨v, e, hd⟩ := ih (fun _ => rfl) ht
    let c : Token := ⟨.closeParen, none, default⟩
    exact ⟨v ++ [c], _, by simpa using Derives.parens ho (c := c) rfl hd⟩
  case close ho hd _ => exact ⟨[], _, .parens ho (List.mem_singleton.mp ht) hd⟩
  case operand hu _ ih =>
    obtain ⟨v, e, hd⟩ := ih (absurd · hu) ht
    exact ⟨v, _, .operand hd⟩
  case right level _ _ _ _ _ _ hl hop _ ih =>
    obtain ⟨v, e, hd⟩ := ih (fun _ => by cases level <;> rfl) ht
    exact ⟨v, _, by simpa using Derives.join hop hl hd⟩

-- Unless a parenthesis can be closed, what is not expected does not fit.
theorem Stops.of_next (h : Stops r u next x) (hx : x ≠ .closeParen)
    (hnext : ∀ t ∈ next', t.kind ∉ x.kinds) : Stops r u next' x := by
  induction h
  case start => exact .start fun t ht hk => hnext t ht (kinds_opening_of_first hk)
  case identifier hv _ =>
    exact .identifier hv fun t ht hk => hnext t ht (List.mem_singleton.mpr hk)
  case assign hv hn _ =>
    exact .assign hv hn fun t ht hk => hnext t ht (List.mem_singleton.mpr hk)
  case value hv hn ha _ ih => exact .value hv hn ha (ih hx hnext)
  case logical hu _ ih     => exact .logical hu (ih hx hnext)
  case not hnot _ ih       => exact .not hnot (ih hx hnext)
  case relational hu _ ih  => exact .relational hu (ih hx hnext)
  case sign hsign _ ih     => exact .sign hsign (ih hx hnext)
  case power hu _ ih       => exact .power hu (ih hx hnext)
  case inside ho _ ih      => exact .inside ho (ih hx hnext)
  case close               => exact absurd rfl hx
  case operand hu _ ih     => exact .operand hu (ih hx hnext)
  case right hl hop _ ih   => exact .right hl hop (ih hx hnext)

theorem Rejects.not_derives {rest : List Token} {e : Expr} (h : Rejects u rest.head? x) :
    ¬Derives .one .expression (u ++ rest) e := by
  intro hd
  have hok := Parse.whole_eq_ok_iff.mpr hd
  have herror : Parse.whole (u ++ rest) = .error ⟨rest, x⟩ :=
    Parse.whole_eq_error_iff.mpr ⟨u, rfl, h⟩
  exact absurd (hok.symm.trans herror) (by simp)

-- The token before which parsing finds nothing more if this token ends the text.
def ahead (t : Token) : Option Token :=
  if t.kind = .stop then none else some t

theorem Rejects.not_viable (h : Rejects u (ahead t) x) : ¬Viable y (u ++ [t]) := by
  rw [viable_iff_one]
  intro ⟨s, ⟨w, e, stop, hd, hstop, hs⟩, more, hmore⟩
  rw [hs, List.append_assoc] at hmore
  rcases List.eq_nil_or_concat more with rfl | ⟨rest, last, rfl⟩
  · obtain ⟨rfl, ht⟩ := List.append_inj' hmore rfl
    cases ht
    rw [ahead, if_pos hstop] at h
    have hnot : ¬Derives .one .expression (u ++ []) e := h.not_derives
    exact hnot (by simpa using hd)
  · have hmore : (u ++ t :: rest) ++ [last] = w ++ [stop] := by simpa using hmore
    have hw := (List.append_inj' hmore rfl).left
    have ht : t.kind ≠ .stop := hd.ne_stop t (by simp [← hw])
    rw [ahead, if_neg ht] at h
    have hnot : ¬Derives .one .expression (u ++ t :: rest) e := h.not_derives
    exact hnot (hw ▸ hd)

theorem Rejects.exists_extended (h : Rejects u next x) (ht : t.kind ∈ x.kinds) :
    ∃ v e, Derives .one .expression (u ++ t :: v) e := by
  cases h
  case stopped hs => exact hs.exists_extended (fun _ => rfl) ht
  case complete hd _ _ =>
    have hall : ∀ k ∈ Expected.continuation.kinds,
        [Level.logical, .relational, .additive, .multiplicative, .power].any
          fun level => k ∈ operators level := by decide
    obtain ⟨level, _, hop⟩ := List.any_eq_true.mp (hall _ ht)
    exact hd.exists_continued level.depth_le (of_decide_eq_true hop)

end Stopped

end Grammar

namespace Parse

open Grammar

-- The tokens as they are parsed: if the last one does not end the text, one that does is put behind
-- it.
def completed (ts : List Token) : List Token :=
  match ts.getLast? with
  | none => [.stopAt (.start ⟨"<empty>", []⟩)]
  | some last => if last.kind = .stop then ts else ts ++ [.stopAt last.span.stop]

section Completed

variable {ts : List Token}

theorem exists_completed (ts : List Token) :
    ∃ after, completed ts = body ts ++ ending ts :: after := by
  cases hfind : ts.find? (·.kind = .stop)
  case some stop =>
    obtain ⟨hstop, before, after, rfl, hbefore⟩ := List.find?_eq_some_iff_append.mp hfind
    have hkind : stop.kind = .stop := of_decide_eq_true hstop
    have hbody : body (before ++ stop :: after) = before := by
      rw [body_append_stop hkind, body_eq_self fun t ht => by simpa using hbefore t ht]
    have hending : ending (before ++ stop :: after) = stop := by simp only [ending, hfind]
    rw [hbody, hending, completed]
    split
    case h_1 h => simp at h
    case h_2 last _ =>
      split
      case isTrue => exact ⟨after, rfl⟩
      case isFalse => exact ⟨after ++ [.stopAt last.span.stop], by simp⟩
  case none =>
    have hkind : ∀ t ∈ ts, t.kind ≠ .stop := by simpa using hfind
    rw [body_eq_self hkind]
    cases hlast : ts.getLast? <;> simp only [completed, ending, hfind, hlast]
    case none => exact ⟨[], by simp [List.getLast?_eq_none_iff.mp hlast]⟩
    case some last =>
      rw [if_neg (hkind last (List.mem_of_getLast? hlast))]
      exact ⟨[], rfl⟩

theorem kind_ending (ts : List Token) : (ending ts).kind = .stop := by
  rw [ending]
  split
  case h_1 h => simpa using List.find?_some h
  all_goals rfl

-- What parsing has read of the completed tokens when it fails, and the token where it does.
theorem exists_rejected {d : Diagnostic} (h : parse ts = .error d) :
    ∃ u t after x, completed ts = u ++ t :: after ∧ (∀ t' ∈ u, t'.kind ≠ .stop) ∧
      Rejects u (ahead t) x ∧ whole (body ts) = .error ⟨(body ts).drop u.length, x⟩ ∧
      d = ⟨.invalidSyntax, x.message, t.span, []⟩ := by
  rw [parse] at h
  cases hwhole : whole (body ts) <;> rw [hwhole] at h <;> cases h
  case error.refl stop =>
  obtain ⟨u, hu, hrejects⟩ := whole_eq_error_iff.mp hwhole
  obtain ⟨after, hafter⟩ := exists_completed ts
  have hbody : ∀ t ∈ body ts, t.kind ≠ .stop := by
    intro t ht
    simpa using List.mem_takeWhile_imp ht
  have hread : ∀ t ∈ u, t.kind ≠ .stop := fun t ht => hbody t (by simp [hu, ht])
  have hdrop : (body ts).drop u.length = stop.rest := by simp [hu]
  obtain ⟨rest, x⟩ := stop
  cases rest
  case nil =>
    refine ⟨u, ending ts, after, x, by simpa [hu] using hafter, hread, ?_, by rw [hdrop], rfl⟩
    rwa [ahead, if_pos (kind_ending ts)]
  case cons t rest =>
    have ht : t.kind ≠ .stop := hbody t (by simp [hu])
    refine ⟨u, t, rest ++ ending ts :: after, x, by simpa [hu] using hafter, hread, ?_,
      by rw [hdrop], rfl⟩
    rwa [ahead, if_neg ht]

end Completed

end Parse

end Reckoner
