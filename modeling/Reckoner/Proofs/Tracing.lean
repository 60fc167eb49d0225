import Reckoner.Proofs.Noninterference

namespace Reckoner

namespace Frame

-- Each frame but the outermost is entered from the one before it, at a position of its own.
def chain (name : Nat → String) (scope : Nat → ScopeId) (entry : Nat → Position) : Nat → Frame
  | 0 => outermost (name 0) (scope 0)
  | i + 1 => entered (name (i + 1)) (scope (i + 1)) (chain name scope entry i) (entry (i + 1))

-- A frame is shown with the position where it was left, which is kept in the frame entered there.
structure Traces (name : Nat → String) (entry : Nat → Position) (depth : Nat) (p : Position)
    (calls : List Diagnostic.Call) : Prop where
  length  : calls.length = depth + 1
  callers : ∀ i < depth,
    calls[i]? = some ⟨(entry (i + 1)).source.name, (entry (i + 1)).line + 1, name i⟩
  last    : calls[depth]? = some ⟨p.source.name, p.line + 1, name depth⟩

variable {name : Nat → String} {scope : Nat → ScopeId} {entry : Nat → Position} {depth : Nat}
  {p : Position} {calls : List Diagnostic.Call}

theorem Traces.enter (h : Traces name entry depth (entry (depth + 1)) calls) :
    Traces name entry (depth + 1) p
      (calls ++ [⟨p.source.name, p.shownLine, name (depth + 1)⟩]) where
  length  := by rw [List.length_append, h.length]; rfl
  callers := fun i hi => by
    rw [List.getElem?_append_left (h.length ▸ hi)]
    rcases Nat.lt_succ_iff_lt_or_eq.mp hi with hlt | rfl
    · exact h.callers i hlt
    · exact h.last
  last    := by rw [← h.length, List.getElem?_concat_length]; rfl

theorem traces_chain : Traces name entry depth p ((chain name scope entry depth).traceback p) := by
  induction depth generalizing p
  case zero =>
    rw [chain, traceback_outermost]
    exact ⟨rfl, fun i hi => absurd hi (Nat.not_lt_zero i), rfl⟩
  case succ depth ih =>
    rw [chain, traceback_entered]
    exact ih.enter

theorem scope_chain : (chain name scope entry depth).scope = scope depth := by
  cases depth <;> rfl

end Frame

-- Whatever scopes the frames of a chain of calls have, evaluation at its end
-- 1. comes to what it would in a frame that was not called, but for the calls that led to it
-- 2. leaves the same store
-- 3. lists the whole chain in all that it blames on a span
-- 4. and so in every failure, at the span that is reported
theorem chain_shows_in_traceback_only (name : Nat → String) (scope : Nat → ScopeId)
    (entry : Nat → Position) (depth : Nat) (e : Expr) (store : Store) :
    let frame := Frame.chain name scope entry depth
    let ran := frame.evaluate e store
    let alone := (Frame.outermost (name depth) (scope depth)).evaluate e store
    ((∃ v, ran.1 = .ok v ∧ alone.1 = .ok v) ∨
      ∃ d d', ran.1 = .error d ∧ alone.1 = .error d' ∧ d.Alike d') ∧
    ran.2 = alone.2 ∧
    (∀ kind details span,
      Frame.Traces name entry depth span.start (frame.blame kind details span).traceback) ∧
    ∀ d, ran.1 = .error d →
      d.kind.isRuntime ∧ Frame.Traces name entry depth d.span.start d.traceback := by
  intro frame ran alone
  have hran : ran = _ := Frame.evaluate_eq ..
  have halone : alone = _ := Frame.evaluate_eq ..
  rw [Frame.scope_chain] at hran
  rw [hran, halone]
  refine ⟨reported_alike rfl, rfl, fun kind details span => Frame.traces_chain, fun d hd => ?_⟩
  rw [← hran] at hd
  obtain ⟨hkind, hblame⟩ := frame.eq_blame_of_evaluate e store hd
  refine ⟨hkind, ?_⟩
  rw [hblame]
  exact Frame.traces_chain

-- In `(VAR a = 5) / b` the variable `b` is looked for in the scope of the innermost frame only,
-- though the frames that have led to it bind it.
theorem chain_shows_in_traceback_only_twice :
    let text (name : String) : Source := ⟨name, "first\nsecond\nthird".toList⟩
    let name (i : Nat) : String := ["<program>", "outer", "inner"].getD i ""
    let scope (i : Nat) : ScopeId := [0, 1, 2].getD i 0
    let entry (i : Nat) : Position := .after (text (["", "main", "library"].getD i "")) (6 * i)
    let b : Token := ⟨.identifier, some (.name "b"), .single (.start (text "inline"))⟩
    let tree := Expr.binary (.assign ⟨.identifier, some (.name "a"), default⟩
      (.number ⟨.int, some (.int 5), default⟩)) ⟨.slash, none, default⟩ (.var b)
    let store : Store := ⟨[⟨none, [("b", .int 1)]⟩, ⟨some 0, [("b", .int 2)]⟩, ⟨none, []⟩]⟩
    let ran := (Frame.chain name scope entry 2).evaluate tree store
    ran.2.find? 2 "a" = some (.int 5) ∧
      ∃ d, ran.1 = .error d ∧ d.kind = .undefinedVariable ∧ d.span = b.span ∧
        d.traceback[0]? = some ⟨"main", 2, "<program>"⟩ ∧
        d.traceback[1]? = some ⟨"library", 3, "outer"⟩ ∧
        d.traceback[2]? = some ⟨"inline", 1, "inner"⟩ := by
  intro text name scope entry b tree store ran
  have hfails : ran.1.mapError (fun d => (d.kind, d.span)) =
      .error (.undefinedVariable, b.span) := by
    decide +kernel
  obtain ⟨_, _, _, htraces⟩ := chain_shows_in_traceback_only name scope entry 2 tree store
  refine ⟨by decide +kernel, ?_⟩
  cases hran : ran.1 <;> rw [hran] at hfails
  case ok => cases hfails
  case error d =>
    obtain ⟨hkind, hspan⟩ := Prod.mk.inj (Except.error.inj hfails)
    obtain ⟨_, hcalls⟩ := htraces d hran
    rw [hspan] at hcalls
    exact ⟨d, rfl, hkind, hspan, (hcalls.callers 0 (by decide)).trans (by decide +kernel),
      (hcalls.callers 1 (by decide)).trans (by decide +kernel),
      hcalls.last.trans (by decide +kernel)⟩

end Reckoner
