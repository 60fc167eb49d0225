import Reckoner.Proofs.Assigning

namespace Reckoner

open Eval (Outcome)
open Machine (write)

structure Diagnostic.Alike (d d' : Diagnostic) : Prop where
  kind    : d'.kind = d.kind
  details : d'.details = d.details
  span    : d'.span = d.span

section Reported

variable {o o' : Outcome} {frame frame' : Frame}

theorem reported_alike (h : o'.result = o.result) :
    (∃ v, o.reported frame = .ok v ∧ o'.reported frame' = .ok v) ∨
      ∃ d d', o.reported frame = .error d ∧ o'.reported frame' = .error d' ∧ d.Alike d' := by
  simp only [Outcome.reported, h]
  cases o.result
  case ok v => exact .inl ⟨v, rfl, rfl⟩
  case error f => exact .inr ⟨f.diagnostic frame, f.diagnostic frame', rfl, rfl, rfl, rfl, rfl⟩

end Reported

section Agreement

variable {e : Expr} {i j : ScopeId} {store store' : Store} {name : String}
  {bs : List (String × Value)}

theorem find?_write_eq (hi : i < store.scopes.length) (hj : j < store'.scopes.length)
    (h : store'.find? j name = store.find? i name ∨ name ∈ bs.map Prod.fst) :
    (write j bs store').find? j name = (write i bs store).find? i name := by
  rw [Machine.find?_write hi, Machine.find?_write hj]
  rcases h with h | h
  case inl => rw [h]
  case inr =>
    cases hv : Scope.valueOf? name bs.reverse
    case some => rfl
    case none =>
      have hnot := Scope.valueOf?_eq_none_iff.mp hv
      rw [List.map_reverse, List.mem_reverse] at hnot
      contradiction

theorem assignments_eq (h : Effects.Matches e.reads i j store store') :
    (e.eval j store').assignments = (e.eval i store).assignments :=
  congrArg (List.filterMap _) (Effects.same_eval (fun _ => id) h).events

end Agreement

-- Evaluation in two frames that have the same bindings of all names that a tree reads:
-- 1. both come to the same value, or to failures that are alike but for the calls that led to them
-- 2. the same names are given the same values in the same order, each in the scope of its frame,
--    and nothing else is changed
-- 3. these are all names that the tree assigns to if it comes to a value, and some of them if not
-- 4. afterwards there still are the same bindings of all names that are read, and of those assigned
theorem evaluate_depends_on_reads {frame frame' : Frame} {e : Expr} {store store' : Store}
    (hscope : frame.scope < store.scopes.length) (hscope' : frame'.scope < store'.scopes.length)
    (hreads : ∀ name ∈ e.reads, store'.find? frame'.scope name = store.find? frame.scope name) :
    let ran := frame.evaluate e store
    let ran' := frame'.evaluate e store'
    let writes := frame.assignments e store
    ((∃ v, ran.1 = .ok v ∧ ran'.1 = .ok v) ∨
      ∃ d d', ran.1 = .error d ∧ ran'.1 = .error d' ∧ d.Alike d') ∧
    (frame'.assignments e store' = writes ∧
      ran.2 = write frame.scope writes store ∧ ran'.2 = write frame'.scope writes store') ∧
    (writes.map Prod.fst ⊆ e.targets ∧ ∀ v, ran.1 = .ok v → e.targets ⊆ writes.map Prod.fst) ∧
    ∀ name, name ∈ e.reads ∨ name ∈ writes.map Prod.fst →
      ran'.2.find? frame'.scope name = ran.2.find? frame.scope name := by
  intro ran ran' writes
  have hmatches : Effects.Matches e.reads frame.scope frame'.scope store store' :=
    ⟨iff_of_true hscope' hscope, hreads⟩
  have hassignments := assignments_eq hmatches
  have hstore' : (e.eval frame'.scope store').store = write frame'.scope _ store' :=
    hassignments ▸ Expr.store_eval
  simp only [ran, ran', writes, Frame.evaluate_eq, Frame.assignments_eq]
  refine ⟨reported_alike (Effects.same_eval (fun _ => id) hmatches).result,
    ⟨hassignments, Expr.store_eval, hstore'⟩, ⟨fun name hname => ?_, fun v hv => ?_⟩,
    fun name hname => ?_⟩
  case refine_1 =>
    obtain ⟨b, hb, rfl⟩ := List.mem_map.mp hname
    exact Expr.target_of_assignment hb
  case refine_2 =>
    cases hresult : (e.eval frame.scope store).result
    case ok w => exact Expr.targets_subset_of_ok hresult
    case error f =>
      simp only [Outcome.reported, hresult] at hv
      cases hv
  case refine_3 =>
    rw [hstore', Expr.store_eval]
    exact find?_write_eq hscope hscope' (hname.imp_left (hreads name))

-- In `(VAR y = x) / (y - x)` the variable `x` is a frame's own or its parent's, and `y` is read
-- only after it has been assigned to.
theorem evaluate_depends_on_reads_inherited :
    let x : Token := ⟨.identifier, some (.name "x"), default⟩
    let y : Token := ⟨.identifier, some (.name "y"), default⟩
    let difference := Expr.binary (.var y) ⟨.minus, none, default⟩ (.var x)
    let tree := Expr.binary (.assign y (.var x)) ⟨.slash, none, default⟩ difference
    let frame := Frame.program 0
    let frame' := Frame.entered "inner" 1 frame default
    let store : Store := ⟨[⟨none, [("x", .int 1)]⟩]⟩
    let store' : Store := ⟨[⟨none, [("x", .int 1)]⟩, ⟨some 0, [("z", .bool true)]⟩]⟩
    (∀ name ∈ tree.reads, store'.find? 1 name = store.find? 0 name) ∧
      (∃ d d', (frame.evaluate tree store).1 = .error d ∧
        (frame'.evaluate tree store').1 = .error d' ∧ d.Alike d' ∧ d'.kind = .divisionByZero) ∧
      (frame'.evaluate tree store').2.find? 1 "y" = some (.int 1) := by
  intro x y difference tree frame frame' store store'
  have hreads : ∀ name ∈ tree.reads, store'.find? 1 name = store.find? 0 name := by decide +kernel
  have hkind : (frame.evaluate tree store).1.mapError (·.kind) = .error .divisionByZero := by
    decide +kernel
  have hy : (frame.evaluate tree store).2.find? 0 "y" = some (.int 1) := by decide +kernel
  obtain ⟨hresults, _, _, hafter⟩ :=
    @evaluate_depends_on_reads frame frame' _ _ _ (by decide) (by decide) hreads
  refine ⟨hreads, ?_, (hafter "y" (.inl (by decide))).trans hy⟩
  rcases hresults with ⟨v, hv, _⟩ | ⟨d, d', hd, hd', halike⟩
  case inl =>
    rw [hv] at hkind
    cases hkind
  case inr =>
    rw [hd] at hkind
    exact ⟨d, d', hd, hd', halike, halike.kind.trans (Except.error.inj hkind)⟩

end Reckoner
