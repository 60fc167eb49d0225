import Reckoner.Proofs.Noninterference

namespace Reckoner

namespace Scope

variable {s : Scope} {name other : String} {v w : Value} {bs : List (String × Value)}

theorem rebind_rebind : rebind name v (rebind name w bs) = rebind name v bs := by
  induction bs
  case nil => simp [rebind]
  case cons b bs ih =>
    by_cases hb : b.1 = name
    case pos => simp [rebind, hb]
    case neg => simp [rebind, hb, ih]

theorem rebind_eq_self (h : valueOf? name bs = some v) : rebind name v bs = bs := by
  induction bs
  case nil => cases h
  case cons b bs ih =>
    rw [valueOf?] at h
    split at h
    case isTrue hb => rw [rebind, if_pos hb, ← Option.some.inj h, ← hb]
    case isFalse hb => rw [rebind, if_neg hb, ih h]

-- A name that is bound keeps its place, so another one may be bound before or after it.
theorem rebind_comm (hne : other ≠ name) (h : (valueOf? name bs).isSome) :
    rebind other w (rebind name v bs) = rebind name v (rebind other w bs) := by
  induction bs
  case nil => cases h
  case cons b bs ih =>
    by_cases hname : b.1 = name
    case pos => simp [rebind, hname, hne.symm]
    case neg =>
      rw [valueOf?, if_neg hname] at h
      by_cases hother : b.1 = other
      case pos => simp [rebind, hother, hne]
      case neg => simp [rebind, hname, hother, ih h]

theorem bind_bind : (s.bind name w).bind name v = s.bind name v := by
  rw [bind, bind, bind, rebind_rebind]

theorem bind_eq_self (h : s.find? name = some v) : s.bind name v = s := by
  rw [bind, rebind_eq_self h]

theorem bind_comm (hne : other ≠ name) (h : (s.find? name).isSome) :
    (s.bind name v).bind other w = (s.bind other w).bind name v := by
  rw [bind, bind, bind, bind, rebind_comm hne h]

theorem valueOf?_reverse_isSome (h : name ∈ bs.map Prod.fst) :
    (valueOf? name bs.reverse).isSome := by
  rw [Option.isSome_iff_ne_none, Ne, valueOf?_eq_none_iff, List.map_reverse, List.mem_reverse]
  exact not_not_intro h

-- A name that is bound anew later on does not depend on how it was bound before.
theorem bindAll_bind_of_mem (hmem : name ∈ bs.map Prod.fst) (h : (s.find? name).isSome) :
    (s.bind name v).bindAll bs = s.bindAll bs := by
  induction bs generalizing s
  case nil => cases hmem
  case cons b bs ih =>
    change ((s.bind name v).bind b.1 b.2).bindAll bs = (s.bind b.1 b.2).bindAll bs
    by_cases hb : b.1 = name
    case pos => rw [hb, bind_bind]
    case neg =>
      have hbound : ((s.bind b.1 b.2).find? name).isSome := by
        rwa [find?_bind, if_neg (Ne.symm hb)]
      rw [bind_comm hb h]
      exact ih ((List.mem_cons.mp hmem).resolve_left (Ne.symm hb)) hbound

-- Bindings make no difference where every name already has the last value it is given.
theorem bindAll_eq_self (h : ∀ name ∈ bs.map Prod.fst, s.find? name = valueOf? name bs.reverse) :
    s.bindAll bs = s := by
  induction bs
  case nil => rfl
  case cons b bs ih =>
    obtain ⟨hb, h⟩ := List.forall_mem_cons.mp h
    simp only [List.reverse_cons, valueOf?_append] at hb h
    have hbs : s.bindAll bs = s := ih fun name hname => by
      rw [h name hname, Option.or_of_isSome (valueOf?_reverse_isSome hname)]
    change (s.bind b.1 b.2).bindAll bs = s
    by_cases hmem : b.1 ∈ bs.map Prod.fst
    case pos =>
      have hbound := valueOf?_reverse_isSome hmem
      rw [bindAll_bind_of_mem hmem (by rwa [hb, Option.or_of_isSome hbound]), hbs]
    case neg =>
      have hnone : valueOf? b.1 bs.reverse = none := by
        rwa [valueOf?_eq_none_iff, List.map_reverse, List.mem_reverse]
      have hlast : s.find? b.1 = some b.2 := by simp [hb, hnone, valueOf?]
      rw [bind_eq_self hlast, hbs]

theorem bindAll_bindAll : (s.bindAll bs).bindAll bs = s.bindAll bs :=
  bindAll_eq_self fun _ hname => by
    rw [find?_bindAll, Option.or_of_isSome (valueOf?_reverse_isSome hname)]

end Scope

section Replaying

open Machine (write)

variable {names : List String} {i j : ScopeId} {store : Store} {bs : List (String × Value)}

theorem Machine.write_write : write i bs (write i bs store) = write i bs store := by
  have hscopes : (write i bs (write i bs store)).scopes = (write i bs store).scopes := by
    refine List.ext_getElem? fun j => ?_
    rw [scope_write, scope_write, Option.map_map]
    congr 1
    funext scope
    by_cases hj : i = j
    case pos => simp only [Function.comp_apply, if_pos hj, Scope.bindAll_bindAll]
    case neg => simp only [Function.comp_apply, if_neg hj]
  exact congrArg Store.mk hscopes

-- Names that are not written are found as before.
theorem Effects.matches_write (h : ∀ b ∈ bs, b.1 ∉ names) :
    Matches names j j store (write i bs store) where
  exists_iff := by rw [Machine.length_write]
  find?      := fun name hname => by
    induction bs generalizing store
    case nil => rfl
    case cons b bs ih =>
      obtain ⟨hb, hbs⟩ := List.forall_mem_cons.mp h
      exact (ih hbs).trans (Store.find?_bind_of_ne fun heq => hb (heq ▸ hname))

end Replaying

-- A tree that reads no name it assigns to may be evaluated again right after it was evaluated. It
-- comes to the same value or to the same failure, traceback included, and nothing is bound anew.
theorem evaluate_again {frame : Frame} {e : Expr} (h : ∀ name ∈ e.reads, name ∉ e.targets)
    (store : Store) :
    let ran := frame.evaluate e store
    frame.evaluate e ran.2 = ran := by
  intro ran
  have hstore : ran.2 = Machine.write frame.scope _ store :=
    (Frame.store_evaluate ..).trans Expr.store_eval
  have hmatches : Effects.Matches e.reads frame.scope frame.scope store ran.2 := by
    rw [hstore]
    exact Effects.matches_write fun b hb hread => h b.1 hread (Expr.target_of_assignment hb)
  have hresult : (e.eval frame.scope ran.2).result = (e.eval frame.scope store).result :=
    (Effects.same_eval (fun _ => id) hmatches).result
  have hagain : (e.eval frame.scope ran.2).store = ran.2 := by
    rw [Expr.store_eval, assignments_eq hmatches, hstore, Machine.write_write]
  have hreported : ran.1 = (e.eval frame.scope ran.2).reported frame := by
    rw [Eval.Outcome.reported, hresult]
    exact congrArg Prod.fst (Frame.evaluate_eq ..)
  rw [Frame.evaluate_eq, hagain, ← hreported]

-- `((VAR a = 1) + (VAR a = x)) / (VAR b = 0)` fails when everything has been assigned.
theorem evaluate_again_division :
    let named (name : String) : Token := ⟨.identifier, some (.name name), default⟩
    let assign (name : String) (value : Expr) := Expr.assign (named name) value
    let number (n : Int64) := Expr.number ⟨.int, some (.int n), default⟩
    let tree := Expr.binary
      (.binary (assign "a" (number 1)) ⟨.plus, none, default⟩ (assign "a" (.var (named "x"))))
      ⟨.slash, none, default⟩ (assign "b" (number 0))
    let frame := Frame.entered "inner" 1 (.program 0) default
    let store : Store := ⟨[⟨none, [("x", .int 7), ("a", .int 2)]⟩, ⟨some 0, [("c", .bool true)]⟩]⟩
    let ran := frame.evaluate tree store
    (∀ name ∈ tree.reads, name ∉ tree.targets) ∧
      ran.1.mapError (·.kind) = .error .divisionByZero ∧
      ran.2.scopes[1]? = some ⟨some 0, [("c", .bool true), ("a", .int 7), ("b", .int 0)]⟩ ∧
      frame.evaluate tree ran.2 = ran := by
  intro named assign number tree frame store ran
  have hreads : ∀ name ∈ tree.reads, name ∉ tree.targets := by decide +kernel
  exact ⟨hreads, by decide +kernel, by decide +kernel, evaluate_again hreads store⟩

end Reckoner
