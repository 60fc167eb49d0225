import Reckoner.Proofs.Assigning

namespace Reckoner

open Relation (ReflTransGen)

namespace Scope

variable {scope : Scope} {name : String} {v : Value} {bs : List (String × Value)}

theorem rebind_of_not_mem (h : valueOf? name bs = none) :
    rebind name v bs = bs ++ [(name, v)] := by
  induction bs
  case nil => rfl
  case cons b bs ih =>
    rw [valueOf?] at h
    split at h
    case isTrue => cases h
    case isFalse hb => rw [rebind, if_neg hb, ih h, List.cons_append]

-- A name that was not bound is bound behind all others, so unbinding it leaves what was there.
theorem unbind_bind (h : scope.find? name = none) : (scope.bind name v).unbind name = scope := by
  have hbs : ∀ b ∈ scope.bindings, b.1 ≠ name := fun b hb hname =>
    valueOf?_eq_none_iff.mp h (hname ▸ List.mem_map_of_mem hb)
  obtain ⟨parent, bs⟩ := scope
  rw [bind, rebind_of_not_mem h, unbind]
  simpa using hbs

end Scope

namespace Store

-- The number of the scope that a scope stands in.
def parent? (store : Store) (i : ScopeId) : Option ScopeId :=
  store.scopes[i]?.bind (·.parent)

-- A scope, its parent, the parent of that one, and so on up to a scope that has none.
inductive Chain (store : Store) : ScopeId → List ScopeId → Prop
  | outermost {i} : i < store.scopes.length → store.parent? i = none → Chain store i [i]
  | inside {i parent ids} :
    store.parent? i = some parent → Chain store parent ids → Chain store i (i :: ids)

-- Every scope is younger than its parent.
def Ordered (store : Store) : Prop :=
  ∀ i parent, store.parent? i = some parent → parent < i

-- A lookup of a name along a chain gets as far as a scope.
def Exposes (store : Store) (ids : List ScopeId) (i : ScopeId) (name : String) : Prop :=
  ∃ nearer further, ids = nearer ++ i :: further ∧ ∀ j ∈ nearer, store.findLocal? j name = none

-- What can be done to a store.
inductive Step : Store → Store → Prop
  | outermost {store} : Step store (store.add .empty).1
  | builtins {store} : Step store (store.add .builtins).1
  | inside {store parent} :
    parent < store.scopes.length → Step store (store.add (.inside parent)).1
  | bind {store i name v} : Step store (store.bind i name v)
  | unbind {store i name} : Step store (store.unbind i name)
  | evaluate {store e} {frame : Frame} : Step store (frame.evaluate e store).2

section Parents

variable {store store' : Store} {i j : ScopeId} {name : String} {v : Value} {scope : Scope}
  {e : Expr}

theorem scope_unbind : (store.unbind i name).scopes[j]? =
    (store.scopes[j]?).map fun scope => if i = j then scope.unbind name else scope := by
  simp [unbind, List.getElem?_modify]

theorem parent?_add : (store.add scope).1.parent? j =
    if j = store.scopes.length then scope.parent else store.parent? j := by
  simp only [parent?, add, List.getElem?_append]
  rcases Nat.lt_trichotomy j store.scopes.length with h | h | h
  · simp [h, Nat.ne_of_lt h]
  · simp [h]
  · simp [Nat.ne_of_gt h, Nat.not_lt_of_gt h, Nat.sub_ne_zero_of_lt h]

theorem parent?_eq_of_map {f : Scope → Scope} (hf : ∀ scope, (f scope).parent = scope.parent)
    (h : store'.scopes[j]? = store.scopes[j]?.map f) : store'.parent? j = store.parent? j := by
  rw [parent?, h, parent?, Option.bind_map]
  exact congrArg _ (funext hf)

theorem parent?_bind : (store.bind i name v).parent? j = store.parent? j := by
  refine parent?_eq_of_map (fun scope => ?_) scope_bind
  split <;> rfl

theorem parent?_unbind : (store.unbind i name).parent? j = store.parent? j := by
  refine parent?_eq_of_map (fun scope => ?_) scope_unbind
  split <;> rfl

theorem parent?_eval : (e.eval i store).store.parent? j = store.parent? j := by
  refine parent?_eq_of_map (fun scope => ?_) Expr.scope_eval
  split
  case isTrue => exact Scope.parent_bindAll
  case isFalse => rfl

theorem Ordered.add (h : store.Ordered)
    (hscope : ∀ parent, scope.parent = some parent → parent < store.scopes.length) :
    (store.add scope).1.Ordered := by
  intro j parent hparent
  rw [parent?_add] at hparent
  split at hparent
  case isTrue hj => exact hj ▸ hscope parent hparent
  case isFalse => exact h j parent hparent

theorem Ordered.of_parents (h : store.Ordered)
    (hparents : ∀ j, store'.parent? j = store.parent? j) : store'.Ordered :=
  fun j parent hparent => h j parent (hparents j ▸ hparent)

theorem Ordered.step (h : store.Ordered) (hstep : Step store store') : store'.Ordered := by
  cases hstep
  case outermost | builtins => exact h.add nofun
  case inside hlt => exact h.add fun _ hparent => Option.some.inj hparent ▸ hlt
  case bind => exact h.of_parents fun _ => parent?_bind
  case unbind => exact h.of_parents fun _ => parent?_unbind
  case evaluate => exact h.of_parents fun _ => Frame.store_evaluate .. ▸ parent?_eval

theorem ordered_of_steps (h : ReflTransGen Step .empty store) : store.Ordered := by
  induction h
  case refl => exact nofun
  case tail hstep ih => exact ih.step hstep

end Parents

section Chain

variable {store : Store} {i j parent : ScopeId} {ids ids' : List ScopeId} {name : String}

theorem Ordered.exists_chain (h : store.Ordered) (hi : i < store.scopes.length) :
    ∃ ids, store.Chain i ids := by
  induction i using Nat.strong_induction_on
  case _ i ih =>
    cases hparent : store.parent? i
    case none => exact ⟨[i], .outermost hi hparent⟩
    case some parent =>
      have hlt := h i parent hparent
      obtain ⟨ids, hids⟩ := ih parent hlt (Nat.lt_trans hlt hi)
      exact ⟨i :: ids, .inside hparent hids⟩

theorem Chain.unique (h : store.Chain i ids) (h' : store.Chain i ids') : ids' = ids := by
  induction h generalizing ids'
  case outermost hparent =>
    cases h'
    case outermost => rfl
    case inside _ hparent' => exact absurd (hparent.symm.trans hparent') (by simp)
  case inside hparent _ ih =>
    cases h'
    case outermost hparent' => exact absurd (hparent.symm.trans hparent') (by simp)
    case inside hids hparent' =>
      obtain rfl := Option.some.inj (hparent.symm.trans hparent')
      rw [ih hids]

theorem Chain.le_of_mem (h : store.Chain i ids) (hordered : store.Ordered) : ∀ j ∈ ids, j ≤ i := by
  induction h
  case outermost => simp
  case inside hparent _ ih =>
    refine List.forall_mem_cons.mpr ⟨Nat.le_refl _, fun j hj => ?_⟩
    exact Nat.le_trans (ih j hj) (Nat.le_of_lt (hordered _ _ hparent))

theorem Chain.nodup (h : store.Chain i ids) (hordered : store.Ordered) : ids.Nodup := by
  induction h
  case outermost => simp
  case inside hparent hids ih =>
    refine List.nodup_cons.mpr ⟨fun hmem => ?_, ih⟩
    exact absurd (hids.le_of_mem hordered _ hmem) (Nat.not_le.mpr (hordered _ _ hparent))

theorem find?_eq_or : store.find? i name = (store.findLocal? i name).or
    ((store.parent? i).bind fun parent =>
      if parent < i then store.find? parent name else none) := by
  rw [findLocal?, parent?]
  cases hscope : store.scopes[i]?
  case none => exact find?_eq_none hscope
  case some scope => exact find?_eq hscope

-- A lookup asks the scopes of a chain, the nearest one first.
theorem Chain.find?_eq (h : store.Chain i ids) (hordered : store.Ordered) :
    store.find? i name = ids.findSome? (store.findLocal? · name) := by
  induction h <;> rw [find?_eq_or, List.findSome?_cons]
  case outermost hparent =>
    rw [hparent]
    cases store.findLocal? _ name <;> rfl
  case inside hparent _ ih =>
    rw [hparent, Option.bind_some, if_pos (hordered _ _ hparent), ih]
    cases store.findLocal? _ name <;> rfl

end Chain

section Bindings

variable {store : Store} {i j : ScopeId} {ids : List ScopeId} {name other : String} {v : Value}
  {e : Expr}

theorem Chain.of_bind (h : store.Chain i ids) : (store.bind j name v).Chain i ids := by
  induction h
  case outermost hi hparent =>
    exact .outermost (Nat.lt_of_lt_of_eq hi length_bind.symm) (parent?_bind.trans hparent)
  case inside hparent _ ih => exact .inside (parent?_bind.trans hparent) ih

theorem findLocal?_bind (hj : j < store.scopes.length) : (store.bind j name v).findLocal? i other =
    if i = j ∧ other = name then some v else store.findLocal? i other := by
  rw [findLocal?, scope_bind, findLocal?, Option.bind_map]
  by_cases hi : i = j
  case pos =>
    subst hi
    simp [List.getElem?_eq_getElem hj, Scope.find?_bind]
  case neg =>
    simp [hi, Ne.symm hi]

theorem exposes_cons : store.Exposes (i :: ids) j name ↔
    i = j ∨ store.findLocal? i name = none ∧ store.Exposes ids j name := by
  constructor
  case mp =>
    rintro ⟨nearer, further, hids, hnone⟩
    cases nearer
    case nil => exact .inl (List.cons.inj hids).left
    case cons k nearer =>
      obtain ⟨rfl, rfl⟩ := List.cons.inj hids
      obtain ⟨hi, hnone⟩ := List.forall_mem_cons.mp hnone
      exact .inr ⟨hi, nearer, further, rfl, hnone⟩
  case mpr =>
    rintro (rfl | ⟨hi, nearer, further, rfl, hnone⟩)
    · exact ⟨[], ids, rfl, by simp⟩
    · exact ⟨i :: nearer, further, rfl, List.forall_mem_cons.mpr ⟨hi, hnone⟩⟩

open Classical in
theorem findSome?_bind (hj : j < store.scopes.length) :
    ids.findSome? ((store.bind j name v).findLocal? · other) =
      if other = name ∧ store.Exposes ids j name then some v
      else ids.findSome? (store.findLocal? · other) := by
  induction ids
  case nil => simp [Exposes]
  case cons i ids ih =>
    rw [List.findSome?_cons, findLocal?_bind hj, ih, List.findSome?_cons]
    by_cases hother : other = name
    case neg => simp [hother]
    case pos =>
      subst hother
      by_cases hi : i = j
      case pos => simp [exposes_cons, hi]
      case neg => cases hfind : store.findLocal? i other <;> simp [exposes_cons, hi, hfind]

-- A binding is seen from where a lookup gets as far as its scope, and from nowhere else.

theorem find?_bind_of_exposes (h : store.Chain i ids) (hordered : store.Ordered)
    (hj : j < store.scopes.length) (hexposes : store.Exposes ids j name) :
    (store.bind j name v).find? i name = some v := by
  rw [h.of_bind.find?_eq (hordered.step .bind), findSome?_bind hj, if_pos ⟨rfl, hexposes⟩]

theorem find?_bind_of_not_exposes (h : store.Chain i ids) (hordered : store.Ordered)
    (hj : j < store.scopes.length) (hexposes : ¬(other = name ∧ store.Exposes ids j name)) :
    (store.bind j name v).find? i other = store.find? i other := by
  rw [h.of_bind.find?_eq (hordered.step .bind), findSome?_bind hj, if_neg hexposes,
    h.find?_eq hordered]

theorem unbind_bind (h : store.findLocal? j name = none) :
    (store.bind j name v).unbind j name = store := by
  have hscopes (i : Nat) :
      ((store.bind j name v).unbind j name).scopes[i]? = store.scopes[i]? := by
    rw [scope_unbind, scope_bind, Option.map_map]
    cases hscope : store.scopes[i]?
    case none => rfl
    case some scope =>
      by_cases hi : j = i
      case neg => simp [hi]
      case pos =>
        subst hi
        rw [findLocal?, hscope] at h
        simp [Scope.unbind_bind h]
  exact congrArg Store.mk (List.ext_getElem? hscopes)

end Bindings

section Evaluation

variable {store : Store} {i scope : ScopeId} {name : String} {e : Expr}

theorem findLocal?_eval : (e.eval scope store).store.findLocal? scope name =
    store.scopes[scope]?.bind fun inner =>
      (Scope.valueOf? name (e.eval scope store).assignments.reverse).or (inner.find? name) := by
  rw [findLocal?, Expr.scope_eval, Option.bind_map]
  simp [Scope.find?_bindAll]

theorem findLocal?_eval_isSome (h : (store.findLocal? scope name).isSome) :
    ((e.eval scope store).store.findLocal? scope name).isSome := by
  obtain ⟨v, hv⟩ := Option.isSome_iff_exists.mp h
  obtain ⟨inner, hinner, hfind⟩ := Option.bind_eq_some_iff.mp hv
  rw [findLocal?_eval, hinner, Option.bind_some, hfind]
  cases Scope.valueOf? name (e.eval scope store).assignments.reverse <;> rfl

theorem findLocal?_eval_of_not_mem (h : name ∉ e.targets) :
    (e.eval scope store).store.findLocal? scope name = store.findLocal? scope name := by
  have hnone : Scope.valueOf? name (e.eval scope store).assignments.reverse = none := by
    rw [Scope.valueOf?_eq_none_iff, List.map_reverse, List.mem_reverse, List.mem_map]
    rintro ⟨b, hb, rfl⟩
    exact h (Expr.target_of_assignment hb)
  rw [findLocal?_eval, hnone]
  rfl

end Evaluation

end Store

-- Whatever was done to a store, of any scope:
-- 1. there is one chain of parents, and no scope comes twice in it
-- 2. a lookup finds the binding of the first scope in the chain that has one
-- 3. what is bound in a scope is found if the lookup gets as far as that scope, and else makes no
--    difference
-- 4. an evaluation leaves all scopes but its own as they are, and in that one all names bound and
--    all bindings of names that the tree does not assign to
-- 5. unbinding what was not bound before leaves the store as it was
theorem lookup_finds_nearest_binding {store : Store} (h : ReflTransGen Store.Step .empty store) :
    (∀ i < store.scopes.length, ∃ ids,
      ((∀ ids', store.Chain i ids' ↔ ids' = ids) ∧ ids.Nodup) ∧
      (∀ name, store.find? i name = ids.findSome? (store.findLocal? · name)) ∧
      ∀ j < store.scopes.length, ∀ name v,
        (store.Exposes ids j name → (store.bind j name v).find? i name = some v) ∧
        ∀ other, ¬(other = name ∧ store.Exposes ids j name) →
          (store.bind j name v).find? i other = store.find? i other) ∧
    (∀ (frame : Frame) e, let after := (frame.evaluate e store).2
      (∀ j ≠ frame.scope, after.scopes[j]? = store.scopes[j]?) ∧
      after.parent? frame.scope = store.parent? frame.scope ∧
      (∀ name, (store.findLocal? frame.scope name).isSome →
        (after.findLocal? frame.scope name).isSome) ∧
      ∀ name ∉ e.targets,
        after.findLocal? frame.scope name = store.findLocal? frame.scope name) ∧
    ∀ j name v, store.findLocal? j name = none →
      (store.bind j name v).unbind j name = store := by
  have hordered := Store.ordered_of_steps h
  refine ⟨fun i hi => ?_, fun frame e => ?_, fun j name v hnone => Store.unbind_bind hnone⟩
  case refine_1 =>
    obtain ⟨ids, hids⟩ := hordered.exists_chain hi
    refine ⟨ids, ⟨fun ids' => ⟨hids.unique, ?_⟩, hids.nodup hordered⟩,
      fun name => hids.find?_eq hordered, fun j hj name v => ⟨?_, fun other => ?_⟩⟩
    case refine_1 =>
      rintro rfl
      exact hids
    case refine_2 => exact Store.find?_bind_of_exposes hids hordered hj
    case refine_3 => exact Store.find?_bind_of_not_exposes hids hordered hj
  case refine_2 =>
    rw [Frame.store_evaluate]
    refine ⟨fun j hj => ?_, Store.parent?_eval, fun name => Store.findLocal?_eval_isSome,
      fun name => Store.findLocal?_eval_of_not_mem⟩
    have hscope := @Expr.scope_eval e frame.scope j store
    simp only [if_neg hj.symm, Option.map_id_fun', id_eq] at hscope
    exact hscope

-- A binding in an outer scope is not seen from an inner one that has its own.
theorem lookup_finds_nearest_binding_hidden :
    let store := (((Store.empty.add .builtins).1.add (.inside 0)).1.bind 0 "x" (.int 1)).bind 1 "x"
      (.int 2)
    ReflTransGen Store.Step .empty store ∧ store.Chain 1 [1, 0] ∧
      store.find? 1 "x" = some (.int 2) ∧ store.find? 1 "NULL" = some (.int 0) ∧
      (store.bind 0 "x" (.int 3)).find? 1 "x" = some (.int 2) ∧
      (store.bind 0 "x" (.int 3)).find? 0 "x" = some (.int 3) := by
  intro store
  have hsteps : ReflTransGen Store.Step .empty store :=
    .tail (.tail (.tail (.tail .refl .builtins) (.inside (by decide))) .bind) .bind
  have houter : store.Chain 0 [0] := .outermost (by decide) (by decide)
  have hinner : store.Chain 1 [1, 0] := .inside (by decide) houter
  obtain ⟨hchains, _⟩ := lookup_finds_nearest_binding hsteps
  obtain ⟨ids, ⟨hunique, _⟩, hfind, hbind⟩ := hchains 1 (by decide)
  obtain rfl := (hunique _).mp hinner
  obtain ⟨ids, ⟨hunique, _⟩, _, hbind'⟩ := hchains 0 (by decide)
  obtain rfl := (hunique _).mp houter
  obtain ⟨_, hhidden⟩ := hbind 0 (by decide) "x" (.int 3)
  obtain ⟨hseen, _⟩ := hbind' 0 (by decide) "x" (.int 3)
  have hmasked : ¬store.Exposes [1, 0] 0 "x" := by
    rw [Store.exposes_cons]
    exact not_or.mpr ⟨by decide, fun hnone => absurd hnone.left (by decide)⟩
  have htwo : store.find? 1 "x" = some (.int 2) := (hfind "x").trans (by decide)
  refine ⟨hsteps, hinner, htwo, (hfind "NULL").trans (by decide), ?_, ?_⟩
  · exact (hhidden "x" fun hexposes => hmasked hexposes.right).trans htwo
  · exact hseen (Store.exposes_cons.mpr (.inl rfl))

end Reckoner
