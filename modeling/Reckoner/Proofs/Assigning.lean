import Reckoner.Proofs.Effects
import Reckoner.Proofs.Machine

namespace Reckoner

open Eval (Outcome nameOf)

def Eval.Event.assignment? : Event → Option (String × Value)
  | read _ => none
  | assigned name v => some (name, v)

-- The assignments that were carried out, in order.
def Eval.Outcome.assignments (o : Outcome) : List (String × Value) :=
  o.events.filterMap (·.assignment?)

def Frame.assignments (frame : Frame) (e : Expr) (store : Store) : List (String × Value) :=
  (frame.carryOut e store).2.events.filterMap (·.assignment?)

theorem Frame.assignments_eq (frame : Frame) (e : Expr) (store : Store) :
    frame.assignments e store = (e.eval frame.scope store).assignments := by
  rw [assignments, events_carryOut, Outcome.assignments]

section AndThen

variable {o : Outcome} {next : Value → Store → Outcome} {v : Value}

theorem Eval.Outcome.assignments_andThen (h : o.result = .ok v) :
    (o.andThen next).assignments = o.assignments ++ (next v o.store).assignments := by
  simp only [andThen, h]
  exact List.filterMap_append

-- What has come to a value at the end had come to one before.
theorem Eval.Outcome.of_andThen_ok (h : (o.andThen next).result = .ok v) :
    ∃ w, o.result = .ok w ∧ (next w o.store).result = .ok v := by
  cases ho : o.result <;> simp only [andThen, ho] at h
  case error => cases h
  case ok w => exact ⟨w, rfl, h⟩

end AndThen

-- The names that a tree assigns to.
def Expr.targets (e : Expr) : List String :=
  e.subtrees.filterMap Machine.target?

theorem Expr.targets_binary {left right : Expr} {operator : Token} :
    (binary left operator right).targets = left.targets ++ right.targets :=
  List.filterMap_append

theorem Expr.targets_assign {name : Token} {value : Expr} :
    (assign name value).targets = nameOf name :: value.targets :=
  rfl

theorem Expr.targets_subset_names {e : Expr} : e.targets ⊆ e.names := by
  induction e
  case number | var => exact List.nil_subset _
  case unary ih => exact ih
  case binary ihl ihr =>
    rw [targets_binary, names]
    exact List.append_subset.mpr ⟨List.subset_append_of_subset_left _ ihl,
      List.subset_append_of_subset_right _ ihr⟩
  case assign ih =>
    rw [targets_assign, names]
    exact List.cons_subset.mpr ⟨by simp, List.subset_append_of_subset_left _ ih⟩

namespace Scope

-- A scope with names bound anew, one after the other.
def bindAll (s : Scope) (bindings : List (String × Value)) : Scope :=
  bindings.foldl (fun s (name, v) => s.bind name v) s

variable {s : Scope} {name : String} {bs cs : List (String × Value)}

theorem bindAll_append : s.bindAll (bs ++ cs) = (s.bindAll bs).bindAll cs :=
  List.foldl_append

@[simp]
theorem parent_bindAll : (s.bindAll bs).parent = s.parent := by
  induction bs generalizing s
  case nil => rfl
  case cons b bs ih => exact ih

theorem valueOf?_append : valueOf? name (bs ++ cs) = (valueOf? name bs).or (valueOf? name cs) := by
  induction bs
  case nil => rfl
  case cons b bs ih =>
    rw [List.cons_append, valueOf?, valueOf?, ih]
    split <;> rfl

theorem valueOf?_eq_none_iff : valueOf? name bs = none ↔ name ∉ bs.map Prod.fst := by
  induction bs
  case nil => simp [valueOf?]
  case cons b bs ih =>
    rw [valueOf?, List.map_cons, List.mem_cons, not_or, ← ih]
    split
    case isTrue h => simp [h]
    case isFalse h => simp [Ne.symm h]

-- Of several bindings of a name the last one counts.
theorem find?_bindAll :
    (s.bindAll bs).find? name = (valueOf? name bs.reverse).or (s.find? name) := by
  induction bs generalizing s
  case nil => rfl
  case cons b bs ih =>
    change ((s.bind b.1 b.2).bindAll bs).find? name = _
    rw [ih, find?_bind, List.reverse_cons, valueOf?_append, Option.or_assoc]
    simp only [valueOf?, eq_comm (a := name)]
    split <;> rfl

end Scope

namespace Machine

variable {i j : ScopeId} {store : Store} {bs cs : List (String × Value)}

theorem write_append : write i (bs ++ cs) store = write i cs (write i bs store) :=
  List.foldl_append

theorem scope_write : (write i bs store).scopes[j]? =
    store.scopes[j]?.map fun scope => if i = j then scope.bindAll bs else scope := by
  induction bs generalizing store
  case nil => simp [write, Scope.bindAll]
  case cons b bs ih =>
    change (write i bs (store.bind i b.1 b.2)).scopes[j]? = _
    rw [ih, Store.scope_bind, Option.map_map]
    congr 1
    funext scope
    simp only [Function.comp_apply]
    split <;> rfl

@[simp]
theorem length_write : (write i bs store).scopes.length = store.scopes.length := by
  induction bs generalizing store
  case nil => rfl
  case cons b bs ih => exact ih.trans Store.length_bind

theorem find?_write {name : String} (h : i < store.scopes.length) :
    (write i bs store).find? i name =
      (Scope.valueOf? name bs.reverse).or (store.find? i name) := by
  induction bs generalizing store
  case nil => rfl
  case cons b bs ih =>
    change (write i bs (store.bind i b.1 b.2)).find? i name = _
    rw [ih (by simpa using h), Store.find?_bind h, List.reverse_cons, Scope.valueOf?_append,
      Option.or_assoc]
    simp only [Scope.valueOf?, eq_comm (a := name)]
    split <;> rfl

end Machine

namespace Effects

open Machine

-- What may come of a tree that assigns to some names.
structure Writes (targets : List String) (scope : ScopeId) (store : Store) (o : Outcome) :
    Prop where
  names : ∀ b ∈ o.assignments, b.1 ∈ targets
  store : o.store = write scope o.assignments store

variable {targets : List String} {scope : ScopeId} {store : Store} {o : Outcome}
  {next : Value → Store → Outcome} {f : Store → Outcome} {e : Expr}

theorem Stateless.writes (h : Stateless f) : Writes targets scope store (f store) := by
  obtain ⟨result, h⟩ := h
  rw [h]
  exact ⟨by simp [Outcome.assignments], rfl⟩

theorem Writes.andThen (h : Writes targets scope store o)
    (hnext : ∀ v, Writes targets scope o.store (next v o.store)) :
    Writes targets scope store (o.andThen next) := by
  cases ho : o.result
  case error => simpa only [Outcome.andThen, ho] using h
  case ok v =>
    have hnext := hnext v
    have hstore : (o.andThen next).store = (next v o.store).store := by
      simp only [Outcome.andThen, ho]
    constructor
    case names =>
      rw [Outcome.assignments_andThen ho]
      exact List.forall_mem_append.mpr ⟨h.names, hnext.names⟩
    case store =>
      rw [hstore, Outcome.assignments_andThen ho, write_append, ← h.store, ← hnext.store]

theorem writes_lookup (name : Token) :
    Writes targets scope store (Eval.lookup scope name store) := by
  cases hfind : store.find? scope (nameOf name) <;> simp only [Eval.lookup, hfind]
  all_goals exact ⟨List.forall_mem_nil _, rfl⟩

theorem writes_assign {name : Token} (h : nameOf name ∈ targets) (v : Value) :
    Writes targets scope store (Eval.assign scope name v store) :=
  ⟨List.forall_mem_singleton.mpr h, rfl⟩

theorem writes_eval (h : ∀ name ∈ e.targets, name ∈ targets) :
    Writes targets scope store (e.eval scope store) := by
  induction e generalizing store <;> rw [Expr.eval]
  case number token => exact (stateless_literal token).writes
  case var name => exact writes_lookup name
  case unary operator operand ih =>
    exact (ih h).andThen fun v => (stateless_unary operator operand v).writes
  case binary left operator right ihl ihr =>
    rw [Expr.targets_binary] at h
    obtain ⟨hl, hr⟩ := List.forall_mem_append.mp h
    refine (ihl hl).andThen fun l => (ihr hr).andThen fun r => ?_
    exact (stateless_binary left operator right l r).writes
  case assign name value ih =>
    rw [Expr.targets_assign] at h
    obtain ⟨hname, hvalue⟩ := List.forall_mem_cons.mp h
    exact (ih hvalue).andThen fun v => writes_assign hname v

end Effects

namespace Expr

variable {e : Expr} {scope i : ScopeId} {store : Store} {name : String}

theorem store_eval :
    (e.eval scope store).store = Machine.write scope (e.eval scope store).assignments store :=
  (Effects.writes_eval fun _ => id).store

theorem target_of_assignment {b : String × Value} (h : b ∈ (e.eval scope store).assignments) :
    b.1 ∈ e.targets :=
  (Effects.writes_eval fun _ => id).names b h

-- A tree that comes to a value has assigned to all its targets.
theorem targets_subset_of_ok {v : Value} (h : (e.eval scope store).result = .ok v) :
    e.targets ⊆ (e.eval scope store).assignments.map Prod.fst := by
  induction e generalizing store v <;> rw [eval] at h ⊢
  case number | var => exact List.nil_subset _
  case unary operator operand ih =>
    obtain ⟨w, hw, _⟩ := Eval.Outcome.of_andThen_ok h
    rw [Eval.Outcome.assignments_andThen hw, List.map_append]
    exact List.subset_append_of_subset_left _ (ih hw)
  case binary left operator right ihl ihr =>
    obtain ⟨l, hl, h⟩ := Eval.Outcome.of_andThen_ok h
    obtain ⟨r, hr, _⟩ := Eval.Outcome.of_andThen_ok h
    rw [targets_binary, Eval.Outcome.assignments_andThen hl, Eval.Outcome.assignments_andThen hr,
      List.map_append, List.map_append]
    exact List.append_subset.mpr ⟨List.subset_append_of_subset_left _ (ihl hl),
      List.subset_append_of_subset_right _ (List.subset_append_of_subset_left _ (ihr hr))⟩
  case assign name value ih =>
    obtain ⟨w, hw, _⟩ := Eval.Outcome.of_andThen_ok h
    rw [targets_assign, Eval.Outcome.assignments_andThen hw, List.map_append]
    exact List.cons_subset.mpr ⟨List.mem_append_right _ (List.mem_singleton_self _),
      List.subset_append_of_subset_left _ (ih hw)⟩

theorem scope_eval : (e.eval scope store).store.scopes[i]? = store.scopes[i]?.map fun inner =>
    if scope = i then inner.bindAll (e.eval scope store).assignments else inner := by
  rw [store_eval, Machine.scope_write]

end Expr

end Reckoner
