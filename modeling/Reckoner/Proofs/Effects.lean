import Reckoner.Proofs.Outcomes
import Reckoner.Proofs.Scoping

namespace Reckoner

open Eval (Outcome nameOf)

def Eval.Event.name : Event → String
  | read name | assigned name _ => name

-- The names in a tree in the order in which they are used.
def Expr.names : Expr → List String
  | number _ => []
  | binary left _ right => left.names ++ right.names
  | unary _ operand => operand.names
  | var name => [nameOf name]
  | assign name value => value.names ++ [nameOf name]

-- Those of them whose values are asked for.
def Expr.reads : Expr → List String
  | number _ => []
  | binary left _ right => left.reads ++ right.reads
  | unary _ operand => operand.reads
  | var name => [nameOf name]
  | assign _ value => value.reads

theorem Expr.reads_subset_names {e : Expr} : e.reads ⊆ e.names := by
  induction e
  case number => exact List.nil_subset _
  case var => exact List.Subset.refl _
  case unary ih => exact ih
  case binary ihl ihr =>
    exact List.append_subset.mpr ⟨List.subset_append_of_subset_left _ ihl,
      List.subset_append_of_subset_right _ ihr⟩
  case assign ih => exact List.subset_append_of_subset_left _ ih

namespace Effects

-- What neither depends on the store nor changes it.
def Stateless (f : Store → Outcome) : Prop :=
  ∃ result, ∀ store, f store = ⟨result, store, []⟩

-- What may come of a tree with some names: events with these names, and new bindings of these names
-- in the scopes that there are.
structure Within (names : List String) (store : Store) (o : Outcome) : Prop where
  events : ∀ event ∈ o.events, event.name ∈ names
  length : o.store.scopes.length = store.scopes.length
  kept   : ∀ i, ∀ name ∉ names, o.store.find? i name = store.find? i name

-- Scopes of two stores in which the given names are found to be bound alike.
structure Matches (names : List String) (i j : ScopeId) (store store' : Store) : Prop where
  exists_iff : j < store'.scopes.length ↔ i < store.scopes.length
  find?      : ∀ name ∈ names, store'.find? j name = store.find? i name

-- Outcomes that only differ in what the rest of the stores holds.
structure Same (names : List String) (i j : ScopeId) (o o' : Outcome) : Prop where
  result : o'.result = o.result
  events : o'.events = o.events
  stores : Matches names i j o.store o'.store

section Nodes

theorem stateless_literal (token : Token) : Stateless (Eval.literal token) := by
  rcases h : token.payload with _ | (_ | _ | _) <;>
    exact ⟨_, fun store => by rw [Eval.literal, h]; rfl⟩

theorem stateless_unary (operator : Token) (operand : Expr) (v : Value) :
    Stateless (Eval.unary operator operand v) := by
  cases hop : UnaryOperator.ofKind? operator.kind
  case none => exact ⟨_, fun store => by rw [Eval.unary, hop]; rfl⟩
  case some op =>
    cases happly : op.apply v <;>
      exact ⟨_, fun store => by simp only [Eval.unary, hop, happly]; rfl⟩

theorem stateless_binary (left : Expr) (operator : Token) (right : Expr) (l r : Value) :
    Stateless (Eval.binary left operator right l r) := by
  cases hop : BinaryOperator.ofKind? operator.kind
  case none => exact ⟨_, fun store => by rw [Eval.binary, hop]; rfl⟩
  case some op =>
    rcases happly : op.apply l r with (_ | ⟨_, _ | _⟩) | _ <;>
      exact ⟨_, fun store => by simp only [Eval.binary, hop, happly]; rfl⟩

end Nodes

section Within

variable {names : List String} {scope : ScopeId} {store : Store} {o : Outcome}
  {next : Value → Store → Outcome} {f : Store → Outcome} {e : Expr}

theorem Stateless.within (h : Stateless f) : Within names store (f store) := by
  obtain ⟨result, h⟩ := h
  rw [h]
  exact ⟨by simp, rfl, fun _ _ _ => rfl⟩

theorem Within.andThen (h : Within names store o)
    (hnext : ∀ v, Within names o.store (next v o.store)) :
    Within names store (o.andThen next) := by
  cases ho : o.result <;> simp only [Outcome.andThen, ho]
  case error => exact h
  case ok v =>
    exact {
      events := List.forall_mem_append.mpr ⟨h.events, (hnext v).events⟩
      length := (hnext v).length.trans h.length
      kept   := fun i name hname => ((hnext v).kept i name hname).trans (h.kept i name hname)
    }

theorem within_lookup {name : Token} (h : nameOf name ∈ names) :
    Within names store (Eval.lookup scope name store) := by
  cases hfind : store.find? scope (nameOf name) <;> simp only [Eval.lookup, hfind]
  all_goals exact ⟨List.forall_mem_singleton.mpr h, rfl, fun _ _ _ => rfl⟩

theorem within_assign {name : Token} (h : nameOf name ∈ names) (v : Value) :
    Within names store (Eval.assign scope name v store) where
  events := List.forall_mem_singleton.mpr h
  length := Store.length_bind
  kept   := fun _ _ hother => Store.find?_bind_of_ne fun heq => hother (heq ▸ h)

theorem within_eval (h : ∀ name ∈ e.names, name ∈ names) :
    Within names store (e.eval scope store) := by
  induction e generalizing store <;> rw [Expr.eval]
  case number token => exact (stateless_literal token).within
  case var name => exact within_lookup (h _ (List.mem_singleton_self _))
  case unary operator operand ih =>
    exact (ih h).andThen fun v => (stateless_unary operator operand v).within
  case binary left operator right ihl ihr =>
    obtain ⟨hl, hr⟩ := List.forall_mem_append.mp h
    refine (ihl hl).andThen fun l => (ihr hr).andThen fun r => ?_
    exact (stateless_binary left operator right l r).within
  case assign name value ih =>
    obtain ⟨hvalue, hname⟩ := List.forall_mem_append.mp h
    exact (ih hvalue).andThen fun v => within_assign (hname _ (List.mem_singleton_self _)) v

end Within

section Matches

variable {names : List String} {i j k : ScopeId} {store store' : Store} {o o' : Outcome}
  {next next' : Value → Store → Outcome} {f : Store → Outcome} {name : String} {v : Value}
  {e : Expr} {scope : Scope}

theorem Matches.bind (h : Matches names i j store store') :
    Matches names i j (store.bind i name v) (store'.bind j name v) where
  exists_iff := by simp [h.exists_iff]
  find?      := fun other hother => by
    by_cases hi : i < store.scopes.length
    case pos =>
      rw [Store.find?_bind hi, Store.find?_bind (h.exists_iff.mpr hi), h.find? other hother]
    case neg =>
      have hj := h.exists_iff.not.mpr hi
      rw [Store.find?_eq_none, Store.find?_eq_none] <;>
        simp [Nat.le_of_not_lt hi, Nat.le_of_not_lt hj]

theorem matches_bind (h : name ∉ names) : Matches names i i store (store.bind k name v) where
  exists_iff := by simp
  find?      := fun _ hother => Store.find?_bind_of_ne fun heq => h (heq ▸ hother)

-- Scopes that hold the same and stand in no other one.
theorem matches_of_scope (hi : store.scopes[i]? = some scope) (hj : store'.scopes[j]? = some scope)
    (hparent : scope.parent = none) : Matches names i j store store' where
  exists_iff :=
    iff_of_true (List.getElem?_eq_some_iff.mp hj).fst (List.getElem?_eq_some_iff.mp hi).fst
  find?      := fun name _ => by
    rw [Store.find?_eq hi, Store.find?_eq hj, hparent]
    rfl

theorem Stateless.same (h : Stateless f) (hstores : Matches names i j store store') :
    Same names i j (f store) (f store') := by
  obtain ⟨result, h⟩ := h
  rw [h, h]
  exact ⟨rfl, rfl, hstores⟩

theorem Same.andThen (h : Same names i j o o')
    (hnext : ∀ v, Matches names i j o.store o'.store →
      Same names i j (next v o.store) (next' v o'.store)) :
    Same names i j (o.andThen next) (o'.andThen next') := by
  cases ho : o.result <;> simp only [Outcome.andThen, h.result, ho]
  case error => exact h
  case ok v =>
    have hnext := hnext v h.stores
    exact {
      result := hnext.result
      events := congrArg₂ _ h.events hnext.events
      stores := hnext.stores
    }

theorem same_lookup {name : Token} (h : nameOf name ∈ names)
    (hstores : Matches names i j store store') :
    Same names i j (Eval.lookup i name store) (Eval.lookup j name store') := by
  simp only [Eval.lookup, hstores.find? _ h]
  cases store.find? i (nameOf name) <;> exact ⟨rfl, rfl, hstores⟩

-- Evaluation can only tell scopes apart by the names that the tree reads.
theorem same_eval (h : ∀ name ∈ e.reads, name ∈ names) (hstores : Matches names i j store store') :
    Same names i j (e.eval i store) (e.eval j store') := by
  induction e generalizing store store' <;> simp only [Expr.eval]
  case number token => exact (stateless_literal token).same hstores
  case var name => exact same_lookup (h _ (List.mem_singleton_self _)) hstores
  case unary operator operand ih =>
    exact (ih h hstores).andThen fun v => (stateless_unary operator operand v).same
  case binary left operator right ihl ihr =>
    obtain ⟨hl, hr⟩ := List.forall_mem_append.mp h
    refine (ihl hl hstores).andThen fun l hstores => (ihr hr hstores).andThen fun r => ?_
    exact (stateless_binary left operator right l r).same
  case assign name value ih =>
    exact (ih h hstores).andThen fun v hstores => ⟨rfl, rfl, hstores.bind⟩

end Matches

end Effects

namespace Expr

open Effects

variable {e : Expr} {scope : ScopeId} {store : Store} {name : String}

theorem length_eval : (e.eval scope store).store.scopes.length = store.scopes.length :=
  (within_eval fun _ => id).length

theorem name_mem_of_event {event : Eval.Event} (h : event ∈ (e.eval scope store).events) :
    event.name ∈ e.names :=
  (within_eval fun _ => id).events event h

theorem find?_eval_of_not_mem (h : name ∉ e.names) (i : ScopeId) :
    (e.eval scope store).store.find? i name = store.find? i name :=
  (within_eval fun _ => id).kept i name h

theorem result_eval_bind_of_not_mem (h : name ∉ e.names) (i : ScopeId) (v : Value) :
    (e.eval scope (store.bind i name v)).result = (e.eval scope store).result :=
  (same_eval (fun _ hname => reads_subset_names hname) (matches_bind h)).result

end Expr

end Reckoner
