import Reckoner.Value.Basic

namespace Reckoner

abbrev ScopeId := Nat

-- A name is bound at most once.
structure Scope where
  parent : Option ScopeId
  bindings : List (String × Value)
  deriving DecidableEq, Inhabited

namespace Scope

def empty : Scope :=
  ⟨none, []⟩

def inside (parent : ScopeId) : Scope :=
  ⟨some parent, []⟩

def valueOf? (name : String) : List (String × Value) → Option Value
  | [] => none
  | (other, v) :: rest => if other = name then some v else valueOf? name rest

def find? (s : Scope) (name : String) : Option Value :=
  valueOf? name s.bindings

-- A name that was bound keeps its place.
def rebind (name : String) (v : Value) : List (String × Value) → List (String × Value)
  | [] => [(name, v)]
  | (other, w) :: rest =>
    if other = name then (name, v) :: rest else (other, w) :: rebind name v rest

def bind (s : Scope) (name : String) (v : Value) : Scope :=
  { s with bindings := rebind name v s.bindings }

def unbind (s : Scope) (name : String) : Scope :=
  { s with bindings := s.bindings.filter (·.1 ≠ name) }

def builtins : Scope :=
  ((empty.bind "NULL" (.int 0)).bind "TRUE" (.bool true)).bind "FALSE" (.bool false)

theorem valueOf?_rebind (name other : String) (v : Value) (bs : List (String × Value)) :
    valueOf? other (rebind name v bs) = if other = name then some v else valueOf? other bs := by
  induction bs with
  | nil => simp [rebind, valueOf?, eq_comm]
  | cons b rest ih => grind [rebind, valueOf?]

theorem find?_bind (s : Scope) (name other : String) (v : Value) :
    (s.bind name v).find? other = if other = name then some v else s.find? other :=
  valueOf?_rebind ..

end Scope

-- The oldest scope comes first.
structure Store where
  scopes : List Scope
  deriving DecidableEq, Inhabited

namespace Store

def empty : Store :=
  ⟨[]⟩

def add (s : Store) (scope : Scope) : Store × ScopeId :=
  (⟨s.scopes ++ [scope]⟩, s.scopes.length)

-- A parent that is not older than the scope inside it is none.
def find? (s : Store) (id : ScopeId) (name : String) : Option Value :=
  match s.scopes[id]? with
  | none => none
  | some scope =>
    match scope.find? name, scope.parent with
    | some v, _ => some v
    | none, some parent => if parent < id then s.find? parent name else none
    | none, none => none
termination_by id

def findLocal? (s : Store) (id : ScopeId) (name : String) : Option Value :=
  s.scopes[id]?.bind (·.find? name)

def bind (s : Store) (id : ScopeId) (name : String) (v : Value) : Store :=
  ⟨s.scopes.modify id (·.bind name v)⟩

def unbind (s : Store) (id : ScopeId) (name : String) : Store :=
  ⟨s.scopes.modify id (·.unbind name)⟩

end Store

end Reckoner
