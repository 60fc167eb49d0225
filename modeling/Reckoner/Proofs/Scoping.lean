import Mathlib
import Reckoner.Scope

namespace Reckoner

namespace Store

variable {store : Store} {i j : ScopeId} {scope : Scope} {name other : String} {v : Value}

-- A lookup asks the scope itself, and its parent if the scope has no binding.
theorem find?_eq (h : store.scopes[j]? = some scope) :
    store.find? j name = (scope.find? name).or
      (scope.parent.bind fun parent => if parent < j then store.find? parent name else none) := by
  rw [find?, h]
  cases hname : scope.find? name <;> cases hparent : scope.parent <;> simp [hname, hparent]

theorem find?_eq_none (h : store.scopes[j]? = none) : store.find? j name = none := by
  rw [find?, h]

@[simp]
theorem length_bind : (store.bind i name v).scopes.length = store.scopes.length := by
  simp [bind]

theorem scope_bind : (store.bind i name v).scopes[j]? =
    (store.scopes[j]?).map fun scope => if i = j then scope.bind name v else scope := by
  simp [bind, List.getElem?_modify]

-- No other name sees a binding.
theorem find?_bind_of_ne (h : other ≠ name) :
    (store.bind i name v).find? j other = store.find? j other := by
  induction j using Nat.strong_induction_on
  case _ j ih =>
    cases hscope : store.scopes[j]?
    case none => rw [find?_eq_none hscope, find?_eq_none (by simp [scope_bind, hscope])]
    case some scope =>
      have hbound : (store.bind i name v).scopes[j]? =
          some (if i = j then scope.bind name v else scope) := by
        simp [scope_bind, hscope]
      have hown : (if i = j then scope.bind name v else scope).find? other = scope.find? other := by
        split
        · rw [Scope.find?_bind, if_neg h]
        · rfl
      have hparent : (if i = j then scope.bind name v else scope).parent = scope.parent := by
        split <;> rfl
      rw [find?_eq hscope, find?_eq hbound, hown, hparent]
      cases scope.parent <;> simp only [Option.bind_none, Option.bind_some]
      case some parent =>
        split
        case isTrue hlt => rw [ih parent hlt]
        case isFalse => rfl

theorem find?_bind_self (h : i < store.scopes.length) :
    (store.bind i name v).find? i name = some v := by
  have hbound : (store.bind i name v).scopes[i]? = some (store.scopes[i].bind name v) := by
    simp [scope_bind, List.getElem?_eq_getElem h]
  rw [find?_eq hbound, Scope.find?_bind, if_pos rfl]
  rfl

theorem find?_bind (h : i < store.scopes.length) : (store.bind i name v).find? i other =
    if other = name then some v else store.find? i other := by
  split
  case isTrue hname => rw [hname, find?_bind_self h]
  case isFalse hname => exact find?_bind_of_ne hname

end Store

end Reckoner
