import Reckoner.Scope
import Reckoner.Diagnostic.Basic

namespace Reckoner

-- One activation of code. The entry is where the caller was left.
structure Frame where
  name : String
  scope : ScopeId
  caller : Option Frame
  entry : Option Position
  deriving Inhabited

namespace Frame

def outermost (name : String) (scope : ScopeId) : Frame :=
  ⟨name, scope, none, none⟩

def entered (name : String) (scope : ScopeId) (caller : Frame) (entry : Position) : Frame :=
  ⟨name, scope, some caller, some entry⟩

def program (scope : ScopeId) : Frame :=
  outermost "<program>" scope

def lookup (frame : Frame) (name : String) (store : Store) : Option Value :=
  store.find? frame.scope name

def assign (frame : Frame) (name : String) (v : Value) (store : Store) : Store :=
  store.bind frame.scope name v

mutual

-- Goes from a frame to its caller, and from the position in it to the one where the caller was
-- left, as long as there are both.
def outwards : Option Frame → Option Position → List Diagnostic.Call → List Diagnostic.Call
  | some frame, some p, calls => frame.visit p calls
  | _, _, calls => calls

def visit : Frame → Position → List Diagnostic.Call → List Diagnostic.Call
  | ⟨name, _, caller, entry⟩, p, calls =>
    outwards caller entry (calls ++ [⟨p.source.name, p.shownLine, name⟩])

end

-- The calls that lead to a position in a frame, the outermost first.
def traceback (frame : Frame) (p : Position) : List Diagnostic.Call :=
  (outwards (some frame) (some p) []).reverse

def blame (frame : Frame) (kind : Diagnostic.Kind) (details : String) (span : Span) : Diagnostic :=
  ⟨kind, details, span, frame.traceback span.start⟩

section Traceback

variable {name : String} {scope : ScopeId} {frame caller : Frame} {entry p : Position}

mutual

theorem outwards_append (front : List Diagnostic.Call) :
    (frame : Option Frame) → (p : Option Position) → (calls : List Diagnostic.Call) →
      outwards frame p (front ++ calls) = front ++ outwards frame p calls
  | some frame, some p, calls => visit_append front frame p calls
  | none, _, _ | some _, none, _ => rfl

theorem visit_append (front : List Diagnostic.Call) :
    (frame : Frame) → (p : Position) → (calls : List Diagnostic.Call) →
      frame.visit p (front ++ calls) = front ++ frame.visit p calls
  | ⟨_, _, caller, entry⟩, p, calls => by
    rw [visit, visit, List.append_assoc]
    exact outwards_append front caller entry _

end

theorem traceback_eq :
    frame.traceback p =
      (outwards frame.caller frame.entry []).reverse ++
        [⟨p.source.name, p.shownLine, frame.name⟩] := by
  obtain ⟨name, scope, caller, entry⟩ := frame
  have houtwards := outwards_append [⟨p.source.name, p.shownLine, name⟩] caller entry []
  rw [traceback, outwards, visit, List.nil_append, ← List.append_nil [_], houtwards,
    List.reverse_append]
  rfl

@[simp]
theorem traceback_outermost :
    (outermost name scope).traceback p = [⟨p.source.name, p.shownLine, name⟩] :=
  rfl

@[simp]
theorem traceback_entered : (entered name scope caller entry).traceback p =
    caller.traceback entry ++ [⟨p.source.name, p.shownLine, name⟩] :=
  traceback_eq

end Traceback

end Frame

end Reckoner
