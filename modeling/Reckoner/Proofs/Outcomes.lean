import Mathlib
import Reckoner.Expr.Eval

namespace Reckoner

namespace Eval

-- Why a node has no value.
inductive Fault where
  | notNumber (token : Token)
  | unknownOperator (kind : Token.Kind)
  | undefined (name : String)
  | operation (fault : Value.Fault)
  deriving DecidableEq

def Fault.kind : Fault → Diagnostic.Kind
  | notNumber _ => .illegalOperation
  | unknownOperator _ => .illegalOperation
  | undefined _ => .undefinedVariable
  | operation .divisionByZero => .divisionByZero
  | operation (.notBoolean _ _) => .illegalOperation

def Fault.message : Fault → String
  | notNumber token => "'" ++ token.text ++ "' is not a number"
  | unknownOperator kind => "Unknown operator '" ++ kind.symbol ++ "'"
  | undefined name => "'" ++ name ++ "' is not defined"
  | operation fault => fault.message

structure Failure where
  fault : Fault
  span : Span
  deriving DecidableEq

def Failure.diagnostic (frame : Frame) (f : Failure) : Diagnostic :=
  frame.blame f.fault.kind f.fault.message f.span

-- What comes of an evaluation, before it is told from which frame.
structure Outcome where
  result : Except Failure Value
  store : Store
  events : List Event

namespace Outcome

def value (v : Value) (store : Store) : Outcome :=
  ⟨.ok v, store, []⟩

def failure (fault : Fault) (span : Span) (store : Store) : Outcome :=
  ⟨.error ⟨fault, span⟩, store, []⟩

def andThen (o : Outcome) (next : Value → Store → Outcome) : Outcome :=
  match o.result with
  | .error _ => o
  | .ok v =>
    let after := next v o.store
    { after with events := o.events ++ after.events }

def after (event : Event) (o : Outcome) : Outcome :=
  { o with events := event :: o.events }

end Outcome

def literal (token : Token) (store : Store) : Outcome :=
  match token.payload with
  | some (.int n) => .value (.int n) store
  | some (.float x) => .value (.float x) store
  | _ => .failure (.notNumber token) token.span store

def binary (left : Expr) (operator : Token) (right : Expr) (l r : Value) (store : Store) :
    Outcome :=
  match BinaryOperator.ofKind? operator.kind with
  | none => .failure (.unknownOperator operator.kind) operator.span store
  | some op =>
    match op.apply l r with
    | .ok v => .value v store
    | .error .divisionByZero => .failure (.operation .divisionByZero) right.span store
    | .error (.notBoolean k .left) => .failure (.operation (.notBoolean k .left)) left.span store
    | .error (.notBoolean k .right) => .failure (.operation (.notBoolean k .right)) right.span store

def unary (operator : Token) (operand : Expr) (v : Value) (store : Store) : Outcome :=
  match UnaryOperator.ofKind? operator.kind with
  | none => .failure (.unknownOperator operator.kind) operator.span store
  | some op =>
    match op.apply v with
    | .ok w => .value w store
    | .error fault => .failure (.operation fault) operand.span store

def lookup (scope : ScopeId) (token : Token) (store : Store) : Outcome :=
  let name := nameOf token
  Outcome.after (.read name) <|
    match store.find? scope name with
    | some v => .value v store
    | none => .failure (.undefined name) token.span store

def assign (scope : ScopeId) (token : Token) (v : Value) (store : Store) : Outcome :=
  let name := nameOf token
  Outcome.after (.assigned name v) (.value v (store.bind scope name v))

end Eval

-- Evaluation that is given no more of a frame than its scope.
def Expr.eval (scope : ScopeId) : Expr → Store → Eval.Outcome
  | number token, store => Eval.literal token store
  | binary left operator right, store =>
    (left.eval scope store).andThen fun l store =>
      (right.eval scope store).andThen fun r store =>
        Eval.binary left operator right l r store
  | unary operator operand, store =>
    (operand.eval scope store).andThen fun v store => Eval.unary operator operand v store
  | var name, store => Eval.lookup scope name store
  | assign name value, store =>
    (value.eval scope store).andThen fun v store => Eval.assign scope name v store

def Eval.Outcome.reported (o : Eval.Outcome) (frame : Frame) : Except Diagnostic Value :=
  o.result.mapError (·.diagnostic frame)

theorem Eval.Failure.diagnostic_program (f : Failure) (i : ScopeId) :
    f.diagnostic (.program i) = ⟨f.fault.kind, f.fault.message, f.span,
      [⟨f.span.start.source.name, f.span.start.shownLine, "<program>"⟩]⟩ := by
  rw [diagnostic, Frame.blame, Frame.program, Frame.traceback_outermost]

theorem Eval.Outcome.reported_program (o : Outcome) (i j : ScopeId) :
    o.reported (.program i) = o.reported (.program j) := by
  simp only [reported, Failure.diagnostic_program]

namespace Eval

section Running

variable {α β : Type} {x : Evaluation α} {f : α → Evaluation β} {s s' : State} {a : α}
  {d : Diagnostic}

theorem run_bind_ok (h : x.run.run s = (.ok a, s')) :
    (x >>= f).run.run s = (f a).run.run s' := by
  rw [ExceptT.run_bind, StateT.run_bind, h]
  rfl

theorem run_bind_error (h : x.run.run s = (.error d, s')) :
    (x >>= f).run.run s = (.error d, s') := by
  rw [ExceptT.run_bind, StateT.run_bind, h]
  rfl

end Running

-- An evaluation in a frame comes to the outcome that is told for the store it starts with, as it
-- is reported from that frame.
def Comes (frame : Frame) (x : Evaluation Value) (next : Store → Outcome) : Prop :=
  ∀ s : State, x.run.run s = ((next s.store).reported frame,
    ⟨(next s.store).store, s.events ++ (next s.store).events⟩)

section Comes

variable {frame : Frame} {x : Evaluation Value} {f : Value → Evaluation Value}
  {next : Store → Outcome} {next' : Value → Store → Outcome} {v : Value}

theorem comes_value : Comes frame (pure v) (.value v) := fun s => by
  rw [Outcome.value, List.append_nil]
  rfl

theorem comes_failure (fault : Fault) (span : Span) :
    Comes frame (throw (Failure.diagnostic frame ⟨fault, span⟩)) (.failure fault span) :=
  fun s => by
    rw [Outcome.failure, List.append_nil]
    rfl

theorem comes_operation (fault : Value.Fault) (span : Span) :
    Comes frame (throw (frame.operationFailure fault span)) (.failure (.operation fault) span) := by
  have hdiagnostic : frame.operationFailure fault span =
      Failure.diagnostic frame ⟨.operation fault, span⟩ := by
    cases fault <;> rfl
  rw [hdiagnostic]
  exact comes_failure (.operation fault) span

theorem Comes.bind (h : Comes frame x next) (h' : ∀ v, Comes frame (f v) (next' v)) :
    Comes frame (x >>= f) fun store => (next store).andThen next' := by
  intro s
  have hx := h s
  beta_reduce
  generalize next s.store = o at hx ⊢
  obtain ⟨failure | v, store, events⟩ := o
  case error => exact run_bind_error hx
  case ok =>
    rw [run_bind_ok hx, h' v, List.append_assoc]
    rfl

-- What is done to a variable is recorded before anything else.
theorem comes_record {event : Event} (h : Comes frame x next) :
    Comes frame (record event >>= fun _ => x) fun store => (next store).after event := by
  intro s
  have hrecord : (record event).run.run s = (.ok (), ⟨s.store, s.events ++ [event]⟩) := rfl
  rw [run_bind_ok hrecord, h, List.append_assoc]
  rfl

theorem comes_literal (token : Token) : Comes frame (frame.literal token) (literal token) := by
  intro s
  rw [Frame.literal, literal]
  rcases token.payload with _ | _ | _ | _
  case some.int | some.float => exact comes_value s
  case none | some.name => exact comes_failure (.notNumber token) token.span s

theorem comes_lookup (token : Token) :
    Comes frame ((Expr.var token).evaluate frame) (lookup frame.scope token) := by
  refine comes_record (fun s => ?_)
  have hget : (get : Evaluation State).run.run s = (.ok s, s) := rfl
  rw [run_bind_ok hget, Frame.lookup]
  cases s.store.find? frame.scope (nameOf token)
  case none => exact comes_failure (.undefined (nameOf token)) token.span s
  case some => exact comes_value s

theorem comes_assign (token : Token) (v : Value) : Comes frame (do
      record (.assigned (nameOf token) v)
      modify fun s => { s with store := frame.assign (nameOf token) v s.store }
      return v) (assign frame.scope token v) :=
  comes_record fun s => by
    rw [Outcome.value, List.append_nil]
    rfl

theorem comes_evaluate (e : Expr) : Comes frame (e.evaluate frame) (e.eval frame.scope) := by
  induction e
  case number token => exact comes_literal token
  case var token => exact comes_lookup token
  case assign token value ih => exact ih.bind fun v => comes_assign token v
  case unary operator operand ih =>
    refine ih.bind fun v s => ?_
    rw [unary]
    cases UnaryOperator.ofKind? operator.kind
    case none => exact comes_failure (.unknownOperator operator.kind) operator.span s
    case some op =>
      dsimp only
      cases op.apply v
      case error fault => exact comes_operation fault operand.span s
      case ok => exact comes_value s
  case binary left operator right ihl ihr =>
    refine ihl.bind fun l => ihr.bind fun r s => ?_
    rw [binary]
    cases BinaryOperator.ofKind? operator.kind
    case none => exact comes_failure (.unknownOperator operator.kind) operator.span s
    case some op =>
      dsimp only
      rcases op.apply l r with (_ | ⟨k, _ | _⟩) | _
      case error.divisionByZero => exact comes_operation .divisionByZero right.span s
      case error.notBoolean.left => exact comes_operation (.notBoolean k .left) left.span s
      case error.notBoolean.right => exact comes_operation (.notBoolean k .right) right.span s
      case ok => exact comes_value s

end Comes

end Eval

namespace Frame

variable (frame : Frame) (e : Expr) (store : Store)

theorem carryOut_eq : frame.carryOut e store = ((e.eval frame.scope store).reported frame,
    ⟨(e.eval frame.scope store).store, (e.eval frame.scope store).events⟩) :=
  Eval.comes_evaluate e ⟨store, []⟩

theorem evaluate_eq : frame.evaluate e store =
    ((e.eval frame.scope store).reported frame, (e.eval frame.scope store).store) := by
  rw [evaluate, carryOut_eq]

theorem store_evaluate : (frame.evaluate e store).2 = (e.eval frame.scope store).store := by
  rw [evaluate_eq]

theorem events_carryOut :
    (frame.carryOut e store).2.events = (e.eval frame.scope store).events := by
  rw [carryOut_eq]

-- What is reported from a frame is blamed on the span that is reported.
theorem eq_blame_of_evaluate {d : Diagnostic} (h : (frame.evaluate e store).1 = .error d) :
    d.kind.isRuntime ∧ d = frame.blame d.kind d.details d.span := by
  simp only [evaluate_eq, Eval.Outcome.reported] at h
  cases hresult : (e.eval frame.scope store).result <;> rw [hresult] at h <;> cases h
  case error.refl f =>
    refine ⟨?_, rfl⟩
    obtain ⟨_ | _ | _ | (_ | _), _⟩ := f <;> rfl

end Frame

end Reckoner
