import Reckoner.Expr.Basic
import Reckoner.Value.Operator
import Reckoner.Frame

namespace Reckoner

namespace Eval

inductive Event where
  | read (name : String)
  | assigned (name : String) (v : Value)
  deriving DecidableEq

structure State where
  store : Store
  events : List Event

end Eval

-- A failure ends an evaluation and leaves what was assigned before.
abbrev Evaluation : Type → Type :=
  ExceptT Diagnostic (StateM Eval.State)

namespace Eval

def record (event : Event) : Evaluation Unit :=
  modify fun s => { s with events := s.events ++ [event] }

-- A token that carries no name stands for the empty one.
def nameOf (token : Token) : String :=
  token.name?.getD ""

end Eval

namespace Frame

variable (frame : Frame)

def literal (token : Token) : Evaluation Value :=
  match token.payload with
  | some (.int n) => return .int n
  | some (.float x) => return .float x
  | _ => throw (frame.blame .illegalOperation ("'" ++ token.text ++ "' is not a number") token.span)

def unknownOperator (operator : Token) : Diagnostic :=
  frame.blame .illegalOperation ("Unknown operator '" ++ operator.kind.symbol ++ "'") operator.span

def operationFailure (fault : Value.Fault) (span : Span) : Diagnostic :=
  let kind := match fault with
    | .divisionByZero => .divisionByZero
    | .notBoolean _ _ => .illegalOperation
  frame.blame kind fault.message span

end Frame

namespace Expr

open Eval (record nameOf)

-- An operator is looked up when its operands have values. A division by zero is blamed on the
-- divisor, a wrong operand on itself.
def evaluate (frame : Frame) : Expr → Evaluation Value
  | number token => frame.literal token
  | binary left operator right => do
    let l ← left.evaluate frame
    let r ← right.evaluate frame
    match BinaryOperator.ofKind? operator.kind with
    | none => throw (frame.unknownOperator operator)
    | some op =>
      match op.apply l r with
      | .ok v => return v
      | .error fault =>
        let blamed := match fault with
          | .divisionByZero => right
          | .notBoolean _ .left => left
          | .notBoolean _ .right => right
        throw (frame.operationFailure fault blamed.span)
  | unary operator operand => do
    let v ← operand.evaluate frame
    match UnaryOperator.ofKind? operator.kind with
    | none => throw (frame.unknownOperator operator)
    | some op =>
      match op.apply v with
      | .ok w => return w
      | .error fault => throw (frame.operationFailure fault operand.span)
  | var token => do
    let name := nameOf token
    record (.read name)
    match frame.lookup name (← get).store with
    | some v => return v
    | none =>
      throw (frame.blame .undefinedVariable ("'" ++ name ++ "' is not defined") token.span)
  | assign token value => do
    let name := nameOf token
    let v ← value.evaluate frame
    record (.assigned name v)
    modify fun s => { s with store := frame.assign name v s.store }
    return v

end Expr

namespace Frame

def carryOut (frame : Frame) (e : Expr) (store : Store) : Except Diagnostic Value × Eval.State :=
  (e.evaluate frame).run.run ⟨store, []⟩

def evaluate (frame : Frame) (e : Expr) (store : Store) : Except Diagnostic Value × Store :=
  let (result, state) := frame.carryOut e store
  (result, state.store)

end Frame

end Reckoner
