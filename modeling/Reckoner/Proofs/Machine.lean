import Mathlib
import Reckoner.Proofs.Outcomes

namespace Reckoner

-- The nodes of a tree, each after its parts and these from left to right.
def Expr.postorder : Expr → List Expr
  | number token => [number token]
  | binary left operator right => left.postorder ++ right.postorder ++ [binary left operator right]
  | unary operator operand => operand.postorder ++ [unary operator operand]
  | var name => [var name]
  | assign name value => value.postorder ++ [assign name value]

def Value.isBool : Value → Bool
  | bool _ => true
  | _ => false

namespace Machine

open Eval (Failure nameOf)

structure State where
  stack : List Value
  store : Store

-- Why a machine stops before the end of its program.
inductive Halt where
  | failed (f : Failure)
  | underflow

-- The operand that a fault of a binary operator is blamed on.
def blamed (left right : Expr) : Value.Fault → Expr
  | .notBoolean _ .left => left
  | .notBoolean _ .right | .divisionByZero => right

-- What a machine does at a node. Of the parts of a node it sees only where they stand.
def step (scope : ScopeId) : Expr → State → Except Halt State
  | .number token, ⟨stack, store⟩ =>
    match token.payload with
    | some (.int n) => .ok ⟨.int n :: stack, store⟩
    | some (.float x) => .ok ⟨.float x :: stack, store⟩
    | _ => .error (.failed ⟨.notNumber token, token.span⟩)
  | .var name, ⟨stack, store⟩ =>
    match store.find? scope (nameOf name) with
    | some v => .ok ⟨v :: stack, store⟩
    | none => .error (.failed ⟨.undefined (nameOf name), name.span⟩)
  | .unary operator operand, ⟨v :: stack, store⟩ =>
    match UnaryOperator.ofKind? operator.kind with
    | none => .error (.failed ⟨.unknownOperator operator.kind, operator.span⟩)
    | some op =>
      match op.apply v with
      | .ok w => .ok ⟨w :: stack, store⟩
      | .error fault => .error (.failed ⟨.operation fault, operand.span⟩)
  | .binary left operator right, ⟨r :: l :: stack, store⟩ =>
    match BinaryOperator.ofKind? operator.kind with
    | none => .error (.failed ⟨.unknownOperator operator.kind, operator.span⟩)
    | some op =>
      match op.apply l r with
      | .ok w => .ok ⟨w :: stack, store⟩
      | .error fault => .error (.failed ⟨.operation fault, (blamed left right fault).span⟩)
  | .assign name _, ⟨v :: stack, store⟩ => .ok ⟨v :: stack, store.bind scope (nameOf name) v⟩
  | _, _ => .error .underflow

-- Where a run has ended, and why if it was not at the end of the program.
structure Run where
  state : State
  halt : Option Halt

def run (scope : ScopeId) : List Expr → State → Run
  | [], s => ⟨s, none⟩
  | node :: rest, s =>
    match step scope node s with
    | .ok s' => run scope rest s'
    | .error halt => ⟨s, halt⟩

-- The result of a run: the only operand that is left, or the failure that has ended the run.
def Run.result? : Run → Option (Except Failure Value)
  | ⟨⟨[v], _⟩, none⟩ => some (.ok v)
  | ⟨_, some (.failed f)⟩ => some (.error f)
  | _ => none

-- The failures that a node can have in a state, each with what it is blamed on.
inductive Blames (scope : ScopeId) : Expr → State → Failure → Prop
  | notNumber {token s} :
    (∀ n, token.payload ≠ some (.int n)) → (∀ x, token.payload ≠ some (.float x)) →
    Blames scope (.number token) s ⟨.notNumber token, token.span⟩
  | undefined {name s} :
    s.store.find? scope (nameOf name) = none →
    Blames scope (.var name) s ⟨.undefined (nameOf name), name.span⟩
  | unknownPrefix {operator operand v stack store} :
    UnaryOperator.ofKind? operator.kind = none →
    Blames scope (.unary operator operand) ⟨v :: stack, store⟩
      ⟨.unknownOperator operator.kind, operator.span⟩
  | notOperand {operator operand v stack store} :
    operator.kind = .keyword .not → v.isBool = false →
    Blames scope (.unary operator operand) ⟨v :: stack, store⟩
      ⟨.operation (.notBoolean .not .right), operand.span⟩
  | unknownOperator {left operator right l r stack store} :
    BinaryOperator.ofKind? operator.kind = none →
    Blames scope (.binary left operator right) ⟨r :: l :: stack, store⟩
      ⟨.unknownOperator operator.kind, operator.span⟩
  | divisor {left operator right l r stack store} :
    operator.kind = .slash → r.magnitude.isZero →
    Blames scope (.binary left operator right) ⟨r :: l :: stack, store⟩
      ⟨.operation .divisionByZero, right.span⟩
  | leftOperand {k left operator right l r stack store} :
    operator.kind = .keyword k → k = .and ∨ k = .or → l.isBool = false →
    Blames scope (.binary left operator right) ⟨r :: l :: stack, store⟩
      ⟨.operation (.notBoolean k .left), left.span⟩
  | rightOperand {k left operator right l r stack store} :
    operator.kind = .keyword k → k = .and ∨ k = .or → l.isBool → r.isBool = false →
    Blames scope (.binary left operator right) ⟨r :: l :: stack, store⟩
      ⟨.operation (.notBoolean k .right), right.span⟩

section Run

variable {scope : ScopeId} {xs ys : List Expr} {s s' : State} {halt : Halt}

theorem run_append_of_done (h : run scope xs s = ⟨s', none⟩) :
    run scope (xs ++ ys) s = run scope ys s' := by
  induction xs generalizing s <;> simp [run] at h ⊢
  case nil => rw [h]
  case cons node xs ih =>
    split at h
    case h_1 hs => simp [ih h]
    case h_2 => simp at h

theorem run_append_of_halt (h : run scope xs s = ⟨s', some halt⟩) :
    run scope (xs ++ ys) s = ⟨s', some halt⟩ := by
  induction xs generalizing s <;> simp [run] at h ⊢
  case cons node xs ih =>
    split at h
    case h_1 hs => simp [ih h]
    case h_2 hs => simp [h]

-- A run halts at its first node that fails, in the state that the nodes before it have reached.
theorem exists_failing (h : run scope xs s = ⟨s', some halt⟩) :
    ∃ done node rest, xs = done ++ node :: rest ∧ run scope done s = ⟨s', none⟩ ∧
      step scope node s' = .error halt := by
  induction xs generalizing s <;> simp [run] at h
  case cons node xs ih =>
    split at h
    case h_1 hs =>
      have ⟨done, failing, rest, hxs, hdone, hstep⟩ := ih h
      exact ⟨node :: done, failing, rest, by simp [hxs], by simp [run, hs, hdone], hstep⟩
    case h_2 hs =>
      simp at h
      exact ⟨[], node, xs, rfl, by simp [run, h], by simp [← h, hs]⟩

end Run

-- The name that a node assigns to.
def target? : Expr → Option String
  | .assign name _ => some (nameOf name)
  | _ => none

-- Writes to a scope, one after the other.
def write (scope : ScopeId) (writes : List (String × Value)) (store : Store) : Store :=
  writes.foldl (fun store (name, v) => store.bind scope name v) store

section Writes

variable {scope : ScopeId} {node : Expr} {xs : List Expr} {s s' : State}

theorem step_writes (h : step scope node s = .ok s') :
    ∃ writes, writes.map Prod.fst = (target? node).toList ∧
      s'.store = write scope writes s.store := by
  have ⟨stack, store⟩ := s
  cases node
  case assign name value =>
    cases stack <;> simp [step] at h
    case cons v stack =>
      subst h
      exact ⟨[(nameOf name, v)], rfl, rfl⟩
  case number | var =>
    refine ⟨[], rfl, ?_⟩
    simp only [step] at h
    split at h <;> simp at h <;> simp [← h, write]
  case unary operator operand =>
    refine ⟨[], rfl, ?_⟩
    cases stack <;> simp only [step, reduceCtorEq] at h
    case cons v stack =>
      split at h <;> try split at h
      all_goals simp at h
      simp [← h, write]
  case binary left operator right =>
    refine ⟨[], rfl, ?_⟩
    rcases stack with _ | ⟨r, _ | ⟨l, stack⟩⟩ <;> simp only [step, reduceCtorEq] at h
    split at h <;> try split at h
    all_goals simp at h
    simp [← h, write]

-- The store that a run leaves holds exactly the assignments of the nodes that were run.
theorem run_writes (h : run scope xs s = ⟨s', none⟩) :
    ∃ writes, writes.map Prod.fst = xs.filterMap target? ∧
      s'.store = write scope writes s.store := by
  induction xs generalizing s <;> simp [run] at h
  case nil => exact ⟨[], rfl, by simp [h, write]⟩
  case cons node xs ih =>
    split at h <;> try simp at h
    case h_1 hs =>
      have ⟨writes₁, hn₁, hs₁⟩ := step_writes hs
      have ⟨writes₂, hn₂, hs₂⟩ := ih h
      refine ⟨writes₁ ++ writes₂, ?_, by simp [hs₂, hs₁, write]⟩
      cases ht : target? node <;> simp [hn₁, hn₂, ht]

end Writes

section Blames

variable {scope : ScopeId} {node : Expr} {s : State} {f : Failure}

theorem unary_apply_eq_error_iff {op : UnaryOperator} {v : Value} {fault : Value.Fault} :
    op.apply v = .error fault ↔
      op = .not ∧ v.isBool = false ∧ fault = .notBoolean .not .right := by
  cases op <;> simp [UnaryOperator.apply]
  case not => cases v <;> simp [Value.invert, Value.isBool, eq_comm]

theorem binary_apply_eq_error_iff {op : BinaryOperator} {l r : Value} {fault : Value.Fault} :
    op.apply l r = .error fault ↔
      op = .divide ∧ r.magnitude.isZero ∧ fault = .divisionByZero ∨
      ∃ k, (op = .and ∧ k = .and ∨ op = .or ∧ k = .or) ∧
        (l.isBool = false ∧ fault = .notBoolean k .left ∨
          l.isBool ∧ r.isBool = false ∧ fault = .notBoolean k .right) := by
  cases op <;> simp [BinaryOperator.apply]
  case divide =>
    by_cases hzero : r.magnitude.isZero <;> simp [Value.divide, hzero]
    exact eq_comm
  case and | or => cases l <;> cases r <;> simp [Value.logic, Value.isBool, eq_comm]

theorem not_ofKind?_iff {kind : Token.Kind} :
    UnaryOperator.ofKind? kind = some .not ↔ kind = .keyword .not := by
  cases kind <;> try simp [UnaryOperator.ofKind?]
  case keyword k => cases k <;> simp

theorem divide_ofKind?_iff {kind : Token.Kind} :
    BinaryOperator.ofKind? kind = some .divide ↔ kind = .slash := by
  cases kind <;> try simp [BinaryOperator.ofKind?]
  case keyword k => cases k <;> simp

theorem logic_ofKind?_iff {kind : Token.Kind} {op : BinaryOperator} {k : Keyword}
    (h : op = .and ∧ k = .and ∨ op = .or ∧ k = .or) :
    BinaryOperator.ofKind? kind = some op ↔ kind = .keyword k := by
  rcases h with ⟨rfl, rfl⟩ | ⟨rfl, rfl⟩ <;> cases kind <;> try simp [BinaryOperator.ofKind?]
  all_goals case keyword k => cases k <;> simp

theorem exists_logic {k : Keyword} (h : k = .and ∨ k = .or) :
    ∃ op : BinaryOperator, op = .and ∧ k = .and ∨ op = .or ∧ k = .or := by
  rcases h with rfl | rfl <;> simp

-- A node fails exactly in the ways that are listed.
theorem step_fails_iff : step scope node s = .error (.failed f) ↔ Blames scope node s f := by
  constructor
  case mp =>
    intro h
    have ⟨stack, store⟩ := s
    cases node
    case number token =>
      simp only [step] at h
      split at h <;> simp at h
      case h_3 hint hfloat => exact h ▸ .notNumber hint hfloat
    case var name =>
      simp only [step] at h
      split at h <;> simp at h
      case h_2 hfind => exact h ▸ .undefined hfind
    case assign => cases stack <;> simp [step] at h
    case unary operator operand =>
      cases stack <;> simp only [step, reduceCtorEq, Except.error.injEq] at h
      case cons v stack =>
        split at h
        case h_1 hop =>
          simp at h
          exact h ▸ .unknownPrefix hop
        case h_2 hop =>
          split at h <;> simp at h
          case h_2 happly =>
            have ⟨hnot, hbool, hfault⟩ := unary_apply_eq_error_iff.mp happly
            subst hnot hfault
            exact h ▸ .notOperand (not_ofKind?_iff.mp hop) hbool
    case binary left operator right =>
      rcases stack with _ | ⟨r, _ | ⟨l, stack⟩⟩ <;>
        simp only [step, reduceCtorEq, Except.error.injEq] at h
      split at h
      case h_1 hop =>
        simp at h
        exact h ▸ .unknownOperator hop
      case h_2 hop =>
        split at h <;> simp at h
        case h_2 happly =>
          rcases binary_apply_eq_error_iff.mp happly with
            ⟨rfl, hzero, rfl⟩ | ⟨k, hk, ⟨hl, rfl⟩ | ⟨hl, hr, rfl⟩⟩
          · exact h ▸ .divisor (divide_ofKind?_iff.mp hop) hzero
          · exact h ▸ .leftOperand (logic_ofKind?_iff hk |>.mp hop) (hk.imp (·.2) (·.2)) hl
          · exact h ▸ .rightOperand (logic_ofKind?_iff hk |>.mp hop) (hk.imp (·.2) (·.2)) hl hr
  case mpr =>
    intro h
    cases h
    case notNumber token hint hfloat => simp [step]
    case undefined h => simp [step, h]
    case unknownPrefix h => simp [step, h]
    case unknownOperator h => simp [step, h]
    case notOperand hk hv =>
      have happly := unary_apply_eq_error_iff.mpr ⟨rfl, hv, rfl⟩
      simp [step, not_ofKind?_iff.mpr hk, happly]
    case divisor l r _ _ hk hr =>
      have happly : BinaryOperator.divide.apply l r = _ :=
        binary_apply_eq_error_iff.mpr <| .inl ⟨rfl, hr, rfl⟩
      simp [step, divide_ofKind?_iff.mpr hk, happly, blamed]
    case leftOperand k _ _ _ l r _ _ hk hlogic hl =>
      have ⟨op, hop⟩ := exists_logic hlogic
      have happly : op.apply l r = _ :=
        binary_apply_eq_error_iff.mpr <| .inr ⟨k, hop, .inl ⟨hl, rfl⟩⟩
      simp [step, logic_ofKind?_iff hop |>.mpr hk, happly, blamed]
    case rightOperand k _ _ _ l r _ _ hk hlogic hl hr =>
      have ⟨op, hop⟩ := exists_logic hlogic
      have happly : op.apply l r = _ :=
        binary_apply_eq_error_iff.mpr <| .inr ⟨k, hop, .inr ⟨hl, hr, rfl⟩⟩
      simp [step, logic_ofKind?_iff hop |>.mpr hk, happly, blamed]

end Blames

-- A run that comes to what an evaluation comes to, on top of the operands that were there before.
def Agrees (o : Eval.Outcome) (stack : List Value) (r : Run) : Prop :=
  match o.result with
  | .ok v => r = ⟨⟨v :: stack, o.store⟩, none⟩
  | .error f => ∃ stack', r = ⟨⟨stack', o.store⟩, some (.failed f)⟩

section Agrees

variable {scope : ScopeId} {o : Eval.Outcome} {next : Value → Store → Eval.Outcome}
  {stack stack' : List Value} {store : Store} {xs ys : List Expr} {s : State}

theorem Agrees.andThen (h : Agrees o stack (run scope xs s))
    (hnext : ∀ v, Agrees (next v o.store) stack' (run scope ys ⟨v :: stack, o.store⟩)) :
    Agrees (o.andThen next) stack' (run scope (xs ++ ys) s) := by
  cases ho : o.result <;> simp only [Agrees, ho] at h
  case error f =>
    have ⟨top, h⟩ := h
    simp only [Agrees, Eval.Outcome.andThen, ho]
    exact ⟨top, run_append_of_halt h⟩
  case ok v =>
    rw [run_append_of_done h]
    simpa only [Agrees, Eval.Outcome.andThen, ho] using hnext v

theorem agrees_number (token : Token) :
    Agrees (Eval.literal token store) stack (run scope [.number token] ⟨stack, store⟩) := by
  rw [Eval.literal]
  split <;> simp_all [Agrees, Eval.Outcome.value, Eval.Outcome.failure, run, step]

theorem agrees_var (name : Token) :
    Agrees (Eval.lookup scope name store) stack (run scope [.var name] ⟨stack, store⟩) := by
  cases h : store.find? scope (nameOf name) <;>
    simp [Eval.lookup, h, Agrees, Eval.Outcome.after, Eval.Outcome.value, Eval.Outcome.failure, run,
      step]

theorem agrees_unary (operator : Token) (operand : Expr) (v : Value) :
    Agrees (Eval.unary operator operand v store) stack
      (run scope [.unary operator operand] ⟨v :: stack, store⟩) := by
  cases hop : UnaryOperator.ofKind? operator.kind
  case none => simp [Eval.unary, hop, Agrees, Eval.Outcome.failure, run, step]
  case some op =>
    cases happly : op.apply v <;>
      simp [Eval.unary, hop, happly, Agrees, Eval.Outcome.value, Eval.Outcome.failure, run, step]

theorem agrees_binary (left : Expr) (operator : Token) (right : Expr) (l r : Value) :
    Agrees (Eval.binary left operator right l r store) stack
      (run scope [.binary left operator right] ⟨r :: l :: stack, store⟩) := by
  cases hop : BinaryOperator.ofKind? operator.kind
  case none => simp [Eval.binary, hop, Agrees, Eval.Outcome.failure, run, step]
  case some op =>
    cases happly : op.apply l r
    case ok => simp [Eval.binary, hop, happly, Agrees, Eval.Outcome.value, run, step]
    case error fault =>
      rcases fault with _ | ⟨k, _ | _⟩ <;>
        simp [Eval.binary, hop, happly, Agrees, Eval.Outcome.failure, run, step, blamed]

theorem agrees_assign (name : Token) (value : Expr) (v : Value) :
    Agrees (Eval.assign scope name v store) stack
      (run scope [.assign name value] ⟨v :: stack, store⟩) := by
  simp [Eval.assign, Agrees, Eval.Outcome.after, Eval.Outcome.value, run, step]

-- Evaluation and the run of the postorder agree, whatever operands and store they begin with.
theorem agrees_postorder (e : Expr) (stack : List Value) (store : Store) :
    Agrees (e.eval scope store) stack (run scope e.postorder ⟨stack, store⟩) := by
  induction e generalizing stack store <;> simp only [Expr.eval, Expr.postorder]
  case number token => exact agrees_number token
  case var name => exact agrees_var name
  case unary operator operand ih =>
    exact (ih stack store).andThen fun v => agrees_unary operator operand v
  case assign name value ih =>
    exact (ih stack store).andThen fun v => agrees_assign name value v
  case binary left operator right ihl ihr =>
    rw [List.append_assoc]
    refine (ihl stack store).andThen fun l => ?_
    exact (ihr (l :: stack) _).andThen fun r => agrees_binary left operator right l r

end Agrees

end Machine

open Machine

-- Evaluation is the run of the postorder:
-- 1. it ends with the same value or failure, and with the same store
-- 2. if it succeeds, the store holds the assignments of all nodes
-- 3. if it fails, it is for the first node that does and reports its fault, and the store holds the
--    assignments of the nodes before it
-- 4. a node fails only in the ways that are listed, and in these it does
theorem evaluate_runs_postorder (frame : Frame) (e : Expr) (store : Store) :
    let r := run frame.scope e.postorder ⟨[], store⟩
    r.result?.map (fun result => (result.mapError (·.diagnostic frame), r.state.store))
      = some (frame.evaluate e store) ∧
    (∀ v, (frame.evaluate e store).1 = .ok v →
      ∃ writes, writes.map Prod.fst = e.postorder.filterMap target? ∧
        (frame.evaluate e store).2 = write frame.scope writes store) ∧
    (∀ d, (frame.evaluate e store).1 = .error d →
      ∃ done node rest s f, e.postorder = done ++ node :: rest ∧
        run frame.scope done ⟨[], store⟩ = ⟨s, none⟩ ∧
        Blames frame.scope node s f ∧ d = f.diagnostic frame ∧
        (d.kind = f.fault.kind ∧ d.details = f.fault.message ∧ d.span = f.span) ∧
        (frame.evaluate e store).2 = s.store ∧
        ∃ writes, writes.map Prod.fst = done.filterMap target? ∧
          s.store = write frame.scope writes store) ∧
    (∀ node s f, step frame.scope node s = .error (.failed f) ↔ Blames frame.scope node s f) := by
  intro r
  have hagrees : Agrees (e.eval frame.scope store) [] r := agrees_postorder e [] store
  refine ⟨?_, ?_, ?_, fun _ _ _ => step_fails_iff⟩
  all_goals
    simp only [Frame.evaluate_eq, Eval.Outcome.reported]
    cases ho : (e.eval frame.scope store).result <;> simp only [Agrees, ho] at hagrees
  case refine_1.ok v => simp [hagrees, Run.result?]
  case refine_1.error f =>
    obtain ⟨stack, hr⟩ := hagrees
    simp [hr, Run.result?]
  case refine_2.ok v =>
    intro _ _
    exact run_writes hagrees
  case refine_3.error f =>
    intro d hd
    simp only [Except.mapError, Except.error.injEq] at hd
    subst hd
    obtain ⟨stack, hr⟩ := hagrees
    obtain ⟨done, node, rest, hxs, hdone, hstep⟩ := exists_failing hr
    exact ⟨done, node, rest, _, f, hxs, hdone, step_fails_iff.mp hstep, rfl,
      ⟨rfl, rfl, rfl⟩, rfl, run_writes hdone⟩
  all_goals simp [Except.mapError]

-- In `(VAR a = 2) AND b` the assignment is carried out before `b` turns out to be undefined.
theorem evaluate_runs_postorder_undefined :
    let a : Token := ⟨.identifier, some (.name "a"), default⟩
    let two : Token := ⟨.int, some (.int 2), default⟩
    let b : Token := ⟨.identifier, some (.name "b"), default⟩
    let tree := Expr.binary (.assign a (.number two)) ⟨.keyword .and, none, default⟩ (.var b)
    let frame := Frame.program 0
    let store : Store := ⟨[.empty]⟩
    (frame.evaluate tree store).1
        = .error (Eval.Failure.diagnostic frame ⟨.undefined "b", b.span⟩) ∧
      (frame.evaluate tree store).2 = ⟨[⟨none, [("a", .int 2)]⟩]⟩ ∧
      ∃ done node rest s f, tree.postorder = done ++ node :: rest ∧
        run 0 done ⟨[], store⟩ = ⟨s, none⟩ ∧ Blames 0 node s f ∧
        (frame.evaluate tree store).2 = s.store := by
  intro a two b tree frame store
  have hfail : (frame.evaluate tree store).1
      = .error (Eval.Failure.diagnostic frame ⟨.undefined "b", b.span⟩) := by
    have hresult : (tree.eval 0 store).result = .error ⟨.undefined "b", b.span⟩ := by
      decide +kernel
    rw [Frame.evaluate_eq]
    exact congrArg (Except.mapError (·.diagnostic frame)) hresult
  have ⟨_, _, herror, _⟩ := evaluate_runs_postorder frame tree store
  have ⟨done, node, rest, s, f, htree, hdone, hblames, _, _, hstore, _⟩ := herror _ hfail
  exact ⟨hfail, by decide +kernel, done, node, rest, s, f, htree, hdone, hblames, hstore⟩

end Reckoner
