import Reckoner.Proofs.Effects

namespace Reckoner

inductive Value.Kind where
  | int
  | float
  | bool
  deriving DecidableEq

def Value.kind : Value → Value.Kind
  | int _ => .int
  | float _ => .float
  | bool _ => .bool

namespace Kinds

open Value (Kind)
open Eval (Failure nameOf)

-- What is known of the variables. A name without a kind is not bound.
abbrev Known := String → Option Kind

def known (scope : ScopeId) (store : Store) : Known :=
  fun name => (store.find? scope name).map Value.kind

-- The kind of what arithmetic makes of two operands. A truth value counts as an integer.
def arithmetic : Kind → Kind → Kind
  | .float, _ | _, .float => .float
  | _, _ => .int

def negation : Kind → Kind
  | .float => .float
  | _ => .int

-- A logical operator takes truth values only. Of two wrong operands the left one is blamed.
def logic (operator : Keyword) (left right : Expr) : Kind → Kind → Except Failure Kind
  | .bool, .bool => .ok .bool
  | .bool, _ => .error ⟨.operation (.notBoolean operator .right), right.span⟩
  | _, _ => .error ⟨.operation (.notBoolean operator .left), left.span⟩

def number (token : Token) : Except Failure Kind :=
  match token.payload with
  | some (.int _) => .ok .int
  | some (.float _) => .ok .float
  | _ => .error ⟨.notNumber token, token.span⟩

def binary (left : Expr) (operator : Token) (right : Expr) (l r : Kind) : Except Failure Kind :=
  match operator.kind with
  | .plus | .minus | .star | .slash | .caret => .ok (arithmetic l r)
  | .equal | .notEqual | .less | .lessEqual | .greater | .greaterEqual => .ok .bool
  | .keyword .and => logic .and left right l r
  | .keyword .or => logic .or left right l r
  | other => .error ⟨.unknownOperator other, operator.span⟩

def unary (operator : Token) (operand : Expr) (k : Kind) : Except Failure Kind :=
  match operator.kind with
  | .plus => .ok k
  | .minus => .ok (negation k)
  | .keyword .not =>
    if k = .bool then .ok .bool
    else .error ⟨.operation (.notBoolean .not .right), operand.span⟩
  | other => .error ⟨.unknownOperator other, operator.span⟩

def var (name : Token) (known : Known) : Except Failure Kind :=
  match known (nameOf name) with
  | some k => .ok k
  | none => .error ⟨.undefined (nameOf name), name.span⟩

-- The kind of a tree, and what is known of the variables behind it.
def ofExpr : Expr → Known → Except Failure (Kind × Known)
  | .number token, known => (number token).map (·, known)
  | .binary left operator right, known =>
    (ofExpr left known).bind fun (l, known) =>
      (ofExpr right known).bind fun (r, known) =>
        (binary left operator right l r).map (·, known)
  | .unary operator operand, known =>
    (ofExpr operand known).bind fun (k, known) => (unary operator operand k).map (·, known)
  | .var name, known => (var name known).map (·, known)
  | .assign name value, known =>
    (ofExpr value known).bind fun (k, known) =>
      .ok (k, Function.update known (nameOf name) (some k))

-- An outcome that is as its kind says, unless something was divided by zero.
def Agrees (scope : ScopeId) (o : Eval.Outcome) (told : Except Failure (Kind × Known)) : Prop :=
  match o.result with
  | .ok v => told = .ok (v.kind, known scope o.store)
  | .error f => f.fault = .operation .divisionByZero ∨ told = .error f

section Agrees

variable {scope : ScopeId} {store : Store} {o : Eval.Outcome}
  {told : Except Failure (Kind × Known)} {next : Value → Store → Eval.Outcome}
  {nextTold : Kind × Known → Except Failure (Kind × Known)} {v l r : Value}

theorem Agrees.andThen (h : Agrees scope o told)
    (hnext : ∀ v, o.result = .ok v →
      Agrees scope (next v o.store) (nextTold (v.kind, known scope o.store))) :
    Agrees scope (o.andThen next) (told.bind nextTold) := by
  cases ho : o.result <;> simp only [Agrees, ho] at h
  case error f =>
    simp only [Agrees, Eval.Outcome.andThen, ho]
    exact h.imp_right fun h => by rw [h]; rfl
  case ok v =>
    rw [h]
    simpa only [Agrees, Eval.Outcome.andThen, ho, Except.bind] using hnext v ho

theorem agrees_value {k : Kind} (h : v.kind = k) :
    Agrees scope (.value v store) ((Except.ok k).map (·, known scope store)) := by
  rw [← h]
  rfl

theorem agrees_failure (fault : Eval.Fault) (span : Span) :
    Agrees scope (.failure fault span store)
      ((Except.error ⟨fault, span⟩ : Except Failure Kind).map (·, known scope store)) :=
  .inr rfl

theorem agrees_number (token : Token) :
    Agrees scope (Eval.literal token store) ((number token).map (·, known scope store)) := by
  rw [Eval.literal, number]
  rcases token.payload with _ | (_ | _ | _)
  case some.int | some.float => exact agrees_value rfl
  all_goals exact agrees_failure ..

theorem agrees_var (name : Token) : Agrees scope (Eval.lookup scope name store)
    ((var name (known scope store)).map (·, known scope store)) := by
  rw [Eval.lookup, var, known]
  cases store.find? scope (nameOf name)
  case none => exact agrees_failure ..
  case some => exact agrees_value rfl

theorem agrees_unary (operator : Token) (operand : Expr) :
    Agrees scope (Eval.unary operator operand v store)
      ((unary operator operand v.kind).map (·, known scope store)) := by
  rw [Eval.unary, unary]
  cases operator.kind
  case plus => exact agrees_value rfl
  case minus => cases v <;> exact agrees_value rfl
  case keyword k =>
    cases k
    case not =>
      cases v
      case bool => exact agrees_value rfl
      all_goals exact agrees_failure ..
    all_goals exact agrees_failure ..
  all_goals exact agrees_failure ..

theorem kind_arithmetic (op : Binary64 → Binary64 → Binary64) :
    (Value.arithmetic op l r).kind = arithmetic l.kind r.kind := by
  cases l <;> cases r <;> rfl

theorem agrees_divide (left : Expr) (operator : Token) (right : Expr) (h : operator.kind = .slash) :
    Agrees scope (Eval.binary left operator right l r store)
      ((binary left operator right l.kind r.kind).map (·, known scope store)) := by
  simp only [Eval.binary, binary, h, BinaryOperator.ofKind?, BinaryOperator.apply, Value.divide]
  by_cases hzero : r.magnitude.isZero
  case pos =>
    rw [if_pos hzero]
    exact .inl rfl
  case neg =>
    rw [if_neg hzero]
    exact agrees_value (kind_arithmetic _)

theorem agrees_logic (left : Expr) (operator : Token) (right : Expr) {k : Keyword}
    (h : operator.kind = .keyword k) :
    Agrees scope (Eval.binary left operator right l r store)
      ((binary left operator right l.kind r.kind).map (·, known scope store)) := by
  rw [Eval.binary, binary, h]
  cases k
  case and | or => cases l <;> cases r <;> first | exact agrees_value rfl | exact agrees_failure ..
  all_goals exact agrees_failure ..

theorem agrees_binary (left : Expr) (operator : Token) (right : Expr) :
    Agrees scope (Eval.binary left operator right l r store)
      ((binary left operator right l.kind r.kind).map (·, known scope store)) := by
  cases h : operator.kind
  case slash => exact agrees_divide left operator right h
  case keyword => exact agrees_logic left operator right h
  all_goals rw [Eval.binary, binary, h]
  case plus | minus | star | caret => exact agrees_value (kind_arithmetic _)
  case equal | notEqual | less | lessEqual | greater | greaterEqual => exact agrees_value rfl
  all_goals exact agrees_failure ..

theorem known_bind {name : String} (h : scope < store.scopes.length) :
    known scope (store.bind scope name v)
      = Function.update (known scope store) name (some v.kind) := by
  funext other
  by_cases hname : other = name <;> simp [known, Store.find?_bind h, hname]

theorem agrees_assign (name : Token) (h : scope < store.scopes.length) :
    Agrees scope (Eval.assign scope name v store)
      (.ok (v.kind, Function.update (known scope store) (nameOf name) (some v.kind))) := by
  rw [← known_bind h]
  rfl

-- The kinds tell the outcome, node by node, as long as they are those of the store.
theorem agrees_eval (e : Expr) (h : scope < store.scopes.length) :
    Agrees scope (e.eval scope store) (ofExpr e (known scope store)) := by
  induction e generalizing store <;> rw [Expr.eval, ofExpr]
  case number token => exact agrees_number token
  case var name => exact agrees_var name
  case unary operator operand ih =>
    exact (ih h).andThen fun v _ => agrees_unary operator operand
  case assign name value ih =>
    refine (ih h).andThen fun v _ => agrees_assign name ?_
    rwa [Expr.length_eval]
  case binary left operator right ihl ihr =>
    have hleft : scope < (left.eval scope store).store.scopes.length := by
      rwa [Expr.length_eval]
    refine (ihl h).andThen fun l _ => (ihr hleft).andThen fun r _ => ?_
    exact agrees_binary left operator right

end Agrees

end Kinds

open Kinds

-- An evaluation that divides nothing by zero comes to what the kinds tell:
-- 1. a value of a kind exactly if they tell that kind
-- 2. a failure of a kind, with its text and its span, exactly if they tell that failure
-- 3. and where they tell no failure, they tell the kinds of all variables behind it
theorem evaluate_as_kinds_tell {frame : Frame} {e : Expr} {store : Store}
    (hscope : frame.scope < store.scopes.length)
    (hzero : ∀ d, (frame.evaluate e store).1 = .error d → d.kind ≠ .divisionByZero) :
    let told := ofExpr e (known frame.scope store)
    (∀ k, (∃ v, (frame.evaluate e store).1 = .ok v ∧ v.kind = k) ↔
      ∃ behind, told = .ok (k, behind)) ∧
    (∀ kind details span,
      (∃ d, (frame.evaluate e store).1 = .error d ∧
        d.kind = kind ∧ d.details = details ∧ d.span = span) ↔
      ∃ f, told = .error f ∧
        f.fault.kind = kind ∧ f.fault.message = details ∧ f.span = span) ∧
    (∀ k behind, told = .ok (k, behind) →
      behind = known frame.scope (frame.evaluate e store).2) := by
  intro told
  have hagrees : Agrees frame.scope (e.eval frame.scope store) told := agrees_eval e hscope
  simp only [Frame.evaluate_eq, Eval.Outcome.reported] at hzero ⊢
  cases ho : (e.eval frame.scope store).result <;>
    simp only [Agrees, ho, Except.mapError] at hagrees hzero ⊢
  case ok v => simp [hagrees, eq_comm]
  case error f =>
    have htold := hagrees.resolve_left fun h => hzero _ rfl (by
      rw [Eval.Failure.diagnostic, h]
      rfl)
    simp [htold, Eval.Failure.diagnostic, Frame.blame]

-- In `(VAR a = 2) == 2 AND a` the outer binding of `a` to a truth value is hidden when it is read.
theorem evaluate_as_kinds_tell_hidden :
    let a : Token := ⟨.identifier, some (.name "a"), .single (.start ⟨"f", []⟩)⟩
    let two : Token := ⟨.int, some (.int 2), default⟩
    let left := Expr.binary (.assign a (.number two)) ⟨.equal, none, default⟩ (.number two)
    let tree := Expr.binary left ⟨.keyword .and, none, default⟩ (.var a)
    let store : Store := ⟨[⟨none, [("a", .bool true)]⟩, .inside 0]⟩
    let frame := Frame.entered "f" 1 (.program 0) default
    frame.scope < store.scopes.length ∧
      (∀ d, (frame.evaluate tree store).1 = .error d → d.kind ≠ .divisionByZero) ∧
      ∃ d, (frame.evaluate tree store).1 = .error d ∧ d.kind = .illegalOperation ∧
        d.details = "'AND' expects a boolean operand" ∧ d.span = a.span := by
  intro a two left tree store frame
  have hscope : frame.scope < store.scopes.length := by decide
  have hkind : ((frame.evaluate tree store).1.mapError Diagnostic.kind).map (fun _ => ())
      = .error .illegalOperation := by decide +kernel
  have hzero : ∀ d, (frame.evaluate tree store).1 = .error d → d.kind ≠ .divisionByZero := by
    intro d hd
    simp only [hd, Except.mapError, Except.map, Except.error.injEq] at hkind
    exact hkind ▸ by decide
  obtain ⟨_, hfails, _⟩ := evaluate_as_kinds_tell hscope hzero
  have htold : ofExpr tree (known frame.scope store)
      = .error ⟨.operation (.notBoolean .and .right), a.span⟩ := by
    rfl
  exact ⟨hscope, hzero, (hfails _ _ _).mpr ⟨_, htold, rfl, rfl, rfl⟩⟩

end Reckoner
