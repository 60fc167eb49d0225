import Reckoner.Expr.Basic
import Reckoner.Diagnostic.Basic

namespace Reckoner

namespace Parse

inductive Expected where
  | expression
  | comparison
  | operand
  | identifier
  | assign
  | closeParen
  | continuation
  deriving DecidableEq

def Expected.message : Expected → String
  | expression => "Expected 'VAR', INT, FLOAT, IDENTIFIER, '+', '-', '(' or 'NOT'"
  | comparison => "Expected INT, FLOAT, IDENTIFIER, '+', '-', '(' or 'NOT'"
  | operand => "Expected INT, FLOAT, IDENTIFIER, '+', '-' or '('"
  | identifier => "Expected identifier"
  | assign => "Expected '='"
  | closeParen => "Expected ')'"
  | continuation =>
    "Expected '+', '-', '*', '/', '^', '==', '!=', '<', '>', '<=', '>=', 'AND' or 'OR'"

-- The tokens from where parsing stopped on, and what would have fitted there.
structure Stop where
  rest : List Token
  expected : Expected
  deriving DecidableEq

abbrev Front (α : Type) (ts : List Token) : Type :=
  Except Stop (α × { rest : List Token // rest.length < ts.length })

def expect (kind : Token.Kind) (expected : Expected) : (ts : List Token) → Front Token ts
  | [] => .error ⟨[], expected⟩
  | t :: rest => if t.kind = kind then .ok (t, ⟨rest, by simp⟩) else .error ⟨t :: rest, expected⟩

-- A rule that stops before its first token says itself what it could have begun with.
def orExpected {ts : List Token} (expected : Expected) : Front Expr ts → Front Expr ts
  | .ok result => .ok result
  | .error stop => .error (if stop.rest.length = ts.length then { stop with expected } else stop)

-- The binary operators by how tightly they bind, loosest first.
inductive Level where
  | logical
  | relational
  | additive
  | multiplicative
  | power
  deriving DecidableEq

namespace Level

def joins : Level → Token.Kind → Bool
  | logical, .keyword .and | logical, .keyword .or => true
  | relational, .equal | relational, .notEqual | relational, .less | relational, .lessEqual => true
  | relational, .greater | relational, .greaterEqual => true
  | additive, .plus | additive, .minus => true
  | multiplicative, .star | multiplicative, .slash => true
  | power, .caret => true
  | _, _ => false

-- How many rules lie below the operand of a level. Every rule that calls another on the same
-- tokens goes down in this order, which has fewer than sixteen steps, so parsing ends because
-- sixteen times the number of tokens plus the step goes down with every call.
@[simp]
def depth : Level → Nat
  | power => 1
  | multiplicative => 4
  | additive => 6
  | relational => 8
  | logical => 11

theorem depth_le (level : Level) : level.depth ≤ 11 := by
  cases level <;> decide

end Level

mutual

def expression (ts : List Token) : Front Expr ts :=
  match expect (.keyword .var) .expression ts with
  | .ok (_, ⟨ts₁, h₁⟩) =>
    match expect .identifier .identifier ts₁ with
    | .error stop => .error stop
    | .ok (name, ⟨ts₂, h₂⟩) =>
      match expect .assign .assign ts₂ with
      | .error stop => .error stop
      | .ok (_, ⟨ts₃, h₃⟩) =>
        match expression ts₃ with
        | .error stop => .error stop
        | .ok (value, ⟨ts₄, h₄⟩) => .ok (.assign name value, ⟨ts₄, by omega⟩)
  | .error _ => orExpected .expression (joined .logical ts)
termination_by 16 * ts.length + 13

def comparison (ts : List Token) : Front Expr ts :=
  match expect (.keyword .not) .comparison ts with
  | .ok (operator, ⟨ts₁, h₁⟩) =>
    match comparison ts₁ with
    | .error stop => .error stop
    | .ok (operand, ⟨ts₂, h₂⟩) => .ok (.unary operator operand, ⟨ts₂, by omega⟩)
  | .error _ => orExpected .comparison (joined .relational ts)
termination_by 16 * ts.length + 10

def factor (ts : List Token) : Front Expr ts :=
  match ts with
  | [] => joined .power []
  | t :: rest =>
    if t.kind = .plus ∨ t.kind = .minus then
      match factor rest with
      | .error stop => .error stop
      | .ok (operand, ⟨ts₁, h₁⟩) =>
        .ok (.unary t operand, ⟨ts₁, by simp only [List.length_cons]; omega⟩)
    else joined .power (t :: rest)
termination_by 16 * ts.length + 3

def atom (ts : List Token) : Front Expr ts :=
  match ts with
  | [] => .error ⟨[], .operand⟩
  | t :: rest =>
    match t.kind with
    | .int | .float => .ok (.number t, ⟨rest, by simp⟩)
    | .identifier => .ok (.var t, ⟨rest, by simp⟩)
    | .openParen =>
      match expression rest with
      | .error stop => .error stop
      | .ok (inner, ⟨ts₁, h₁⟩) =>
        match expect .closeParen .closeParen ts₁ with
        | .error stop => .error stop
        | .ok (_, ⟨ts₂, h₂⟩) => .ok (inner, ⟨ts₂, by simp only [List.length_cons]; omega⟩)
    | _ => .error ⟨t :: rest, .operand⟩
termination_by 16 * ts.length

def operand (level : Level) (ts : List Token) : Front Expr ts :=
  match level with
  | .logical => comparison ts
  | .relational => joined .additive ts
  | .additive => joined .multiplicative ts
  | .multiplicative => factor ts
  | .power => atom ts
termination_by 16 * ts.length + level.depth

-- An exponent may have a sign, which makes powers group to the right.
def rightOperand (level : Level) (ts : List Token) : Front Expr ts :=
  match level with
  | .power => factor ts
  | level => operand level ts
termination_by 16 * ts.length + level.depth + 3

def joined (level : Level) (ts : List Token) : Front Expr ts :=
  match operand level ts with
  | .error stop => .error stop
  | .ok (left, ⟨ts₁, h₁⟩) =>
    match continued level left ts₁ with
    | .error stop => .error stop
    | .ok (whole, ⟨ts₂, h₂⟩) => .ok (whole, ⟨ts₂, by omega⟩)
termination_by 16 * ts.length + level.depth + 1

def continued (level : Level) (left : Expr) (ts : List Token) :
    Except Stop (Expr × { rest : List Token // rest.length ≤ ts.length }) :=
  match ts with
  | [] => .ok (left, ⟨[], Nat.le_refl _⟩)
  | t :: rest =>
    if level.joins t.kind then
      match rightOperand level rest with
      | .error stop => .error stop
      | .ok (right, ⟨ts₁, h₁⟩) =>
        match continued level (.binary left t right) ts₁ with
        | .error stop => .error stop
        | .ok (whole, ⟨ts₂, h₂⟩) => .ok (whole, ⟨ts₂, by simp only [List.length_cons]; omega⟩)
    else .ok (left, ⟨t :: rest, Nat.le_refl _⟩)
termination_by 16 * ts.length
decreasing_by
  all_goals
    have := level.depth_le
    simp only [List.length_cons]
    omega

end

def whole (ts : List Token) : Except Stop Expr :=
  match expression ts with
  | .error stop => .error stop
  | .ok (e, ⟨[], _⟩) => .ok e
  | .ok (_, ⟨t :: rest, _⟩) => .error ⟨t :: rest, .continuation⟩

def body (ts : List Token) : List Token :=
  ts.takeWhile (·.kind ≠ .stop)

-- A list that does not end the text is taken to end where its last token does.
def ending (ts : List Token) : Token :=
  match ts.find? (·.kind = .stop), ts.getLast? with
  | some stop, _ => stop
  | none, some last => .stopAt last.span.stop
  | none, none => .stopAt (.start ⟨"<empty>", []⟩)

def diagnostic (ending : Token) (stop : Stop) : Diagnostic :=
  ⟨.invalidSyntax, stop.expected.message, (stop.rest.headD ending).span, []⟩

end Parse

def parse (ts : List Token) : Except Diagnostic Expr :=
  (Parse.whole (Parse.body ts)).mapError (Parse.diagnostic (Parse.ending ts))

end Reckoner
