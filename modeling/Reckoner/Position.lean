import Reckoner.Source

namespace Reckoner

-- Index, line and column are zero-based; the index may lie past the text.
@[ext]
structure Position where
  source : Source
  index : Nat
  line : Nat
  column : Nat
  deriving DecidableEq, Inhabited

namespace Position

def start (s : Source) : Position :=
  ⟨s, 0, 0, 0⟩

def char? (p : Position) : Option Char :=
  p.source.charAt? p.index

def advance (p : Position) : Position :=
  if p.source.charAt? (p.index + 1) = some '\n' then
    { p with index := p.index + 1, line := p.line + 1, column := 0 }
  else
    { p with index := p.index + 1, column := p.column + 1 }

@[simp]
theorem advance_index (p : Position) : p.advance.index = p.index + 1 := by
  unfold advance; split <;> rfl

@[simp]
theorem advance_source (p : Position) : p.advance.source = p.source := by
  unfold advance; split <;> rfl

def forward (p : Position) : Nat → Position
  | 0 => p
  | n + 1 => (p.forward n).advance

@[simp]
theorem forward_index (p : Position) (n : Nat) : (p.forward n).index = p.index + n := by
  induction n with
  | zero => rfl
  | succ n ih => simp only [forward, advance_index, ih]; omega

@[simp]
theorem forward_source (p : Position) (n : Nat) : (p.forward n).source = p.source := by
  induction n with
  | zero => rfl
  | succ n ih => simp only [forward, advance_source, ih]

def after (s : Source) (steps : Nat) : Position :=
  (start s).forward steps

def shownLine (p : Position) : Nat :=
  p.line + 1

def text (p : Position) : String :=
  p.source.name ++ ":" ++ toString p.shownLine ++ ":" ++ toString p.column
    ++ " (#" ++ toString p.index ++ ")"

end Position

end Reckoner
