import Reckoner.Position

namespace Reckoner

-- The end need not come after the start.
@[ext]
structure Span where
  start : Position
  stop : Position
  deriving DecidableEq, Inhabited

namespace Span

def single (p : Position) : Span :=
  ⟨p, p.advance⟩

def covering (p : Position) (length : Nat) : Span :=
  ⟨p, p.forward length⟩

def through (a b : Span) : Span :=
  ⟨a.start, b.stop⟩

def source (s : Span) : Source :=
  s.start.source

-- A span that ends before it starts takes no characters.
def length (s : Span) : Nat :=
  s.stop.index - s.start.index

def range (s : Span) : Nat × Nat :=
  (s.start.index, s.start.index + s.length)

def text (s : Span) : List Char :=
  (s.source.text.drop s.start.index).take s.length

end Span

end Reckoner
