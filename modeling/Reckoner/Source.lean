namespace Reckoner

@[ext]
structure Source where
  name : String
  text : List Char
  deriving DecidableEq, Inhabited

namespace Source

def ofString (name text : String) : Source :=
  ⟨name, text.toList⟩

def length (s : Source) : Nat :=
  s.text.length

def charAt? (s : Source) (index : Nat) : Option Char :=
  s.text[index]?

def lines (s : Source) : List (List Char) :=
  s.text.splitOn '\n'

def lineText (s : Source) (line : Nat) : List Char :=
  s.lines[line]?.getD []

-- An index past the end of the text counts as the end.
def lineOf (s : Source) (index : Nat) : Nat :=
  (s.text.take index).count '\n'

-- What stands before the index, less the run of characters after the last newline there.
def lineStart (s : Source) (index : Nat) : Nat :=
  let before := s.text.take index
  before.length - (before.reverse.takeWhile (· ≠ '\n')).length

theorem lineStart_le (s : Source) (index : Nat) : s.lineStart index ≤ min index s.length := by
  simp only [lineStart, length, List.length_take]
  omega

end Source

end Reckoner
