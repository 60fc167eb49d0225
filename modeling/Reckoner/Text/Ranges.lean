namespace Reckoner.Text

-- The ranges stand in increasing order, so the search ends at the first beyond the character.
def inRanges : List (Nat × Nat) → Char → Bool
  | [], _ => false
  | (first, last) :: rest, c =>
    if c.toNat < first then false
    else if c.toNat ≤ last then true
    else inRanges rest c

end Reckoner.Text
