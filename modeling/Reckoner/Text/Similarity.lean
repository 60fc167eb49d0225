import Reckoner.Binary64.Arithmetic

namespace Reckoner.Text

-- Each letter takes the first place within reach that matches it, and no place is taken twice.
def matchedPlaces (a b : List Char) (reach : Nat) : List Nat :=
  a.zipIdx.foldl
    (fun taken (c, i) =>
      let place := (List.range b.length).find? fun j =>
        i ≤ j + reach && j ≤ i + reach && b[j]? == some c && !taken.contains j
      taken ++ place.toList)
    []

def similarity (a b : List Char) : Binary64 :=
  let places := matchedPlaces a b (max a.length b.length / 2 - 1)
  let inOrder := (List.range b.length).filter places.contains
  let misplaced := ((places.zip inOrder).filter fun (i, j) => b[i]? ≠ b[j]?).length / 2
  let ratio (m n : Nat) : Binary64 := .div (.ofInt m) (.ofInt n)
  let found := places.length
  if a.isEmpty && b.isEmpty then .ofInt 1
  else if found = 0 then .zero
  else
    .div (.add (.add (ratio found a.length) (ratio found b.length))
      (ratio (found - misplaced) found)) (.ofInt 3)

end Reckoner.Text
