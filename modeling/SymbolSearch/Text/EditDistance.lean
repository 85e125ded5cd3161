/-!
# Edit distance

`editDistance a b` is computed one row at a time: the row of a part of `a` holds
its distances to every initial part of `b`, shortest first.
-/

set_option autoImplicit false

namespace SymbolSearch.Text

/-- Continue the row of a part of the first text that ends in `c`. `left` is the
entry before, `above` the remaining entries of the previous row beginning with the
one diagonally before, and the last argument the remaining characters of the second
text. -/
def nextEntries (c : Char) : Nat → List Nat → List Char → List Nat
  | left, diagonal :: up :: above, d :: ds =>
      let entry := min (min (diagonal + if c = d then 0 else 1) (up + 1)) (left + 1)
      entry :: nextEntries c entry (up :: above) ds
  | _, _, _ => []

/-- The row after `row` when the first text grows by `c`; `n` is the length it grows to. -/
def nextRow (b : List Char) (row : List Nat) (n : Nat) (c : Char) : List Nat :=
  n :: nextEntries c n row b

/-- The last row for the first text `as`, beginning with `row` for a part of length `n`. -/
def lastRow (b : List Char) : List Nat → Nat → List Char → List Nat
  | row, _, [] => row
  | row, n, c :: as => lastRow b (nextRow b row (n + 1) c) (n + 1) as

/-- The least number of insertions, deletions and substitutions of single characters
that turn `a` into `b`. -/
def editDistance (a b : List Char) : Nat :=
  (lastRow b (List.range (b.length + 1)) 0 a).getLastD 0

end SymbolSearch.Text
