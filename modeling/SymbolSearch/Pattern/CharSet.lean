import SymbolSearch.Text.Property

/-!
# Sets of characters

A set is the list of its ranges in increasing order, where no two ranges touch. Joining,
meeting and removing walk along both lists at once. Surrogate code points are no
characters, so the steps to a neighbouring character pass over them.
-/

set_option autoImplicit false

namespace SymbolSearch.Pattern

open SymbolSearch.Text

/-- A set of characters: the first and last code points of its ranges, in increasing
order. -/
structure CharSet where
  ranges : List (Nat × Nat)
  deriving DecidableEq

namespace CharSet

/-- The greatest code point. -/
def lastCodePoint : Nat := 0x10ffff

/-- The character after `n`. -/
def next (n : Nat) : Nat := if n = 0xd7ff then 0xe000 else n + 1

/-- The character before `n`. -/
def previous (n : Nat) : Nat := if n = 0xe000 then 0xd7ff else n - 1

/-- The set contains a character. -/
def contains (s : CharSet) (c : Char) : Bool := inRanges c.toNat s.ranges

/-! ## Building -/

/-- A range grown by those behind it that it reaches, and what is left of them. -/
def grown : Nat × Nat → List (Nat × Nat) → List (Nat × Nat)
  | range, [] => [range]
  | (lo, hi), (lo', hi') :: rest =>
      if lo' ≤ hi + 1 then grown (lo, max hi hi') rest else (lo, hi) :: grown (lo', hi') rest

/-- Ranges in the order of their beginnings, with those that touch joined into one. -/
def joined : List (Nat × Nat) → List (Nat × Nat)
  | [] => []
  | range :: rest => grown range rest

/-- The first range begins no later than the second one. -/
def beginsBefore (r q : Nat × Nat) : Bool := r.1 ≤ q.1

/-- The union of ranges in any order. -/
def ofRanges (rs : List (Nat × Nat)) : CharSet := ⟨joined (rs.mergeSort beginsBefore)⟩

/-- The empty set. -/
def empty : CharSet := ⟨[]⟩

/-- All characters from `lo` to `hi`. -/
def range (lo hi : Char) : CharSet := ⟨[(lo.toNat, hi.toNat)]⟩

/-- The set of one character. -/
def single (c : Char) : CharSet := range c c

/-- The only member of a set that has just one. -/
def only? (s : CharSet) : Option Char :=
  match s.ranges with
  | [(lo, hi)] => if lo = hi then some (Char.ofNat lo) else none
  | _ => none

/-! ## Operations -/

/-- Characters in either set. -/
def union (s t : CharSet) : CharSet := ⟨joined (List.merge s.ranges t.ranges beginsBefore)⟩

/-- The common parts of two lists of ranges. -/
def common : List (Nat × Nat) → List (Nat × Nat) → List (Nat × Nat)
  | (lo, hi) :: rs, (lo', hi') :: qs =>
      let rest := if hi < hi' then common rs ((lo', hi') :: qs) else common ((lo, hi) :: rs) qs
      if max lo lo' ≤ min hi hi' then (max lo lo', min hi hi') :: rest else rest
  | _, _ => []
termination_by rs qs => rs.length + qs.length

/-- Characters in both sets. -/
def inter (s t : CharSet) : CharSet := ⟨common s.ranges t.ranges⟩

/-- The parts of the first ranges that lie outside the second ones. -/
def remaining : List (Nat × Nat) → List (Nat × Nat) → List (Nat × Nat)
  | [], _ => []
  | rs, [] => rs
  | (lo, hi) :: rs, (lo', hi') :: qs =>
      if hi' < lo then remaining ((lo, hi) :: rs) qs
      else if hi < lo' then (lo, hi) :: remaining rs ((lo', hi') :: qs)
      else
        let rest :=
          if hi' < hi then remaining ((next hi', hi) :: rs) qs
          else remaining rs ((lo', hi') :: qs)
        if lo < lo' then (lo, previous lo') :: rest else rest
termination_by rs qs => rs.length + qs.length

/-- Characters in the first set only. -/
def diff (s t : CharSet) : CharSet := ⟨remaining s.ranges t.ranges⟩

/-- Characters in exactly one of the sets. -/
def symmDiff (s t : CharSet) : CharSet := (s.union t).diff (s.inter t)

/-- The range with the given ends, in either order. -/
def ordered (m n : Nat) : Nat × Nat := (min m n, max m n)

/-- The gaps between ranges and after the last of them, from behind `n` on. -/
def gapsAfter : Nat → List (Nat × Nat) → List (Nat × Nat)
  | n, [] => if n < lastCodePoint then [(next n, lastCodePoint)] else []
  | n, (lo, hi) :: rest => ordered (next n) (previous lo) :: gapsAfter hi rest

/-- Characters outside the set. -/
def complement (s : CharSet) : CharSet :=
  match s.ranges with
  | [] => ⟨[(0, lastCodePoint)]⟩
  | (lo, hi) :: rest =>
      ⟨(if 0 < lo then [(0, previous lo)] else []) ++ gapsAfter hi rest⟩

/-- Complement, if asked for. -/
def complementIf (negated : Bool) (s : CharSet) : CharSet := if negated then s.complement else s

end CharSet

end SymbolSearch.Pattern
