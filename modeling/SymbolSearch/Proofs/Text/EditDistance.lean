import SymbolSearch.Query
import Mathlib.Order.Bounds.Basic
import Mathlib.Order.MinMax

/-!
# The least number of edits

An edit puts in, takes out or replaces one character (`Edit`). `distance` is the distance of two
texts by recursion on both, from their first characters on. A single edit changes it by at most one
(`distance_le_of_edit`), so no shorter row of edits does (`distance_le_of_edits`), and there is one
that needs no more (`edits_distance`).

The rows that `editDistance` computes hold the distances of reversed initial parts
(`rowFrom`, `lastRow_rowFrom`), because a row is continued at the end of a text. Edits can be read
in both directions (`Edits.reverse`), so the last entry is the least number of edits
(`isLeast_editDistance`).
-/

set_option autoImplicit false

namespace SymbolSearch.Text

/-! ## Edits -/

/-- The second text comes from the first by one edit, at the front or behind what stays. -/
inductive Edit : List Char → List Char → Prop where
  | insert (c : Char) (a : List Char) : Edit a (c :: a)
  | delete (c : Char) (a : List Char) : Edit (c :: a) a
  | replace (c d : Char) (a : List Char) : Edit (c :: a) (d :: a)
  | inside (c : Char) {a b : List Char} : Edit a b → Edit (c :: a) (c :: b)

/-- The second text comes from the first by so many edits, one after the other. -/
inductive Edits : Nat → List Char → List Char → Prop where
  | done (a : List Char) : Edits 0 a a
  | step {n : Nat} {a b c : List Char} : Edit a b → Edits n b c → Edits (n + 1) a c

theorem Edit.append_left {a b : List Char} (h : Edit a b) (before : List Char) :
    Edit (before ++ a) (before ++ b) := by
  induction before with
  | nil => exact h
  | cons c before ih => exact ih.inside c

theorem Edit.append_right {a b : List Char} (h : Edit a b) (after : List Char) :
    Edit (a ++ after) (b ++ after) := by
  induction h with
  | insert c a => exact .insert c _
  | delete c a => exact .delete c _
  | replace c d a => exact .replace c d _
  | inside c _ ih => exact ih.inside c

/-- Read backwards, an edit is an edit. -/
theorem Edit.reverse {a b : List Char} (h : Edit a b) : Edit a.reverse b.reverse := by
  induction h with
  | insert c a =>
      have hend := (Edit.insert c []).append_left a.reverse
      rwa [List.append_nil, ← List.reverse_cons] at hend
  | delete c a =>
      have hend := (Edit.delete c []).append_left a.reverse
      rwa [List.append_nil, ← List.reverse_cons] at hend
  | replace c d a =>
      rw [List.reverse_cons, List.reverse_cons]
      exact (Edit.replace c d []).append_left a.reverse
  | inside c _ ih =>
      rw [List.reverse_cons, List.reverse_cons]
      exact ih.append_right [c]

namespace Edits

variable {n : Nat} {a b : List Char}

theorem reverse (h : Edits n a b) : Edits n a.reverse b.reverse := by
  induction h with
  | done a => exact .done _
  | step hedit _ ih => exact .step hedit.reverse ih

theorem inside (c : Char) (h : Edits n a b) : Edits n (c :: a) (c :: b) := by
  induction h with
  | done a => exact .done _
  | step hedit _ ih => exact .step (hedit.inside c) ih

theorem insert (c : Char) (h : Edits n a b) : Edits (n + 1) a (c :: b) :=
  .step (.insert c a) (h.inside c)

theorem delete (c : Char) (h : Edits n a b) : Edits (n + 1) (c :: a) b :=
  .step (.delete c a) h

theorem replace (c d : Char) (h : Edits n a b) : Edits (n + 1) (c :: a) (d :: b) :=
  .step (.replace c d a) (h.inside d)

end Edits

/-! ## Distances by recursion -/

/-- The distance of two texts: their first characters are made equal, or one of them goes. -/
def distance : List Char → List Char → Nat
  | [], b => b.length
  | _ :: a, [] => a.length + 1
  | c :: a, d :: b =>
      min (min (distance a b + if c = d then 0 else 1) (distance a (d :: b) + 1))
        (distance (c :: a) b + 1)
termination_by a b => a.length + b.length

theorem distance_nil_left (b : List Char) : distance [] b = b.length := by
  rw [distance]

theorem distance_nil_right (a : List Char) : distance a [] = a.length := by
  cases a with
  | nil => rw [distance]
  | cons c a => rw [distance, List.length_cons]

theorem distance_cons_cons (c d : Char) (a b : List Char) :
    distance (c :: a) (d :: b) =
      min (min (distance a b + if c = d then 0 else 1) (distance a (d :: b) + 1))
        (distance (c :: a) b + 1) := by
  rw [distance]

theorem distance_self (a : List Char) : distance a a = 0 := by
  induction a with
  | nil => exact distance_nil_left []
  | cons c a ih => rw [distance_cons_cons, ih, if_pos rfl, Nat.zero_add, Nat.zero_min, Nat.zero_min]

/-! ### No fewer edits -/

theorem distance_cons_left_le (c : Char) (a b : List Char) :
    distance (c :: a) b ≤ distance a b + 1 := by
  cases b with
  | nil => rw [distance_nil_right, distance_nil_right, List.length_cons]
  | cons d b =>
      rw [distance_cons_cons]
      omega

theorem distance_cons_right_le (d : Char) (a b : List Char) :
    distance a (d :: b) ≤ distance a b + 1 := by
  cases a with
  | nil => rw [distance_nil_left, distance_nil_left, List.length_cons]
  | cons c a =>
      rw [distance_cons_cons]
      omega

theorem distance_le_cons_left (c : Char) (a b : List Char) :
    distance a b ≤ distance (c :: a) b + 1 := by
  induction b with
  | nil =>
      rw [distance_nil_right, distance_nil_right, List.length_cons]
      omega
  | cons d b ih =>
      have hright := distance_cons_right_le d a b
      rw [distance_cons_cons]
      omega

theorem distance_replace_le (c d : Char) (a b : List Char) :
    distance (c :: a) b ≤ distance (d :: a) b + 1 := by
  induction b with
  | nil => simp only [distance_nil_right, List.length_cons, Nat.le_add_right]
  | cons e b ih =>
      rw [distance_cons_cons, distance_cons_cons]
      split <;> omega

/-- A single edit changes the distance to any text by at most one. -/
theorem distance_le_of_edit {a a' : List Char} (h : Edit a a') :
    ∀ b, distance a b ≤ distance a' b + 1 := by
  induction h with
  | insert c a => exact distance_le_cons_left c a
  | delete c a => exact distance_cons_left_le c a
  | replace c d a => exact distance_replace_le c d a
  | inside c h ih =>
      intro b
      induction b with
      | nil =>
          have hnil := ih []
          rw [distance_nil_right, distance_nil_right] at hnil
          rw [distance_nil_right, distance_nil_right, List.length_cons, List.length_cons]
          omega
      | cons d b ihb =>
          -- whichever way the first characters go, the rest is at most one farther off
          have hboth := ih b
          have hleft := ih (d :: b)
          rw [distance_cons_cons, distance_cons_cons]
          omega

theorem distance_le_of_edits {n : Nat} {a b : List Char} (h : Edits n a b) : distance a b ≤ n := by
  induction h with
  | done a => exact Nat.le_of_eq (distance_self a)
  | step hedit _ ih => exact (distance_le_of_edit hedit _).trans (Nat.succ_le_succ ih)

/-! ### No more edits -/

/-- As many edits as the distance lead from one text to the other. -/
theorem edits_distance (a b : List Char) : Edits (distance a b) a b := by
  fun_induction distance a b with
  | case1 b =>
      induction b with
      | nil => exact .done []
      | cons d b ih => exact ih.insert d
  | case2 c a =>
      induction a generalizing c with
      | nil => exact (Edits.done []).delete c
      | cons d a ih => exact (ih d).delete c
  | case3 c a d b ihBoth ihLeft ihRight =>
      -- the least of the three ways is one of them
      rcases min_choice (min (distance a b + if c = d then 0 else 1) (distance a (d :: b) + 1))
        (distance (c :: a) b + 1) with hmin | hmin
      · rw [hmin]
        rcases min_choice (distance a b + if c = d then 0 else 1) (distance a (d :: b) + 1) with
          hmin | hmin
        · rw [hmin]
          split
          next heq =>
            rw [heq]
            exact ihBoth.inside d
          next => exact ihBoth.replace c d
        · rw [hmin]
          exact ihLeft.delete c
      · rw [hmin]
        exact ihRight.insert d

/-! ## Rows of distances -/

/-- The distances of `a` to `before` and to its continuations by the first, the first two, … of the
further characters. All texts are read backwards, so that they grow at the front. -/
def rowFrom (a before : List Char) : List Char → List Nat
  | [] => [distance a before]
  | d :: ds => distance a before :: rowFrom a (d :: before) ds

theorem rowFrom_eq_cons (a before ds : List Char) :
    ∃ entries, rowFrom a before ds = distance a before :: entries := by
  cases ds with
  | nil => exact ⟨[], rfl⟩
  | cons d ds => exact ⟨rowFrom a (d :: before) ds, rfl⟩

/-- The first row holds the lengths. -/
theorem rowFrom_nil (before ds : List Char) :
    rowFrom [] before ds = List.range' before.length (ds.length + 1) := by
  induction ds generalizing before with
  | nil => rw [rowFrom, distance_nil_left, List.length_nil, Nat.zero_add, List.range'_one]
  | cons d ds ih =>
      rw [rowFrom, distance_nil_left, ih (d :: before), List.length_cons, List.length_cons]
      exact List.range'_succ.symm

/-- A row is continued by the recursion of the distances: the entry above on the left stands for
both characters, the one above and the one on the left for one of them. -/
theorem nextEntries_rowFrom (c : Char) (a before ds : List Char) :
    distance (c :: a) before ::
        nextEntries c (distance (c :: a) before) (rowFrom a before ds) ds =
      rowFrom (c :: a) before ds := by
  induction ds generalizing before with
  | nil => rfl
  | cons d ds ih =>
      obtain ⟨entries, hentries⟩ := rowFrom_eq_cons a (d :: before) ds
      have hrest := ih (d :: before)
      rw [hentries] at hrest
      rw [rowFrom, rowFrom, hentries, nextEntries, ← hrest, distance_cons_cons]

theorem nextRow_rowFrom (c : Char) (a b : List Char) :
    nextRow b (rowFrom a [] b) (a.length + 1) c = rowFrom (c :: a) [] b := by
  have hlength : a.length + 1 = distance (c :: a) [] := by
    rw [distance_nil_right, List.length_cons]
  rw [nextRow, hlength]
  exact nextEntries_rowFrom c a [] b

theorem lastRow_rowFrom (a b cs : List Char) :
    lastRow b (rowFrom a [] b) a.length cs = rowFrom (cs.reverse ++ a) [] b := by
  induction cs generalizing a with
  | nil => rfl
  | cons c cs ih =>
      rw [lastRow, nextRow_rowFrom]
      refine (ih (c :: a)).trans ?_
      rw [List.reverse_cons, List.append_assoc, List.singleton_append]

theorem getLastD_rowFrom (a before ds : List Char) (default : Nat) :
    (rowFrom a before ds).getLastD default = distance a (ds.reverse ++ before) := by
  induction ds generalizing before default with
  | nil => rfl
  | cons d ds ih =>
      rw [rowFrom, List.getLastD_cons, ih, List.reverse_cons, List.append_assoc,
        List.singleton_append]

theorem editDistance_eq_distance (a b : List Char) :
    editDistance a b = distance a.reverse b.reverse := by
  have hlast := lastRow_rowFrom [] b a
  rw [rowFrom_nil, List.length_nil, ← List.range_eq_range', List.append_nil] at hlast
  rw [editDistance, hlast, getLastD_rowFrom, List.append_nil]

/-- The computed distance is the least number of edits. -/
theorem isLeast_editDistance (a b : List Char) : IsLeast {n | Edits n a b} (editDistance a b) := by
  rw [editDistance_eq_distance]
  constructor
  · have hedits := (edits_distance a.reverse b.reverse).reverse
    rwa [List.reverse_reverse, List.reverse_reverse] at hedits
  · intro n hn
    exact distance_le_of_edits hn.reverse

example : editDistance "kitten".toList "sitting".toList = 3 := by decide

end SymbolSearch.Text

namespace SymbolSearch

open Text

/-- **Similar names are told by the least number of edits.** The edit distance is this number, and a
query for similar names accepts those whose lowercase form is so few edits away from the lowercase
form of the name that is looked for: one, or one for every four characters of this form. -/
theorem Query.similar_counts_edits :
    (∀ a b : String, IsLeast {n | Edits n a.toList b.toList} (editDistance a.toList b.toList)) ∧
      ∀ name candidate : String, (similar name).matchesName candidate = true ↔
        ∃ n ≤ max 1 ((lower name).length / 4),
          Edits n (lower name).toList (lower candidate).toList := by
  refine ⟨fun a b => isLeast_editDistance a.toList b.toList, fun name candidate => ?_⟩
  obtain ⟨hmem, hleast⟩ := isLeast_editDistance (lower name).toList (lower candidate).toList
  have hmatches : (similar name).matchesName candidate = true ↔
      editDistance (lower name).toList (lower candidate).toList ≤
        max 1 ((lower name).length / 4) := by
    have hcandidate : (lower candidate).toList = lowerChars candidate.toList :=
      String.toList_ofList
    rw [similar, matchesName, decide_eq_true_iff, max_comm, hcandidate]
  rw [hmatches]
  constructor
  · intro hle
    exact ⟨_, hle, hmem⟩
  · rintro ⟨n, hle, hedits⟩
    exact (hleast hedits).trans hle

end SymbolSearch
