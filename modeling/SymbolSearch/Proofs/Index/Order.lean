import SymbolSearch.Index.Lookup
import Mathlib.Data.List.Sort
import Mathlib.Data.String.Basic

/-!
# Looking up names in an ordered index

An index is ordered (`IsOrdered`) if its table `sorted` lists every node once and the
lower-case names ascend along it, and folded (`IsFolded`) if these names are the lower-case
names of its nodes. In an ordered index the binary search finds exactly the nodes with a given
lower-case name (`positionsOf_eq_filter`); in one that is also folded the candidates of every
query are the nodes whose name satisfies it, in ascending order (`candidates_eq`). Building
gives such indexes (`isOrdered_build`, `isFolded_build`).
-/

set_option autoImplicit false

namespace SymbolSearch

namespace Index

/-! ## Binary search -/

/-- If `below` is true up to some position below `n` and false from there on, the search finds
this position. -/
theorem partitionPoint_spec {below : Nat → Bool} {n : Nat}
    (hmono : ∀ i j, i ≤ j → j < n → below j = true → below i = true) (low high : Nat)
    (hle : low ≤ high) (hn : high ≤ n) (hlow : ∀ i < low, below i = true)
    (hhigh : ∀ i, high ≤ i → i < n → below i = false) :
    partitionPoint below low high ≤ n ∧
      (∀ i < partitionPoint below low high, below i = true) ∧
      ∀ i, partitionPoint below low high ≤ i → i < n → below i = false := by
  induction low, high using partitionPoint.induct below with
  -- the middle is below, so everything up to it is
  | case1 low high hlt middle hmiddle ih =>
      rw [partitionPoint, if_pos hlt, if_pos hmiddle]
      refine ih (by omega) hn ?_ hhigh
      intro i hi
      exact hmono i middle (by omega) (by omega) hmiddle
  -- the middle is not below, so nothing from it on is
  | case2 low high hlt middle hmiddle ih =>
      rw [partitionPoint, if_pos hlt, if_neg hmiddle]
      apply ih (by omega) (by omega) hlow
      intro i hi hin
      cases hbelow : below i with
      | false => rfl
      | true => exact absurd (hmono middle i hi hin hbelow) hmiddle
  | case3 low high hlt =>
      rw [partitionPoint, if_neg hlt]
      refine ⟨by omega, hlow, ?_⟩
      intro i hi
      exact hhigh i (by omega)

section Sorted

variable {α β : Type} [LinearOrder β] (key : α → β)

/-- Among ascending keys that are all at least `x`, those equal to `x` come first. -/
theorem takeWhile_eq_filter (x : β) (l : List α) (hsorted : l.Pairwise fun a b => key a ≤ key b)
    (hge : ∀ a ∈ l, x ≤ key a) :
    (l.takeWhile fun a => key a = x) = l.filter fun a => key a = x := by
  induction l with
  | nil => rfl
  | cons a l ih =>
      rw [List.pairwise_cons] at hsorted
      by_cases ha : key a = x
      · rw [List.takeWhile_cons_of_pos (by simpa using ha),
          List.filter_cons_of_pos (by simpa using ha),
          ih hsorted.2 fun b hb => hge b (List.mem_cons_of_mem _ hb)]
      · -- behind the first larger key all keys are larger
        have hlt : x < key a := lt_of_le_of_ne (hge a List.mem_cons_self) (Ne.symm ha)
        rw [List.takeWhile_cons_of_neg (by simpa using ha), eq_comm, List.filter_eq_nil_iff]
        intro b hb
        rw [decide_eq_true_eq]
        rcases List.mem_cons.1 hb with rfl | hb
        · exact ha
        · exact (lt_of_lt_of_le hlt (hsorted.1 b hb)).ne'

/-- The run of keys equal to `x` behind those below `x` holds all keys equal to `x`. -/
theorem takeWhile_drop_eq_filter (x : β) (l : List α) (k : Nat)
    (hsorted : l.Pairwise fun a b => key a ≤ key b) (hbelow : ∀ a ∈ l.take k, key a < x)
    (habove : ∀ a ∈ l.drop k, x ≤ key a) :
    ((l.drop k).takeWhile fun a => key a = x) = l.filter fun a => key a = x := by
  have hnone : ((l.take k).filter fun a => key a = x) = [] := by
    rw [List.filter_eq_nil_iff]
    intro a ha
    rw [decide_eq_true_eq]
    exact (hbelow a ha).ne
  rw [takeWhile_eq_filter key x _ (hsorted.sublist (List.drop_sublist k l)) habove]
  conv_rhs => rw [← List.take_append_drop k l]
  rw [List.filter_append, hnone, List.nil_append]

end Sorted

/-! ## Ordered indexes -/

/-- The lower-case name of the node at a position. -/
def foldedName (index : Index) (i : Nat) : String := index.foldedNames.getD i ""

/-- The table `sorted` lists every node once, and the lower-case names ascend along it. -/
structure IsOrdered (index : Index) : Prop where
  perm : index.sorted.toList.Perm (List.range index.nodes.size)
  ascending : index.sorted.toList.Pairwise fun i j => index.foldedName i ≤ index.foldedName j

/-- The lower-case names are those of the nodes. -/
def IsFolded (index : Index) : Prop :=
  ∀ i node, index.nodes[i]? = some node → index.foldedName i = Text.lower node.name

variable {index : Index}

theorem foldedAt_eq {i : Nat} (hi : i < index.sorted.size) :
    index.foldedAt i = index.foldedName index.sorted[i] := by
  simp [foldedAt, foldedName, Array.getD, hi]

/-- Binary search finds the nodes with a given lower-case name. -/
theorem positionsOf_eq_filter (h : index.IsOrdered) (folded : String) :
    index.positionsOf folded =
      index.sorted.toList.filter fun i => index.foldedName i = folded := by
  -- along the table the lower-case names ascend, which makes the test monotone
  have hmono : ∀ i j, i ≤ j → j < index.sorted.size →
      decide (index.foldedAt j < folded) = true → decide (index.foldedAt i < folded) = true := by
    intro i j hij hj hlt
    rw [decide_eq_true_eq] at hlt ⊢
    rcases Nat.eq_or_lt_of_le hij with rfl | hij
    · exact hlt
    · refine lt_of_le_of_lt ?_ hlt
      rw [foldedAt_eq hj, foldedAt_eq (Nat.lt_trans hij hj)]
      have hpair := List.pairwise_iff_getElem.1 h.ascending i j (by simpa using hij.trans hj)
        (by simpa using hj) hij
      simpa using hpair
  obtain ⟨-, hbelow, habove⟩ := partitionPoint_spec hmono 0 index.sorted.size (Nat.zero_le _)
    (Nat.le_refl _) (fun i hi => absurd hi (Nat.not_lt_zero i))
    (fun i hle hlt => absurd hlt (Nat.not_lt.2 hle))
  -- the partition point separates the smaller names from the others
  refine takeWhile_drop_eq_filter index.foldedName folded index.sorted.toList _ h.ascending ?_ ?_
  · intro a ha
    obtain ⟨i, hi, rfl⟩ := List.mem_iff_getElem.1 ha
    rw [List.length_take, Array.length_toList] at hi
    have hlt := hbelow i (by omega)
    rw [decide_eq_true_eq, foldedAt_eq (by omega)] at hlt
    simpa using hlt
  · intro a ha
    obtain ⟨i, hi, rfl⟩ := List.mem_iff_getElem.1 ha
    rw [List.length_drop, Array.length_toList] at hi
    have hge := habove _ (Nat.le_add_right _ i) (by omega)
    rw [decide_eq_false_iff_not, foldedAt_eq (by omega), not_lt] at hge
    simpa using hge

/-- A name that satisfies an exact query has the lower-case form of the query's name. -/
theorem lower_eq_of_matchesName {query : Query} {name candidate : String}
    (hname : query.name? = some name) (hmatch : query.matchesName candidate = true) :
    Text.lower candidate = Text.lower name := by
  cases query with
  | exact wanted ignoreCase =>
      simp only [Query.name?, Option.some.injEq] at hname
      subst hname
      cases ignoreCase with
      | true => simpa [Query.matchesName, eq_comm] using hmatch
      | false =>
          have heq : wanted = candidate := by simpa [Query.matchesName] using hmatch
          rw [heq]
  | substring => simp [Query.name?] at hname
  | pattern => simp [Query.name?] at hname
  | fuzzy => simp [Query.name?] at hname
  | custom => simp [Query.name?] at hname

/-- The candidates of an exact query are, in ascending order, the nodes whose name satisfies it and
whose entry among the lower-case names is that of the wanted name. -/
theorem candidates_of_name (h : index.IsOrdered) {query : Query} {name : String}
    (hname : query.name? = some name) :
    index.candidates query = (List.range index.nodes.size).filter fun i =>
      index.nameMatches query i && decide (index.foldedName i = Text.lower name) := by
  simp only [candidates, hname]
  rw [positionsOf_eq_filter h, List.filter_filter]
  generalize hfilter : (fun i => index.nameMatches query i &&
    decide (index.foldedName i = Text.lower name)) = isWanted
  -- the table lists every node once, so sorting the matches gives them in ascending order
  have hperm : ((index.sorted.toList.filter isWanted).mergeSort).Perm
      ((List.range index.nodes.size).filter isWanted) :=
    (List.mergeSort_perm _ _).trans (h.perm.filter _)
  refine hperm.eq_of_pairwise (fun a b _ _ => Nat.le_antisymm) ?_ ?_
  · have hsorted := @List.pairwise_mergeSort Nat (fun a b => decide (a ≤ b))
      (by simpa using fun a b c => Nat.le_trans) (by simpa using Nat.le_total)
      (index.sorted.toList.filter isWanted)
    simpa using hsorted
  · exact (List.pairwise_le_range).filter _

/-- The candidates of a query are the nodes whose name satisfies it, in ascending order. -/
theorem candidates_eq (h : index.IsOrdered) (hfolded : index.IsFolded) (query : Query) :
    index.candidates query = (List.range index.nodes.size).filter (index.nameMatches query) := by
  cases hname : query.name? with
  | none => simp [candidates, hname]
  | some name =>
      rw [candidates_of_name h hname]
      -- a node that matches has the wanted lower-case name, so one test is enough
      apply List.filter_congr
      intro i _
      cases hmatch : index.nameMatches query i with
      | false => rfl
      | true =>
          cases hnode : index.nodes[i]? with
          | none => simp [nameMatches, hnode] at hmatch
          | some node =>
              simp only [nameMatches, hnode] at hmatch
              simp [hfolded i node hnode, lower_eq_of_matchesName hname hmatch]

/-! ## Building -/

theorem sortedPositions_perm (names : List String) :
    (sortedPositions names).Perm (List.range names.length) := by
  have hperm := (List.mergeSort_perm names.zipIdx
    (fun a b => a.1 < b.1 || (a.1 = b.1 && a.2 ≤ b.2))).map Prod.snd
  rwa [List.zipIdx_map_snd, ← List.range_eq_range'] at hperm

theorem sortedPositions_ascending (names : List String) :
    (sortedPositions names).Pairwise fun i j => names.getD i "" ≤ names.getD j "" := by
  have hsorted := @List.pairwise_mergeSort (String × Nat)
    (fun a b => a.1 < b.1 || (a.1 = b.1 && a.2 ≤ b.2))
    (fun a b c hab hbc => by
      simp only [Bool.or_eq_true, Bool.and_eq_true, decide_eq_true_eq] at hab hbc ⊢
      rcases hab with hab | ⟨hab, hab'⟩ <;> rcases hbc with hbc | ⟨hbc, hbc'⟩
      · exact Or.inl (hab.trans hbc)
      · exact Or.inl (hbc ▸ hab)
      · exact Or.inl (hab ▸ hbc)
      · exact Or.inr ⟨hab.trans hbc, hab'.trans hbc'⟩)
    (fun a b => by
      simp only [Bool.or_eq_true, Bool.and_eq_true, decide_eq_true_eq]
      rcases lt_trichotomy a.1 b.1 with h | h | h
      · exact Or.inl (Or.inl h)
      · rcases Nat.le_total a.2 b.2 with h' | h'
        · exact Or.inl (Or.inr ⟨h, h'⟩)
        · exact Or.inr (Or.inr ⟨h.symm, h'⟩)
      · exact Or.inr (Or.inl h))
    names.zipIdx
  -- the order on pairs compares names first, so the names ascend
  rw [sortedPositions, List.pairwise_map]
  refine List.Pairwise.imp_of_mem ?_ hsorted
  rintro ⟨a, i⟩ ⟨b, j⟩ ha hb hle
  rw [List.mem_mergeSort, List.mem_zipIdx_iff_getElem?] at ha hb
  simp only [Bool.or_eq_true, Bool.and_eq_true, decide_eq_true_eq] at hle
  simp only [List.getD_eq_getElem?_getD] at ha hb ⊢
  rw [ha, hb]
  rcases hle with hlt | ⟨heq, -⟩
  · exact hlt.le
  · exact heq.le

section Build

variable (image : Image) (checksum : String) (builtAt : Time.Instant)

theorem isOrdered_build : (build image checksum builtAt).IsOrdered := by
  constructor
  · have hperm := sortedPositions_perm (((addTrees none image.declarations ⟨[], []⟩).nodes).map
      fun node => Text.lower node.name)
    simpa [build] using hperm
  · have hsorted := sortedPositions_ascending
      (((addTrees none image.declarations ⟨[], []⟩).nodes).map fun node => Text.lower node.name)
    refine hsorted.imp fun {i j} hle => ?_
    simpa only [foldedName, build, Array.getD_eq_getD_getElem?, List.getElem?_toArray,
      List.getD_eq_getElem?_getD] using hle

theorem isFolded_build : (build image checksum builtAt).IsFolded := by
  intro i node hnode
  simp only [build, List.getElem?_toArray] at hnode
  simp [foldedName, build, Array.getD_eq_getD_getElem?, hnode]

end Build

end Index

end SymbolSearch
