import SymbolSearch.Proofs.Index.Order

/-!
# The check of an index

An index that is read from a file is used only if no fault is found in its tables. The check is
exact (`fault?_eq_none_iff`): it accepts the indexes whose nodes come after their parents, whose
table `sorted` lists every node once, and whose lower-case names, one for each node, ascend along
this table (`IsSound`).
-/

set_option autoImplicit false

namespace SymbolSearch

namespace Index

/-- The tables agree in length, every node comes after its parent, and the index is ordered. -/
structure IsSound (index : Index) : Prop where
  size_foldedNames : index.foldedNames.size = index.nodes.size
  parent_lt : ∀ (i : Nat) (node : IndexedDeclaration) (p : Nat), index.nodes[i]? = some node →
    node.parent = some p → p < i
  isOrdered : index.IsOrdered

/-! ## The parts of the check -/

theorem parentFault?_eq_none_iff {i : Nat} {nodes : List IndexedDeclaration} :
    parentFault? i nodes = none ↔
      ∀ j node p, nodes[j]? = some node → node.parent = some p → p < i + j := by
  induction nodes generalizing i with
  | nil => simp [parentFault?]
  | cons node nodes ih =>
      -- the first node is at position `i`, and the others follow from `i + 1` on
      have hsplit : (∀ j n p, (node :: nodes)[j]? = some n → n.parent = some p → p < i + j) ↔
          (∀ p, node.parent = some p → p < i) ∧
            ∀ j n p, nodes[j]? = some n → n.parent = some p → p < i + 1 + j := by
        constructor
        · intro h
          refine ⟨fun p => h 0 node p rfl, fun j n p hn hp => ?_⟩
          have hlt := h (j + 1) n p hn hp
          omega
        · rintro ⟨hfirst, hothers⟩ j n p hn hp
          cases j with
          | zero => exact hfirst p (Option.some.inj hn ▸ hp)
          | succ j =>
              have hlt := hothers j n p hn hp
              omega
      rw [hsplit, ← ih, parentFault?]
      cases hparent : node.parent with
      | none => simp
      | some parent =>
          by_cases hlt : parent < i
          · simp [hlt]
          · simp [hlt]

theorem entryFault?_eq_none_iff {size : Nat} {seen entries : List Nat} :
    entryFault? size seen entries = none ↔
      (∀ e ∈ entries, e < size) ∧ entries.Nodup ∧ ∀ e ∈ entries, e ∉ seen := by
  induction entries generalizing seen with
  | nil => simp [entryFault?]
  | cons entry entries ih =>
      rw [entryFault?]
      by_cases hrange : size ≤ entry
      · simp [hrange]
      by_cases hseen : entry ∈ seen
      · simp [hrange, hseen]
      · rw [if_neg hrange, if_neg (by simpa using hseen), ih]
        rw [List.forall_mem_cons, List.forall_mem_cons, List.nodup_cons]
        constructor
        · rintro ⟨hlt, hnodup, hothers⟩
          refine ⟨⟨by omega, hlt⟩, ⟨fun hmem => hothers entry hmem List.mem_cons_self, hnodup⟩,
            hseen, fun e he hold => hothers e he (List.mem_cons_of_mem _ hold)⟩
        · rintro ⟨⟨-, hlt⟩, ⟨hnot, hnodup⟩, -, hothers⟩
          refine ⟨hlt, hnodup, fun e he hmem => ?_⟩
          rcases List.mem_cons.1 hmem with rfl | hold
          · exact hnot he
          · exact hothers e he hold

theorem ascending_iff (names : List String) :
    Index.ascending names = true ↔ names.Pairwise fun a b => a ≤ b := by
  rw [← List.isChain_iff_pairwise]
  induction names with
  | nil => simp [Index.ascending]
  | cons a names ih =>
      cases names with
      | nil => simp [Index.ascending]
      | cons b names =>
          rw [Index.ascending, List.isChain_cons_cons, Bool.and_eq_true, ih, Bool.not_eq_true',
            decide_eq_false_iff_not, not_lt]

/-- A list of the right length whose entries are in range and differ lists every position. -/
theorem perm_range_iff {l : List Nat} {n : Nat} :
    l.Perm (List.range n) ↔ l.length = n ∧ (∀ e ∈ l, e < n) ∧ l.Nodup := by
  constructor
  · intro h
    refine ⟨by simpa using h.length_eq, fun e he => ?_, h.nodup_iff.2 List.nodup_range⟩
    exact List.mem_range.1 (h.mem_iff.1 he)
  · rintro ⟨hlength, hlt, hnodup⟩
    have hsub : l.Subperm (List.range n) :=
      List.subperm_of_subset hnodup fun e he => List.mem_range.2 (hlt e he)
    exact hsub.perm_of_length_le (by simp [hlength])

/-! ## The whole check -/

/-- The check finds no fault just in sound indexes. -/
theorem fault?_eq_none_iff (index : Index) : index.fault? = none ↔ index.IsSound := by
  have hsound : index.IsSound ↔
      (index.foldedNames.size = index.nodes.size ∧ index.sorted.size = index.nodes.size) ∧
        parentFault? 0 index.nodes.toList = none ∧
        entryFault? index.nodes.size [] index.sorted.toList = none ∧
        Index.ascending (index.sorted.toList.map fun i => index.foldedNames.getD i "") = true := by
    rw [parentFault?_eq_none_iff, entryFault?_eq_none_iff, ascending_iff, List.pairwise_map]
    simp only [Nat.zero_add, Array.getElem?_toList, List.not_mem_nil, not_false_eq_true,
      implies_true, and_true]
    constructor
    · rintro ⟨hsize, hparent, hperm, hascending⟩
      obtain ⟨hlength, hlt, hnodup⟩ := perm_range_iff.1 hperm
      exact ⟨⟨hsize, hlength⟩, hparent, ⟨hlt, hnodup⟩, hascending⟩
    · rintro ⟨⟨hsize, hlength⟩, hparent, ⟨hlt, hnodup⟩, hascending⟩
      exact ⟨hsize, hparent, perm_range_iff.2 ⟨hlength, hlt, hnodup⟩, hascending⟩
  rw [hsound, fault?]
  by_cases hsizes : index.foldedNames.size = index.nodes.size ∧
      index.sorted.size = index.nodes.size
  · rw [if_neg (by simpa using hsizes)]
    cases parentFault? 0 index.nodes.toList with
    | some fault => simp
    | none =>
        cases entryFault? index.nodes.size [] index.sorted.toList with
        | some fault => simp
        | none => simp [hsizes]
  · rw [if_pos (by simpa [← not_and_or] using hsizes)]
    simp [hsizes]

end Index

end SymbolSearch
