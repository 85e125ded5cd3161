import SymbolSearch.Index.Binary
import SymbolSearch.Proofs.Index.Check
import SymbolSearch.Proofs.Text.Order

/-!
# Faults of indexes

The check of an index answers with the first fault that it meets. A fault that it names is in the
tables (`Index.isIn_of_fault?`), so the reason why a file is not read as an index is a true one
(`Index.decode_eq_error`). And it names none exactly if the tables fit together: the lower-case
names are then in the order of their bytes along the table `sorted` (`Index.passes_iff`).
-/

set_option autoImplicit false

namespace SymbolSearch

namespace Index

/-! ## What a fault says -/

/-- The index has the fault. -/
def Fault.IsIn (index : Index) : Fault → Prop
  | .wrongVersion found => index.version = found ∧ found ≠ currentVersion
  | .lengthsDiffer nodes names sorted =>
      (index.nodes.size = nodes ∧ index.foldedNames.size = names ∧ index.sorted.size = sorted) ∧
        ¬ (names = nodes ∧ sorted = nodes)
  | .badParent i parent =>
      (∃ node, index.nodes[i]? = some node ∧ node.parent = some parent) ∧ i ≤ parent
  | .repeated entry => ∃ before after,
      index.sorted.toList = before ++ entry :: after ∧ entry ∈ before
  | .outOfRange entry => entry ∈ index.sorted.toList ∧ index.nodes.size ≤ entry
  | .outOfOrder =>
      ¬ index.sorted.toList.Pairwise fun i j => index.foldedName i ≤ index.foldedName j

theorem parentFault?_eq_some {i : Nat} {nodes : List IndexedDeclaration} {fault : Fault}
    (h : parentFault? i nodes = some fault) :
    ∃ j node parent, nodes[j]? = some node ∧ node.parent = some parent ∧ i + j ≤ parent ∧
      fault = .badParent (i + j) parent := by
  induction nodes generalizing i with
  | nil => cases h
  | cons node nodes ih =>
      -- a fault of a later node is that of the rest, one position on
      have hlater : parentFault? (i + 1) nodes = some fault → ∃ j n parent,
          (node :: nodes)[j]? = some n ∧ n.parent = some parent ∧ i + j ≤ parent ∧
            fault = .badParent (i + j) parent := by
        intro hrest
        obtain ⟨j, n, parent, hn, hparent, hle, rfl⟩ := ih hrest
        refine ⟨j + 1, n, parent, hn, hparent, by omega, ?_⟩
        rw [Nat.add_assoc, Nat.add_comm 1 j]
      rw [parentFault?] at h
      cases hparent : node.parent with
      | none =>
          rw [hparent] at h
          exact hlater h
      | some parent =>
          simp only [hparent] at h
          split at h
          next => exact hlater h
          next hge =>
            refine ⟨0, node, parent, rfl, hparent, Nat.not_lt.1 hge, ?_⟩
            exact (Option.some.inj h).symm

theorem entryFault?_eq_some {size : Nat} {seen entries : List Nat} {fault : Fault}
    (h : entryFault? size seen entries = some fault) :
    ∃ before entry after, entries = before ++ entry :: after ∧
      (size ≤ entry ∧ fault = .outOfRange entry ∨
        (entry ∈ seen ∨ entry ∈ before) ∧ fault = .repeated entry) := by
  induction entries generalizing seen with
  | nil => cases h
  | cons entry entries ih =>
      rw [entryFault?] at h
      split at h
      next hrange => exact ⟨[], entry, entries, rfl, .inl ⟨hrange, (Option.some.inj h).symm⟩⟩
      next =>
        split at h
        next hseen =>
          refine ⟨[], entry, entries, rfl, .inr ⟨.inl ?_, (Option.some.inj h).symm⟩⟩
          simpa using hseen
        next =>
          obtain ⟨before, e, after, rfl, hfault⟩ := ih h
          refine ⟨entry :: before, e, after, rfl, hfault.imp_right ?_⟩
          rintro ⟨hmem, heq⟩
          refine ⟨?_, heq⟩
          -- what has been seen now is the first entry or was seen before
          rcases hmem with hmem | hmem
          · rcases List.mem_cons.1 hmem with rfl | hmem
            · exact .inr List.mem_cons_self
            · exact .inl hmem
          · exact .inr (List.mem_cons_of_mem _ hmem)

/-- A fault that the check names is in the tables. -/
theorem isIn_of_fault? {index : Index} {fault : Fault} (h : index.fault? = some fault) :
    fault.IsIn index := by
  rw [fault?] at h
  split at h
  next hsizes =>
    obtain rfl := Option.some.inj h
    exact ⟨⟨rfl, rfl, rfl⟩, by simpa [← not_and_or] using hsizes⟩
  next =>
    split at h
    next f hparent =>
      obtain rfl := Option.some.inj h
      obtain ⟨j, node, parent, hnode, hnodeParent, hle, rfl⟩ := parentFault?_eq_some hparent
      rw [Nat.zero_add] at hle ⊢
      exact ⟨⟨node, by simpa using hnode, hnodeParent⟩, hle⟩
    next =>
      split at h
      next f hentry =>
        obtain rfl := Option.some.inj h
        obtain ⟨before, entry, after, hsorted, ⟨hrange, rfl⟩ | ⟨hmem, rfl⟩⟩ :=
          entryFault?_eq_some hentry
        · exact ⟨by rw [hsorted]; simp, hrange⟩
        · exact ⟨before, after, hsorted, hmem.resolve_left List.not_mem_nil⟩
      next =>
        split at h
        next => cases h
        next hascending =>
          obtain rfl := Option.some.inj h
          rw [ascending_iff, List.pairwise_map] at hascending
          exact hascending

/-- If bytes can be read as an index but are refused, the index has the fault that is reported. -/
theorem decode_eq_error {path : Path} {bytes rest : List UInt8} {index : Index} {e : Error}
    (hread : decoder bytes = .ok (index, rest)) (h : decode path bytes = .error e) :
    ∃ fault : Fault, fault.IsIn index ∧ e = .index path fault.message := by
  simp only [decode, hread] at h
  split at h
  next hversion =>
    obtain rfl := Except.error.inj h
    exact ⟨.wrongVersion index.version, ⟨rfl, hversion⟩, rfl⟩
  next =>
    split at h
    next fault hfault =>
      obtain rfl := Except.error.inj h
      exact ⟨fault, isIn_of_fault? hfault, rfl⟩
    next => cases h

/-! ## Indexes without a fault -/

theorem foldedName_eq {index : Index} {i : Nat} {name : String}
    (h : index.foldedNames[i]? = some name) : index.foldedName i = name := by
  rw [foldedName, Array.getD_eq_getD_getElem?, h, Option.getD_some]

/-- **The check passes exactly the indexes whose tables fit together**: the tables have one length,
every parent comes before its node, `sorted` is a permutation of the positions, and the lower-case
names do not descend along it, compared by their bytes. -/
theorem passes_iff (index : Index) :
    index.fault? = none ↔
      (index.foldedNames.size = index.nodes.size ∧ index.sorted.size = index.nodes.size) ∧
      (∀ (i : Nat) (node : IndexedDeclaration) (parent : Nat), index.nodes[i]? = some node →
        node.parent = some parent → parent < i) ∧
      index.sorted.toList.Perm (List.range index.nodes.size) ∧
      ∀ (p q i j : Nat) (a b : String), p < q → index.sorted[p]? = some i →
        index.sorted[q]? = some j → index.foldedNames[i]? = some a →
          index.foldedNames[j]? = some b → Bytes.utf8 a ≤ Bytes.utf8 b := by
  rw [fault?_eq_none_iff]
  constructor
  · rintro ⟨hfolded, hparent, hperm, hascending⟩
    refine ⟨⟨hfolded, by simpa using hperm.length_eq⟩, hparent, hperm, ?_⟩
    intro p q i j a b hpq hi hj ha hb
    obtain ⟨hp, rfl⟩ := Array.getElem?_eq_some_iff.1 hi
    obtain ⟨hq, rfl⟩ := Array.getElem?_eq_some_iff.1 hj
    have hle := List.pairwise_iff_getElem.1 hascending p q hp hq hpq
    rw [Array.getElem_toList, Array.getElem_toList, foldedName_eq ha, foldedName_eq hb] at hle
    exact Bytes.le_iff_utf8_le.1 hle
  · rintro ⟨⟨hfolded, -⟩, hparent, hperm, hascending⟩
    refine ⟨hfolded, hparent, hperm, List.pairwise_iff_getElem.2 fun p q hp hq hpq => ?_⟩
    -- every entry is a position, so it has a lower-case name
    have hname : ∀ i ∈ index.sorted.toList, ∃ name, index.foldedNames[i]? = some name := by
      intro i hi
      have hlt := List.mem_range.1 (hperm.mem_iff.1 hi)
      exact ⟨_, Array.getElem?_eq_getElem (hfolded ▸ hlt)⟩
    obtain ⟨a, ha⟩ := hname _ (List.getElem_mem hp)
    obtain ⟨b, hb⟩ := hname _ (List.getElem_mem hq)
    rw [foldedName_eq ha, foldedName_eq hb]
    refine Bytes.le_iff_utf8_le.2 (hascending p q _ _ a b hpq ?_ ?_ ha hb)
    · simp
    · simp

end Index

end SymbolSearch
