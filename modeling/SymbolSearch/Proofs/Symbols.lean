import SymbolSearch.Proofs.Merged.Canonical

/-!
# The symbols of a compilation

A compilation has the symbols of its assemblies and its merged namespaces. They are numbered
consecutively, the merged namespaces last (`Compilation.IsBuilt.map_id_symbols`), so a number
belongs to one symbol of the compilation (`Compilation.IsBuilt.eq_of_id_eq`). The members of a
merged namespace are found among those that have been placed, and the members of any other symbol
in the assembly of the symbol (`Compilation.IsBuilt.membersOf_mergedNamespace`,
`Compilation.IsBuilt.membersOf_symbol`).
-/

set_option autoImplicit false

namespace SymbolSearch

open Assembly

/-! ## Occurrences -/

theorem Symbol.sameAs_self (s : Symbol) : s.sameAs s = true := by simp [Symbol.sameAs]

theorem Symbol.sameAs_comm (s t : Symbol) : s.sameAs t = t.sameAs s := by
  simp only [Symbol.sameAs, @eq_comm _ s.compilation, @eq_comm _ s.id]

theorem Symbol.id_eq_of_sameAs {s t : Symbol} (h : s.sameAs t = true) : s.id = t.id := by
  simp only [Symbol.sameAs, Bool.and_eq_true, decide_eq_true_eq] at h
  exact h.2

/-- Where each number occurs once, each symbol does. -/
theorem Symbol.countP_sameAs_eq_one {l : List Symbol} (hl : (l.map Symbol.id).Nodup) {s : Symbol}
    (hs : s ∈ l) : l.countP s.sameAs = 1 := by
  have hle : l.countP s.sameAs ≤ 1 := by
    calc l.countP s.sameAs
        ≤ l.countP ((fun i => i == s.id) ∘ Symbol.id) := by
          apply List.countP_mono_left
          intro m _ hm
          simp [Symbol.id_eq_of_sameAs hm]
      _ = (l.map Symbol.id).count s.id := by rw [List.count, List.countP_map]
      _ ≤ 1 := List.nodup_iff_count_le_one.1 hl s.id
  have hpos : 0 < l.countP s.sameAs := List.countP_pos_iff.2 ⟨s, hs, s.sameAs_self⟩
  omega

namespace Compilation

/-- The merged namespaces, the global one first. -/
def mergedNamespaces (c : Compilation) : List Symbol := c.merged.byName.map Prod.snd

/-- All symbols of the compilation, in the order of their numbers. -/
def symbols (c : Compilation) : List Symbol :=
  c.assemblies.flatMap Assembly.symbols ++ c.mergedNamespaces

namespace IsBuilt

variable {c : Compilation}

/-! ## Numbers -/

theorem isFormed_merged (h : c.IsBuilt) : c.merged.IsFormed := by
  rw [h.merged_eq]
  exact Merged.isFormed_build _ _

theorem merged_firstId (h : c.IsBuilt) : c.merged.firstId = nextIdAfter c.assemblies := by
  rw [h.merged_eq]
  exact Merged.build_firstId _ _

theorem merged_compilation (h : c.IsBuilt) : c.merged.compilation = c.id := by
  rw [h.merged_eq]
  exact Merged.build_compilation _ _

/-- All symbols are numbered consecutively. -/
theorem map_id_symbols (h : c.IsBuilt) :
    c.symbols.map Symbol.id = List.range' 0 c.symbols.length := by
  have hmerged : c.mergedNamespaces.map Symbol.id =
      List.range' (nextIdAfter c.assemblies) c.mergedNamespaces.length := by
    rw [mergedNamespaces, List.map_map, List.length_map, ← h.merged_firstId]
    exact h.isFormed_merged.map_id
  -- the merged namespaces go on where the assemblies have ended
  have hnext : nextIdAfter c.assemblies = (c.assemblies.flatMap Assembly.symbols).length := by
    rw [h.row.nextIdAfter_eq (List.cons_ne_nil _ _), Nat.zero_add]
  rw [symbols, List.map_append, h.row.map_id, hmerged, hnext, List.length_append,
    ← List.range'_append_1, Nat.zero_add]

theorem nodup_id_symbols (h : c.IsBuilt) : (c.symbols.map Symbol.id).Nodup := by
  rw [h.map_id_symbols]
  exact List.nodup_range'

/-- A number belongs to one symbol. -/
theorem eq_of_id_eq (h : c.IsBuilt) {s t : Symbol} (hs : s ∈ c.symbols) (ht : t ∈ c.symbols)
    (hid : s.id = t.id) : s = t :=
  List.inj_on_of_nodup_map h.nodup_id_symbols hs ht hid

theorem mem_symbols_of_assembly {a : Assembly} (ha : a ∈ c.assemblies) {s : Symbol}
    (hs : s ∈ a.symbols) : s ∈ c.symbols :=
  List.mem_append_left _ (List.mem_flatMap_of_mem ha hs)

theorem mem_symbols_of_merged {t : Symbol} (ht : t ∈ c.mergedNamespaces) : t ∈ c.symbols :=
  List.mem_append_right _ ht

/-- Symbols of an assembly come before merged namespaces. -/
theorem ne_mergedNamespace (h : c.IsBuilt) {a : Assembly} (ha : a ∈ c.assemblies) {s t : Symbol}
    (hs : s ∈ a.symbols) (ht : t ∈ c.mergedNamespaces) : s ≠ t := by
  have hnodup := List.Nodup.of_map _ h.nodup_id_symbols
  rw [symbols, List.nodup_append] at hnodup
  exact hnodup.2.2 s (List.mem_flatMap_of_mem ha hs) t ht

/-- A symbol belongs to one assembly. -/
theorem eq_assembly (h : c.IsBuilt) {a b : Assembly} (ha : a ∈ c.assemblies)
    (hb : b ∈ c.assemblies) {s : Symbol} (hsa : s ∈ a.symbols) (hsb : s ∈ b.symbols) : a = b := by
  obtain ⟨i, hi⟩ := List.getElem?_of_mem ha
  obtain ⟨j, hj⟩ := List.getElem?_of_mem hb
  -- the symbol says at which position its assembly stands
  have hassembly := (Grown.owner (h.row.isGrown ha) s hsa).2
  rw [(Grown.owner (h.row.isGrown hb) s hsb).2] at hassembly
  have hordinal : b.ordinal = a.ordinal := Option.some.inj hassembly
  rw [h.row.ordinal_eq hi, h.row.ordinal_eq hj, Nat.zero_add, Nat.zero_add] at hordinal
  rw [hordinal, hi, Option.some.injEq] at hj
  exact hj

/-! ## Merged namespaces -/

theorem of_mem_mergedNamespaces (h : c.IsBuilt) {t : Symbol} (ht : t ∈ c.mergedNamespaces) :
    t.compilation = c.id ∧ t.assembly = none ∧ t.kind = .nameSpace := by
  obtain ⟨entry, hentry, rfl⟩ := List.mem_map.1 ht
  obtain ⟨hcompilation, hassembly⟩ := h.isFormed_merged.owner entry hentry
  rw [h.merged_compilation] at hcompilation
  exact ⟨hcompilation, hassembly, (h.isFormed_merged.kind entry hentry).1⟩

theorem mem_mergedNamespaces_of_find? {qualifiedName : String} {t : Symbol}
    (hfind : c.merged.find? qualifiedName = some t) : t ∈ c.mergedNamespaces :=
  List.mem_map_of_mem (f := Prod.snd) (Merged.IsFormed.mem_byName hfind)

theorem globalNamespace_mem_mergedNamespaces (h : c.IsBuilt) :
    c.globalNamespace ∈ c.mergedNamespaces :=
  mem_mergedNamespaces_of_find? h.find?_merged_empty

/-! ## Members -/

/-- The members of a merged namespace are those that have been placed there. -/
theorem membersOf_mergedNamespace (h : c.IsBuilt) {t : Symbol} (ht : t ∈ c.mergedNamespaces) :
    c.membersOf t = c.merged.members t.id := by
  obtain ⟨hcompilation, hassembly, hkind⟩ := h.of_mem_mergedNamespaces ht
  have howns : c.owns t = true := decide_eq_true hcompilation
  have hextent : t.extent? = some .compilation := by
    rw [Symbol.extent?, if_pos (Kind.isNamespace_iff.2 hkind), hassembly]
  simp only [membersOf, if_pos howns, hextent]

/-- The members of a symbol of an assembly are its members there. -/
theorem membersOf_symbol (h : c.IsBuilt) {a : Assembly} (ha : a ∈ c.assemblies) {s : Symbol}
    (hs : s ∈ a.symbols) : c.membersOf s = membersIn a.declared s.id := by
  obtain ⟨i, hi⟩ := List.getElem?_of_mem ha
  obtain ⟨hcompilation, hassembly⟩ := Grown.owner (h.row.isGrown ha) s hs
  have howns : c.owns s = true :=
    decide_eq_true (hcompilation.trans (h.row.compilation_eq ha))
  -- the assembly is looked up at its position, which is its ordinal
  have hposition : s.assembly = some i := by
    have hordinal : a.ordinal = i := by rw [h.row.ordinal_eq hi, Nat.zero_add]
    rw [hassembly, ← hordinal]
    rfl
  have hfound : s.assembly.bind c.assembly? = some a := by
    rw [hposition]
    exact hi
  have hextent : s.extent? ≠ some .compilation := by
    rw [Symbol.extent?, hposition]
    split
    · simp
    · simp
  rw [membersOf, if_pos howns, hfound]
  split
  next heq => exact absurd heq hextent
  next => exact membersOf_eq (h.row.isGrown ha) hs

end IsBuilt

end Compilation

end SymbolSearch
