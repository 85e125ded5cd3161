import SymbolSearch.Proofs.Compilation
import SymbolSearch.Proofs.Merged.Growth

/-!
# The merged namespaces of a compilation

The merged namespaces of a compilation are its own, belong to no assembly and are numbered after
all symbols of its assemblies (`Compilation.IsBuilt.of_find?_merged`). A namespace of an assembly
has the one of its qualified name for its merged namespace, if there is any, and a merged
namespace stands for itself.
-/

set_option autoImplicit false

namespace SymbolSearch

namespace Compilation

namespace IsBuilt

variable {c : Compilation}

/-- A merged namespace of the compilation belongs to it and to no assembly, and its number comes
after those of all assemblies. -/
theorem of_find?_merged (h : c.IsBuilt) {qualifiedName : String} {t : Symbol}
    (hfind : c.merged.find? qualifiedName = some t) :
    t.compilation = c.id ∧ t.assembly = none ∧ t.kind = .nameSpace ∧
      nextIdAfter c.assemblies ≤ t.id := by
  rw [h.merged_eq] at hfind
  have hformed := Merged.isFormed_build ⟨c.id, nextIdAfter c.assemblies⟩ c.assemblies
  have hmem := Merged.IsFormed.mem_byName hfind
  have howner := hformed.owner _ hmem
  have hfirst := hformed.firstId_le hfind
  rw [Merged.build_compilation] at howner
  rw [Merged.build_firstId] at hfirst
  exact ⟨howner.1, howner.2, (hformed.kind _ hmem).1, hfirst⟩

theorem find?_merged_empty (h : c.IsBuilt) : c.merged.find? "" = some c.globalNamespace := by
  have hformed := Merged.isFormed_build ⟨c.id, nextIdAfter c.assemblies⟩ c.assemblies
  rw [← h.merged_eq] at hformed
  exact hformed.find?_empty

/-- A namespace of an assembly has the merged namespace of its qualified name. -/
theorem canonical?_eq_find? (h : c.IsBuilt) {s : Symbol}
    (hs : s ∈ c.assemblies.flatMap Assembly.symbols) (hns : s.kind.isNamespace = true) :
    c.canonical? s = c.merged.find? s.qualifiedName := by
  have hassembly : s.assembly.isNone = false := by
    rw [Option.isNone_eq_false_iff, Option.isSome_iff_ne_none]
    exact (h.row.owner hs).2
  rw [canonical?, if_pos hns, hassembly, Bool.and_false, if_neg Bool.false_ne_true]

/-- A merged namespace stands for itself. -/
theorem canonical?_merged (h : c.IsBuilt) {qualifiedName : String} {t : Symbol}
    (hfind : c.merged.find? qualifiedName = some t) : c.canonical? t = some t := by
  obtain ⟨hcompilation, hassembly, hkind, -⟩ := h.of_find?_merged hfind
  simp [canonical?, owns, hkind, hcompilation, hassembly, Kind.isNamespace]

end IsBuilt

end Compilation

end SymbolSearch
