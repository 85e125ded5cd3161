import SymbolSearch.Config
import SymbolSearch.Index.Binary
import SymbolSearch.Reference

/-!
# The indexes of a solution

Indexes are kept by the checksum of their image: in memory, and in a directory if the
configuration names one.
-/

set_option autoImplicit false

namespace SymbolSearch

/-- The indexes in memory and the configuration that says where others are stored. -/
structure IndexStore where
  config : Config
  /-- The indexes in memory by their checksums, which are distinct. -/
  indexes : List (String × Index)

namespace IndexStore

/-- No indexes in memory. -/
def empty (config : Config) : IndexStore := ⟨config, []⟩

/-- The number of indexes in memory. -/
def size (store : IndexStore) : Nat := store.indexes.length

/-- The index with a checksum, if it is in memory. -/
def find? (store : IndexStore) (checksum : String) : Option Index := store.indexes.lookup checksum

/-- Keep an index in memory. -/
def remember (store : IndexStore) (index : Index) : IndexStore :=
  { store with
    indexes := (index.checksum, index)
      :: store.indexes.filter fun entry => entry.1 ≠ index.checksum }

/-- The file of the index of a reference. -/
def path? (store : IndexStore) (r : Reference) : Option Path :=
  store.config.indexDirectory.map fun directory => directory.join ⟨r.checksum ++ ".idx"⟩

/-- A stored index can be used for a reference: it is the index of this image and not too
old. -/
def accepts (store : IndexStore) (r : Reference) (now : Time.Instant) (index : Index) : Bool :=
  index.checksum = r.checksum
    && Time.isFresh now index.builtAt store.config.maxAgeHours.toNat

/-- The index that is stored in a file, if it can be used for a reference. -/
def stored? (store : IndexStore) (files : Files) (r : Reference) (now : Time.Instant)
    (path : Path) : Option Index :=
  match Index.load files path with
  | .ok index => if store.accepts r now index then some index else none
  | .error _ => none

end IndexStore

end SymbolSearch
