import SymbolSearch.Filter
import SymbolSearch.Index.Lookup
import SymbolSearch.Session

/-!
# Searching an index

An index answers a query with the symbols of a given assembly: the keys of the matching
nodes are resolved there. `obtainIndex` gets the index of a reference from memory, from
its file or by building it.
-/

set_option autoImplicit false

namespace SymbolSearch

variable {κ : Type}

/-- The symbol of an assembly for the node at a position, if the filter selects it. -/
def Index.symbolAt (index : Index) (a : Assembly) (filter : Filter) (i : Nat) : Option Symbol :=
  match index.nodes[i]? with
  | some node => if filter.selects node.kind then (index.keyAt i).resolveIn a else none
  | none => none

/-- The symbols of an assembly that match a query and a filter. -/
def Index.find (index : Index) (query : Query) (a : Assembly) (filter : Filter) :
    Search κ (List Symbol) :=
  Search.visitAll scanInterval (fun i => pure (index.symbolAt a filter i)) (index.candidates query)

/-- Keep an index in memory. -/
def rememberIndex (index : Index) : Search κ Unit :=
  modify fun s => { s with indexes := s.indexes.remember index }

/-- The stored index of a reference, if there is one that can be used. -/
def storedIndex (r : Reference) : Search κ (Option Index) := do
  let s ← get
  match s.indexes.path? r with
  | none => pure none
  | some path =>
      if !s.files.exists? path then pure none
      else do
        Search.poll
        Search.poll
        pure (s.indexes.stored? s.files r s.now path)

/-- Build the index of a reference and store it if the configuration says so. Whether it
can be stored does not matter. -/
def buildIndex (r : Reference) : Search κ (Option Index) := do
  Search.poll
  Search.poll
  match r.image with
  | .error _ => pure none
  | .ok image => do
      let s ← get
      let index := Index.build image r.checksum s.now
      match s.indexes.path? r with
      | some path =>
          if s.indexes.config.storesIndexes then
            set { s with files := ((index.save path).run s.files).2 }
      | none => pure ()
      pure (some index)

/-- The index of a reference: the one in memory, the stored one, or else a new one unless
`loadOnly` is set. There is none if the image cannot be read. -/
def obtainIndex (r : Reference) (loadOnly : Bool) : Search κ (Option Index) := do
  Search.poll
  match (← get).indexes.find? r.checksum with
  | some index => pure (some index)
  | none =>
      match ← storedIndex r with
      | some index => do
          rememberIndex index
          pure (some index)
      | none =>
          if loadOnly then pure none
          else
            match ← buildIndex r with
            | some index => do
                rememberIndex index
                pure (some index)
            | none => pure none

end SymbolSearch
