import SymbolSearch.Index.Search
import SymbolSearch.Project
import SymbolSearch.Selection

/-!
# Collecting declarations

The source collector searches the declared symbols of a project's own assembly, the
metadata collector an assembly of a reference by way of its index. Both append what they
find to the results of their caller as the last thing they do. Neither takes custom queries.
-/

set_option autoImplicit false

namespace SymbolSearch

variable {κ : Type}

/-- The declared symbols of the source assembly that match a query. The filter admits all
kinds that are neither namespaces nor types as members. -/
def Compilation.symbolsWithName (c : Compilation) (query : Query) (filter : Filter) :
    Search κ (List Symbol) :=
  Search.visitAll scanInterval
    (fun s => pure (if filter.admits s.kind && query.matchesName s.name then some s else none))
    c.source.declared

/-- The symbols of `target` with the same keys. Symbols without an equivalent there are
left out. -/
def resolveEach (target : Compilation) (symbols : List Symbol) : Search κ (List Symbol) :=
  Search.visitAll resolveInterval (fun s => pure ((Key.ofSymbol s).resolve target)) symbols

/-- Both are the same assembly of the same compilation. -/
def Assembly.sameAs (a b : Assembly) : Bool :=
  a.compilation = b.compilation && a.ordinal = b.ordinal

/-- Refuse custom queries. -/
def refuseCustom (query : Query) : Search κ Unit :=
  if query.kind = .custom then throw .customQuery else pure ()

/-- Ask a project for its compilation, unless its names rule out a result. -/
def requestMatching (p : Project κ) (query : Query) (filter : Filter) :
    Search κ (Option (Reply κ Compilation)) := do
  refuseCustom query
  if ← p.mightContain query filter then do
    let reply ← p.request
    pure (some reply)
  else pure none

/-- The matching declarations of a compilation's source assembly. If a target is given
whose assembly is another one, they are resolved in the target. -/
def matchingIn (c : Compilation) (query : Query) (filter : Filter)
    (target : Option (Compilation × Assembly)) : Search κ (List Symbol) := do
  let found ← c.symbolsWithName query filter
  let found ←
    match target with
    | some (target, a) =>
        if c.source.sameAs a then pure found else resolveEach target found
    | none => pure found
  pure (select found filter)

/-! ## Results of the caller -/

/-- A search that may also write to the results of its caller, which are kept when it fails. -/
abbrev Collector (κ α : Type) := ExceptT Error (StateM (Session κ × List Symbol)) α

namespace Collector

variable {α : Type}

/-- A search on its own, which leaves the results alone. -/
def search (m : Search κ α) : Collector κ α :=
  ExceptT.mk fun (s, results) =>
    let (outcome, s) := m.run.run s
    (outcome, s, results)

/-- Append a block to the results. -/
def append (block : List Symbol) : Collector κ Unit :=
  modify fun (s, results) => (s, results ++ block)

/-- Run a collector on results of a caller. This gives its outcome and what the results have
become. -/
def runOn (collect : Collector κ Unit) (earlier : List Symbol) :
    Search κ (Except Error Unit × List Symbol) :=
  ExceptT.mk fun s =>
    let (outcome, s, results) := collect.run.run (s, earlier)
    (.ok (outcome, results), s)

/-- The results that a collector makes of earlier ones, for callers who drop them if it fails. -/
def onto (collect : Collector κ Unit) (earlier : List Symbol) : Search κ (List Symbol) := do
  match ← collect.runOn earlier with
  | (.ok (), results) => pure results
  | (.error e, _) => throw e

end Collector

/-! ## Collectors -/

/-- Append the matching source declarations of a project to the results. -/
def appendSource (p : Project κ) (query : Query) (filter : Filter)
    (target : Option (Compilation × Assembly)) : Collector κ Unit := do
  match ← Collector.search (requestMatching p query filter) with
  | none => pure ()
  | some reply => do
      let c ← Collector.search reply.wait
      let found ← Collector.search (matchingIn c query filter target)
      Collector.append found

/-- Append the matching declarations of a reference to the results. `a` is the assembly of the
reference. Without a reference, or without an index of it, there are none. -/
def appendMetadata (a : Assembly) (reference : Option Reference) (query : Query)
    (filter : Filter) : Collector κ Unit := do
  Collector.search (refuseCustom query)
  match reference with
  | none => pure ()
  | some r =>
      match ← Collector.search (obtainIndex r false) with
      | none => pure ()
      | some index => do
          let found ← Collector.search (index.find query a filter)
          Collector.append found

/-- Earlier results with the matching source declarations of a project behind them. -/
def collectSource (p : Project κ) (query : Query) (filter : Filter)
    (target : Option (Compilation × Assembly)) (earlier : List Symbol) : Search κ (List Symbol) :=
  (appendSource p query filter target).onto earlier

/-- Earlier results with the matching declarations of a reference behind them. -/
def collectMetadata (a : Assembly) (reference : Option Reference) (query : Query)
    (filter : Filter) (earlier : List Symbol) : Search κ (List Symbol) :=
  (appendMetadata a reference query filter).onto earlier

end SymbolSearch
