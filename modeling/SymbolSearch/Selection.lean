import SymbolSearch.Compilation
import SymbolSearch.Filter

/-!
# Selecting and normalizing symbols

Two passes over a list of symbols: `select` drops what a filter does not select and
everything that a compiler added or that merely serves a property or event;
`normalize` puts merged namespaces in the place of others. Both exist for a shared list,
where the answer tells whether anything changed, and for a list that may be used up.
-/

set_option autoImplicit false

namespace SymbolSearch

/-- The result of a pass over a shared list: the list itself, or a new one. -/
inductive Reuse (α : Type) where
  | same
  | fresh (items : List α)

/-- The items after a pass over `items`. -/
def Reuse.over {α : Type} (items : List α) : Reuse α → List α
  | .same => items
  | .fresh changed => changed

/-- Nothing changed. -/
def Reuse.isSame {α : Type} : Reuse α → Bool
  | .same => true
  | .fresh _ => false

/-- The filter selects the kind of a symbol. -/
def Symbol.meets (s : Symbol) (filter : Filter) : Bool := filter.selects s.kind

/-- A symbol belongs into results. -/
def Symbol.isIncluded (s : Symbol) (filter : Filter) : Bool :=
  !s.isImplicit && !s.isAccessor && s.meets filter

/-- The symbols of a shared list that belong into results. -/
def selectShared (symbols : List Symbol) (filter : Filter) : Reuse Symbol :=
  match symbols.findIdx? fun s => !s.isIncluded filter with
  | none => .same
  | some i =>
      .fresh (symbols.take i ++ (symbols.drop (i + 1)).filter fun s => s.isIncluded filter)

/-- The symbols that belong into results. -/
def select (symbols : List Symbol) (filter : Filter) : List Symbol :=
  if symbols.all fun s => s.isIncluded filter then symbols
  else symbols.filter fun s => s.isIncluded filter

namespace Compilation

/-- The merged namespace to put in the place of a symbol, if it is another one. -/
def replacement? (c : Compilation) (s : Symbol) : Option Symbol :=
  match c.canonical? s with
  | some canonical => if canonical.sameAs s then none else some canonical
  | none => none

/-- A symbol, or the merged namespace in its place. -/
def normalized (c : Compilation) (s : Symbol) : Symbol := (c.replacement? s).getD s

/-- Put merged namespaces in the place of others, in a shared list. -/
def normalizeShared (c : Compilation) (symbols : List Symbol) : Reuse Symbol :=
  match symbols.findIdx? fun s => (c.replacement? s).isSome with
  | none => .same
  | some i => .fresh (symbols.take i ++ (symbols.drop i).map c.normalized)

/-- Put merged namespaces in the place of others. -/
def normalize (c : Compilation) (symbols : List Symbol) : List Symbol :=
  symbols.map c.normalized

end Compilation

end SymbolSearch
