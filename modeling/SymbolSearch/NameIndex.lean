import SymbolSearch.Declaration.Basic
import SymbolSearch.Filter
import SymbolSearch.Query

/-!
# Declared names

The names that documents declare, as namespaces, as types and as anything else. They
tell without a compilation whether a search can find something.
-/

set_option autoImplicit false

namespace SymbolSearch

/-- What the filters tell apart; all that is neither namespace nor type counts as member. -/
inductive Category where
  | nameSpace
  | type
  | member
  deriving DecidableEq, Repr

namespace Category

/-- The category of a kind. -/
def ofKind (kind : Kind) : Category :=
  if kind.isNamespace then .nameSpace else if kind.isType then .type else .member

/-- The categories in the order in which they are looked through. -/
def all : List Category := [.nameSpace, .type, .member]

/-- The filter that selects just this category. -/
def filter : Category → Filter
  | .nameSpace => .onlyNamespaces
  | .type => .onlyTypes
  | .member => .onlyMembers

end Category

/-- The distinct names of each category, as they are and in lower case. -/
structure NameIndex where
  names : List (Category × String)
  folded : List (Category × String)

namespace NameIndex

/-- No names. -/
def empty : NameIndex := ⟨[], []⟩

/-- Add an item that is not there yet. -/
def addNew (item : Category × String) (items : List (Category × String)) :
    List (Category × String) :=
  if items.contains item then items else item :: items

/-- Add the name of a declaration. -/
def insert (index : NameIndex) (d : Declaration) : NameIndex :=
  let category := Category.ofKind d.kind
  ⟨addNew (category, d.name) index.names, addNew (category, Text.lower d.name) index.folded⟩

/-- The names of all declarations in some documents. -/
def build (documents : List (List Declaration)) : NameIndex :=
  (documents.flatMap Declaration.preorderList).foldl insert empty

/-- The number of distinct names, counted in each category. -/
def size (index : NameIndex) : Nat := index.names.length

/-- There are no names. -/
def isEmpty (index : NameIndex) : Bool := index.names.isEmpty

/-- A name of the category satisfies the query. -/
def categoryMightContain (index : NameIndex) (category : Category) (query : Query) : Bool :=
  match query with
  | .exact name true => index.folded.contains (category, Text.lower name)
  | .exact name false => index.names.contains (category, name)
  | query => index.names.any fun item => item.1 = category && query.matchesName item.2

/-- A name of a selected category satisfies the query. -/
def mightContain (index : NameIndex) (query : Query) (filter : Filter) : Bool :=
  Category.all.any fun category =>
    filter.contains category.filter && index.categoryMightContain category query

end NameIndex

end SymbolSearch
