import SymbolSearch.Index.Basic
import SymbolSearch.Key

/-!
# Looking up names in an index

An exact name is found by binary search among the ordered lower-case names; any other
query tries all names. The key of a node is read off the chain of its parents.
-/

set_option autoImplicit false

namespace SymbolSearch.Index

/-- The node at a position and its parents, innermost first. The walk ends at a parent that
does not come before its child. -/
def ancestry (nodes : Array IndexedDeclaration) (i : Nat) : List IndexedDeclaration :=
  match nodes[i]? with
  | none => []
  | some node =>
      match node.parent with
      | none => [node]
      | some parent => if parent < i then node :: ancestry nodes parent else [node]
termination_by i

/-- The step of a key to a node. -/
def stepTo (node : IndexedDeclaration) : KeyStep := ⟨node.name, node.kind, node.arity, node.ordinal⟩

/-- The key of the declaration at a position. -/
def keyAt (index : Index) (i : Nat) : Key := ⟨(ancestry index.nodes i).reverse.map stepTo⟩

/-- The first number from `low` up to `high` at which `below` is false, if it is true up to
some number and false from there on. -/
def partitionPoint (below : Nat → Bool) (low high : Nat) : Nat :=
  if low < high then
    let middle := (low + high) / 2
    if below middle then partitionPoint below (middle + 1) high
    else partitionPoint below low middle
  else low
termination_by high - low
decreasing_by all_goals omega

/-- The lower-case name at a position of the ordering. -/
def foldedAt (index : Index) (i : Nat) : String := index.foldedNames.getD (index.sorted.getD i 0) ""

/-- The name of the node at a position satisfies the query. -/
def nameMatches (index : Index) (query : Query) (i : Nat) : Bool :=
  match index.nodes[i]? with
  | some node => query.matchesName node.name
  | none => false

/-- The positions of the nodes whose lower-case name is `folded`, in order of the ordering. -/
def positionsOf (index : Index) (folded : String) : List Nat :=
  let start := partitionPoint (fun i => index.foldedAt i < folded) 0 index.sorted.size
  (index.sorted.toList.drop start).takeWhile fun i => index.foldedNames.getD i "" = folded

/-- The positions of the nodes whose name satisfies the query, in ascending order. -/
def candidates (index : Index) (query : Query) : List Nat :=
  match query.name? with
  | some name =>
      ((index.positionsOf (Text.lower name)).filter (index.nameMatches query)).mergeSort
  | none => (List.range index.nodes.size).filter (index.nameMatches query)

end SymbolSearch.Index
