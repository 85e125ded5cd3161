import SymbolSearch.Image
import SymbolSearch.Query
import SymbolSearch.Time.Timestamp
import SymbolSearch.Version

/-!
# Indexes

An index lists the declarations of an image for searching: a table of nodes, each after
its parent, the lower-case names of the nodes, and the order of the nodes by these
names. What a compiler added, accessors and all kinds that no filter selects are left out,
with everything inside them. Ordinals count what is left out, so that they agree with
those of the symbols.
-/

set_option autoImplicit false

namespace SymbolSearch

/-- A declaration in an index. -/
structure IndexedDeclaration where
  name : String
  kind : Kind
  arity : UInt32
  ordinal : Nat
  /-- The position of the containing declaration. -/
  parent : Option Nat
  deriving DecidableEq, Repr

/-- The declarations of an image, prepared for searching. -/
structure Index where
  version : Nat
  /-- The checksum of the image. -/
  checksum : String
  assemblyName : String
  builtAt : Time.Instant
  nodes : Array IndexedDeclaration
  /-- The positions of the nodes, ordered by their lower-case names. -/
  sorted : Array Nat
  foldedNames : Array String
  deriving DecidableEq, Repr

namespace Index

/-- The number of declarations. -/
def size (index : Index) : Nat := index.nodes.size

/-! ## Building -/

/-- What like declarations in one container have in common. -/
structure Likeness where
  parent : Option Nat
  name : String
  kind : Kind
  arity : UInt32
  deriving DecidableEq

/-- The nodes so far, and for each declaration met so far what it has in common with like
ones. -/
structure Table where
  nodes : List IndexedDeclaration
  met : List Likeness

/-- The position of a namespace that is in the table already. -/
def Table.findNamespace? (t : Table) (parent : Option Nat) (name : String) : Option Nat :=
  t.nodes.findIdx? fun node => node.kind.isNamespace && node.parent = parent && node.name = name

/-- The table after a declaration has been counted. -/
def Table.count (t : Table) (like : Likeness) : Table := { t with met := like :: t.met }

mutual

/-- Add a tree of declarations inside a container. -/
def addTree (parent : Option Nat) : Declaration → Table → Table
  | ⟨name, kind, arity, implicit, accessor, children⟩, t =>
      match (if kind.isNamespace then t.findNamespace? parent name else none) with
      | some existing => addTrees (some existing) children t
      | none =>
          let like : Likeness := ⟨parent, name, kind, arity⟩
          let ordinal := t.met.count like
          let t := t.count like
          if !kind.isDeclarable || implicit || accessor then t
          else
            addTrees (some t.nodes.length) children
              { t with nodes := t.nodes ++ [⟨name, kind, arity, ordinal, parent⟩] }

/-- Add trees one after the other inside a container. -/
def addTrees (parent : Option Nat) : List Declaration → Table → Table
  | [], t => t
  | d :: ds, t => addTrees parent ds (addTree parent d t)

end

/-- The positions of names, ordered by name and then by position. -/
def sortedPositions (names : List String) : List Nat :=
  (names.zipIdx.mergeSort fun a b => a.1 < b.1 || (a.1 = b.1 && a.2 ≤ b.2)).map Prod.snd

/-- The index of an image, built at a given time. -/
def build (image : Image) (checksum : String) (builtAt : Time.Instant) : Index :=
  let nodes := (addTrees none image.declarations ⟨[], []⟩).nodes
  let folded := nodes.map fun node => Text.lower node.name
  ⟨currentVersion, checksum, image.assemblyName, builtAt, nodes.toArray,
    (sortedPositions folded).toArray, folded.toArray⟩

/-! ## Checking -/

/-- Why an index cannot be used. -/
inductive Fault where
  | wrongVersion (found : Nat)
  | lengthsDiffer (nodes names sorted : Nat)
  | badParent (node parent : Nat)
  | repeated (entry : Nat)
  | outOfRange (entry : Nat)
  | outOfOrder
  deriving DecidableEq, Repr

/-- The wording of a fault. -/
def Fault.message : Fault → String
  | .wrongVersion found =>
      "format version " ++ toString found ++ " (expected " ++ toString currentVersion ++ ")"
  | .lengthsDiffer nodes names sorted =>
      "table lengths disagree: " ++ toString nodes ++ " nodes, " ++ toString names ++ " names, "
        ++ toString sorted ++ " sorted"
  | .badParent node parent => "node " ++ toString node ++ " has parent " ++ toString parent
  | .repeated entry => "sorted table repeats node " ++ toString entry
  | .outOfRange entry => "sorted table entry " ++ toString entry ++ " out of range"
  | .outOfOrder => "sorted table out of order"

/-- The first node from position `i` on that does not come after its parent. -/
def parentFault? : (i : Nat) → List IndexedDeclaration → Option Fault
  | _, [] => none
  | i, node :: nodes =>
      match node.parent with
      | some parent => if parent < i then parentFault? (i + 1) nodes else some (.badParent i parent)
      | none => parentFault? (i + 1) nodes

/-- The first entry that is not below `size`, or occurs among the entries before it. -/
def entryFault? (size : Nat) : (seen : List Nat) → List Nat → Option Fault
  | _, [] => none
  | seen, entry :: entries =>
      if size ≤ entry then some (.outOfRange entry)
      else if seen.contains entry then some (.repeated entry)
      else entryFault? size (entry :: seen) entries

/-- Each name is at most the next one. -/
def ascending : List String → Bool
  | a :: b :: names => !(b < a) && ascending (b :: names)
  | _ => true

/-- The first fault in the tables of an index. -/
def fault? (index : Index) : Option Fault :=
  let size := index.nodes.size
  if index.foldedNames.size ≠ size || index.sorted.size ≠ size then
    some (.lengthsDiffer size index.foldedNames.size index.sorted.size)
  else
    match parentFault? 0 index.nodes.toList with
    | some fault => some fault
    | none =>
        match entryFault? size [] index.sorted.toList with
        | some fault => some fault
        | none =>
            if ascending (index.sorted.toList.map fun i => index.foldedNames.getD i "") then none
            else some .outOfOrder

end Index

end SymbolSearch
