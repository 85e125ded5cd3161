import SymbolSearch.Declaration.Basic
import SymbolSearch.Symbol

/-!
# Assemblies

An assembly lists the symbols that declaration trees declare, each before its members.
A namespace that occurs again in the same container is the same symbol; all other
declarations are symbols of their own, and an ordinal tells like ones apart. Symbols are
numbered in the order in which they are first met, after the global namespace. While the trees
are gone through, tables keep the members, the namespaces and the numbers of like members of
each container.
-/

set_option autoImplicit false

namespace SymbolSearch

/-- Where an assembly comes from. -/
inductive Origin where
  | source
  | metadata (checksum : String)
  deriving DecidableEq, Repr

/-- The compilation that new symbols belong to, and the number of the next one. -/
structure Arena where
  compilation : CompilationId
  nextId : Nat

/-- A new symbol, and the arena without its number. -/
def Arena.alloc (arena : Arena) (name : String) (kind : Kind) (arity : UInt32) (ordinal : Nat)
    (container : Option Symbol) (assembly : Option Nat) (implicit accessor : Bool) :
    Symbol × Arena :=
  (⟨arena.compilation, assembly, ⟨arena.nextId, name, kind, arity, ordinal, implicit, accessor⟩,
      (container.map Symbol.lineage).getD []⟩,
    { arena with nextId := arena.nextId + 1 })

/-- Give a key of a table another value, which may depend on the one that it has. Tables are lists
of keys and values, and a new key comes last. -/
def alterAt {κ α : Type} [DecidableEq κ] (key : κ) (change : Option α → α) :
    List (κ × α) → List (κ × α)
  | [] => [(key, change none)]
  | (other, value) :: rest =>
      if other = key then (key, change (some value)) :: rest
      else (other, value) :: alterAt key change rest

section AlterAt

variable {κ α : Type} [DecidableEq κ] [BEq κ] [LawfulBEq κ] (key : κ) (change : Option α → α)
  (table : List (κ × α))

@[simp] theorem lookup_alterAt_self :
    (alterAt key change table).lookup key = some (change (table.lookup key)) := by
  induction table with
  | nil => simp [alterAt]
  | cons entry table ih =>
      obtain ⟨k, value⟩ := entry
      by_cases hk : k = key
      · simp [alterAt, hk]
      · have hkey : (key == k) = false := by simpa using Ne.symm hk
        simp [alterAt, hk, List.lookup_cons, hkey, ih]

theorem lookup_alterAt_of_ne {other : κ} (h : other ≠ key) :
    (alterAt key change table).lookup other = table.lookup other := by
  have hother : (other == key) = false := by simpa using h
  induction table with
  | nil => simp [alterAt, List.lookup_cons, hother]
  | cons entry table ih =>
      obtain ⟨k, value⟩ := entry
      by_cases hk : k = key
      · simp [alterAt, hk, List.lookup_cons, hother]
      · simp [alterAt, hk, List.lookup_cons, ih]

end AlterAt

/-- The members of a container among the given symbols. -/
def Assembly.membersIn (declared : List Symbol) (container : Nat) : List Symbol :=
  declared.filter fun s => s.containerId? = some container

/-- A table of members, by the number of their container, holds those among the given symbols. -/
def Assembly.HoldsMembers (members : List (Nat × List Symbol)) (declared : List Symbol) : Prop :=
  ∀ container, (members.lookup container).getD [] = membersIn declared container

/-- A new symbol goes to the members of its container. -/
theorem Assembly.HoldsMembers.append {members : List (Nat × List Symbol)} {declared : List Symbol}
    (h : HoldsMembers members declared) {s : Symbol} {container : Nat}
    (hs : s.containerId? = some container) :
    HoldsMembers (alterAt container (fun held => held.getD [] ++ [s]) members)
      (declared ++ [s]) := by
  intro k
  rw [membersIn, List.filter_append, ← membersIn]
  by_cases hk : k = container
  · rw [hk, lookup_alterAt_self, Option.getD_some, h container]
    simp [hs]
  · rw [lookup_alterAt_of_ne _ _ _ hk, h k]
    simp [hs, Ne.symm hk]

/-- One assembly as seen by one compilation. -/
@[ext]
structure Assembly where
  compilation : CompilationId
  ordinal : Nat
  name : String
  origin : Origin
  /-- The number of the global namespace. -/
  firstId : Nat
  /-- The declared symbols, without the global namespace. -/
  declared : List Symbol
  /-- The direct members of each container, by its number. -/
  members : List (Nat × List Symbol)
  held : Assembly.HoldsMembers members declared

namespace Assembly

/-- The namespace that everything in the assembly is inside of. -/
def globalNamespace (a : Assembly) : Symbol :=
  ⟨a.compilation, some a.ordinal, .global a.firstId, []⟩

/-- The direct members of a symbol of the assembly. -/
def membersOf (a : Assembly) (container : Symbol) : List Symbol :=
  if container.compilation = a.compilation then (a.members.lookup container.id).getD [] else []

/-- The member of `container` with a name, kind and arity. `ordinal` tells like members
apart. -/
def findMember (a : Assembly) (container : Symbol) (name : String) (kind : Kind) (arity : UInt32)
    (ordinal : Nat) : Option Symbol :=
  ((a.membersOf container).filter fun m => m.name = name && m.kind = kind && m.arity = arity)[
    ordinal]?

/-! ## Building -/

/-- What has been built of an assembly. -/
structure Tables where
  arena : Arena
  /-- The position of the assembly. -/
  ordinal : Nat
  declared : List Symbol
  /-- The members of each container, by its number. -/
  members : List (Nat × List Symbol)
  held : HoldsMembers members declared
  /-- The namespaces, by the number of their container and their name. -/
  namespaces : List ((Nat × String) × Symbol)
  /-- How many members a container has with a name, kind and arity. -/
  siblings : List ((Nat × String × Kind × UInt32) × Nat)

namespace Tables

/-- Nothing is declared. -/
def empty (arena : Arena) (ordinal : Nat) : Tables :=
  ⟨arena, ordinal, [], [], fun _ => rfl, [], []⟩

/-- The symbol of a new declaration. Its ordinal is the number of like members that its container
has so far. -/
def newSymbol (t : Tables) (container : Symbol) (name : String) (kind : Kind) (arity : UInt32)
    (implicit accessor : Bool) : Symbol × Tables :=
  let likeness := (container.id, name, kind, arity)
  let ordinal := (t.siblings.lookup likeness).getD 0
  let allocated :=
    t.arena.alloc name kind arity ordinal (some container) (some t.ordinal) implicit accessor
  let s := allocated.1
  (s, { t with
    arena := allocated.2
    declared := t.declared ++ [s]
    members := alterAt container.id (fun held => held.getD [] ++ [s]) t.members
    held := t.held.append rfl
    siblings := alterAt likeness (fun count => count.getD 0 + 1) t.siblings })

/-- The symbol of a declaration. A namespace that the container already has stands for further
ones of its name. -/
def declare (t : Tables) (container : Symbol) (name : String) (kind : Kind) (arity : UInt32)
    (implicit accessor : Bool) : Symbol × Tables :=
  if kind.isNamespace then
    match t.namespaces.lookup (container.id, name) with
    | some existing => (existing, t)
    | none =>
        let (s, t) := t.newSymbol container name kind arity implicit accessor
        (s, { t with namespaces := alterAt (container.id, name) (fun _ => s) t.namespaces })
  else t.newSymbol container name kind arity implicit accessor

mutual

/-- Declare a tree inside a container. -/
def addTree (container : Symbol) : Declaration → Tables → Tables
  | ⟨name, kind, arity, implicit, accessor, children⟩, t =>
      let (s, t) := t.declare container name kind arity implicit accessor
      addTrees s children t

/-- Declare trees one after the other inside a container. -/
def addTrees (container : Symbol) : List Declaration → Tables → Tables
  | [], t => t
  | d :: ds, t => addTrees container ds (addTree container d t)

end

end Tables

/-- The assembly that declares the given trees, with symbols from an arena, and what is left of
the arena. -/
def buildFrom (arena : Arena) (ordinal : Nat) (name : String) (origin : Origin)
    (roots : List Declaration) : Assembly × Arena :=
  let (globalNamespace, arena) := arena.alloc "" .nameSpace 0 0 none (some ordinal) false false
  let t := Tables.addTrees globalNamespace roots (.empty arena ordinal)
  (⟨arena.compilation, ordinal, name, origin, globalNamespace.id, t.declared, t.members, t.held⟩,
    t.arena)

/-- The assembly that declares the given trees, its symbols numbered from `firstId` on. -/
def build (compilation : CompilationId) (ordinal : Nat) (name : String) (origin : Origin)
    (firstId : Nat) (roots : List Declaration) : Assembly :=
  (buildFrom ⟨compilation, firstId⟩ ordinal name origin roots).1

end Assembly

/-- A description of where an assembly comes from, for diagnostics. -/
def Origin.describe : Origin → String
  | .source => "Source"
  | .metadata checksum => "Metadata \x7b checksum: " ++ Text.quoted checksum ++ " \x7d"

/-- A description for diagnostics. -/
def Assembly.describe (a : Assembly) : String :=
  "AssemblySymbol \x7b name: " ++ Text.quoted a.name ++ ", ordinal: " ++ toString a.ordinal
    ++ ", compilation: " ++ a.compilation.describe ++ ", origin: " ++ a.origin.describe
    ++ ", symbols: " ++ toString a.declared.length ++ " \x7d"

end SymbolSearch
