import SymbolSearch.Assembly

/-!
# Merged namespaces

Assemblies may declare namespaces of one qualified name. A compilation sees such
namespaces as one merged namespace, whose members are merged namespaces and the other
members of all of them. They are found by a walk through the namespaces of each
assembly in turn.
-/

set_option autoImplicit false

namespace SymbolSearch

/-- The members of the namespace `container` and of the namespaces inside it, each
namespace before its members. A symbol comes after its container in `declared`. -/
def reachable (container : Nat) : List Symbol → List Symbol
  | [] => []
  | s :: rest =>
      if s.containerId? = some container then
        s :: (if s.kind.isNamespace then reachable s.id rest else []) ++ reachable container rest
      else reachable container rest

/-- The namespaces of a whole compilation. -/
structure Merged where
  /-- What further symbols of the compilation are made from. -/
  arena : Arena
  /-- The number of the merged global namespace. -/
  firstId : Nat
  /-- The merged namespaces by their qualified names, in the order of their numbers. -/
  byName : List (String × Symbol)
  /-- The members of merged namespaces, each with the number of its namespace. -/
  placements : List (Nat × Symbol)

namespace Merged

/-- The compilation that the merged namespaces belong to. -/
def compilation (m : Merged) : CompilationId := m.arena.compilation

/-- The merged global namespace. -/
def globalNamespace (m : Merged) : Symbol := ⟨m.compilation, none, .global m.firstId, []⟩

/-- Only a global namespace. -/
def initial (arena : Arena) : Merged :=
  let (globalNamespace, arena) := arena.alloc "" .nameSpace 0 0 none none false false
  ⟨arena, globalNamespace.id, [("", globalNamespace)], []⟩

/-- The merged namespace with a qualified name. -/
def find? (m : Merged) (qualifiedName : String) : Option Symbol := m.byName.lookup qualifiedName

/-- The merged namespace that the members of a symbol's container belong to. -/
def home (m : Merged) (s : Symbol) : Symbol :=
  ((s.container?.bind fun container => m.find? container.qualifiedName)).getD m.globalNamespace

/-- Put a member of an assembly's namespace into the merged one. A namespace becomes a
merged namespace unless there is one with its qualified name. -/
def place (m : Merged) (s : Symbol) : Merged :=
  let home := m.home s
  if s.kind.isNamespace then
    match m.find? s.qualifiedName with
    | some _ => m
    | none =>
        let (merged, arena) := m.arena.alloc s.name .nameSpace 0 0 (some home) none false false
        { m with
          arena := arena
          byName := m.byName ++ [(s.qualifiedName, merged)]
          placements := m.placements ++ [(home.id, merged)] }
  else { m with placements := m.placements ++ [(home.id, s)] }

/-- The merged namespaces of some assemblies. -/
def build (arena : Arena) (assemblies : List Assembly) : Merged :=
  (assemblies.flatMap fun a => reachable a.firstId a.declared).foldl place (initial arena)

/-- The members of the merged namespace with a number. -/
def members (m : Merged) (id : Nat) : List Symbol :=
  (m.placements.filter fun placement => placement.1 = id).map Prod.snd

end Merged

end SymbolSearch
