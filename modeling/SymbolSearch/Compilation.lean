import SymbolSearch.Merged
import SymbolSearch.Reference

/-!
# Compilations

A compilation is the source assembly of a project, an assembly for each readable
reference, and the merged namespaces of all of them. It owns every symbol in them.
-/

set_option autoImplicit false

namespace SymbolSearch

/-- The assemblies of a project and their merged namespaces. -/
structure Compilation where
  id : CompilationId
  source : Assembly
  /-- The readable references and their assemblies. -/
  referenced : List (Reference × Assembly)
  merged : Merged

namespace Compilation

/-- All assemblies, the source assembly first. -/
def assemblies (c : Compilation) : List Assembly := c.source :: c.referenced.map Prod.snd

/-- The assembly at a position. -/
def assembly? (c : Compilation) (ordinal : Nat) : Option Assembly := c.assemblies[ordinal]?

/-- The merged global namespace. -/
def globalNamespace (c : Compilation) : Symbol := c.merged.globalNamespace

/-- The assembly of a reference, looked up by the text of its path and its checksum. Of
several the last one counts. -/
def assemblyFor? (c : Compilation) (r : Reference) : Option Assembly :=
  (c.referenced.reverse.find? fun entry => entry.1.sameText r).map Prod.snd

/-- The symbol belongs to the compilation. -/
def owns (c : Compilation) (s : Symbol) : Bool := s.compilation = c.id

/-- The direct members of a symbol. Merged namespaces have the members that all assemblies
declare there. -/
def membersOf (c : Compilation) (container : Symbol) : List Symbol :=
  if c.owns container then
    match container.extent? with
    | some .compilation => c.merged.members container.id
    | _ =>
        match container.assembly.bind c.assembly? with
        | some a => a.membersOf container
        | none => []
  else []

/-- The merged namespace for a namespace of any assembly or compilation, by its qualified
name. A merged namespace of this compilation stands for itself. -/
def canonical? (c : Compilation) (s : Symbol) : Option Symbol :=
  if s.kind.isNamespace then
    if c.owns s && s.assembly.isNone then some s else c.merged.find? s.qualifiedName
  else none

/-! ## Building -/

/-- The assemblies of the readable references among the given ones, at positions from `ordinal`
on, and what is left of the arena. -/
def buildReferenced : (ordinal : Nat) → List Reference → Arena → List (Reference × Assembly) × Arena
  | _, [], arena => ([], arena)
  | ordinal, r :: rs, arena =>
      match r.image with
      | .error _ => buildReferenced ordinal rs arena
      | .ok image =>
          let (a, arena) := Assembly.buildFrom arena ordinal image.assemblyName
            (.metadata r.checksum) image.declarations
          let (others, arena) := buildReferenced (ordinal + 1) rs arena
          ((r, a) :: others, arena)

/-- The compilation of some documents and references. References that cannot be read are
left out. -/
def build (id : CompilationId) (assemblyName : String) (documents : List (List Declaration))
    (references : List Reference) : Compilation :=
  let (source, arena) := Assembly.buildFrom ⟨id, 0⟩ 0 assemblyName .source documents.flatten
  let (referenced, arena) := buildReferenced 1 references arena
  ⟨id, source, referenced, Merged.build arena (source :: referenced.map Prod.snd)⟩

/-- A description for diagnostics. -/
def describe (c : Compilation) : String :=
  "Compilation \x7b id: " ++ c.id.describe ++ ", assemblies: ["
    ++ String.intercalate ", " (c.assemblies.map Assembly.describe) ++ "] \x7d"

end Compilation

end SymbolSearch
