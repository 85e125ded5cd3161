import SymbolSearch.Kind
import SymbolSearch.Text.Quoted

/-!
# Symbols

A symbol is one declared entity as seen by one compilation, together with the chain
of its containers. It is identified by its compilation and its number there: two
compilations of the same source have different symbols.
-/

set_option autoImplicit false

namespace SymbolSearch

/-- The identity of a compilation. -/
structure CompilationId where
  number : Nat
  deriving DecidableEq, Repr

/-- The text of an identity. -/
def CompilationId.display (id : CompilationId) : String := "compilation#" ++ toString id.number

/-- A description for diagnostics. -/
def CompilationId.describe (id : CompilationId) : String :=
  "CompilationId(" ++ toString id.number ++ ")"

/-- One link in a chain of containers. `ordinal` counts the earlier members of the same
container with the same name, kind and arity. -/
structure Node where
  id : Nat
  name : String
  kind : Kind
  arity : UInt32
  ordinal : Nat
  implicit : Bool
  accessor : Bool
  deriving DecidableEq, Repr

/-- A namespace without a name. -/
def Node.global (id : Nat) : Node := ⟨id, "", .nameSpace, 0, 0, false, false⟩

/-- A declared entity of a compilation. -/
structure Symbol where
  compilation : CompilationId
  /-- The position of the declaring assembly; namespaces of a whole compilation have none. -/
  assembly : Option Nat
  node : Node
  /-- The containers, innermost first. The last one is a global namespace. -/
  above : List Node
  deriving DecidableEq, Repr

/-- Where a namespace lives. -/
inductive Extent where
  | assembly (ordinal : Nat)
  | compilation
  deriving DecidableEq, Repr

namespace Symbol

/-- The number of a symbol in its compilation. -/
def id (s : Symbol) : Nat := s.node.id

/-- The declared name. -/
def name (s : Symbol) : String := s.node.name

/-- What is declared. -/
def kind (s : Symbol) : Kind := s.node.kind

/-- The number of type parameters. -/
def arity (s : Symbol) : UInt32 := s.node.arity

/-- The position among like members of the container. -/
def ordinal (s : Symbol) : Nat := s.node.ordinal

/-- Added by a compiler. -/
def isImplicit (s : Symbol) : Bool := s.node.implicit

/-- A method behind a property or an event. -/
def isAccessor (s : Symbol) : Bool := s.node.accessor

/-- Both are the same symbol of the same compilation. -/
def sameAs (s t : Symbol) : Bool := s.compilation = t.compilation && s.id = t.id

/-- The innermost container. Global namespaces have none. -/
def container? (s : Symbol) : Option Symbol :=
  match s.above with
  | [] => none
  | node :: above => some ⟨s.compilation, s.assembly, node, above⟩

/-- The number of the innermost container. -/
def containerId? (s : Symbol) : Option Nat := s.above.head?.map Node.id

/-- A namespace without a container. -/
def isGlobal (s : Symbol) : Bool := s.kind.isNamespace && s.above.isEmpty

/-- Where a namespace lives. -/
def extent? (s : Symbol) : Option Extent :=
  if s.kind.isNamespace then
    some (match s.assembly with
      | some ordinal => .assembly ordinal
      | none => .compilation)
  else none

/-- The symbol and its containers, innermost first. -/
def lineage (s : Symbol) : List Node := s.node :: s.above

end Symbol

/-- A chain of containers without the global namespace at its end. -/
def belowGlobal : List Node → List Node
  | [] => []
  | [node] => if node.kind.isNamespace then [] else [node]
  | node :: more :: above => node :: belowGlobal (more :: above)

/-- The names of a chain of containers, outermost first, joined by full stops. -/
def dottedName (chain : List Node) : String :=
  String.intercalate "." (chain.reverse.map Node.name)

namespace Symbol

/-- The names from the outermost container that is not global down to the symbol, joined by
full stops. -/
def qualifiedName (s : Symbol) : String := dottedName (belowGlobal s.lineage)

/-- The kind and the qualified name. -/
def display (s : Symbol) : String := s.kind.display ++ " " ++ s.qualifiedName

/-- A description for diagnostics. -/
def describe (s : Symbol) : String :=
  "Symbol \x7b name: " ++ Text.quoted s.qualifiedName ++ ", kind: " ++ s.kind.name
    ++ ", compilation: " ++ s.compilation.describe ++ ", id: " ++ toString s.id ++ " \x7d"

end Symbol

end SymbolSearch
