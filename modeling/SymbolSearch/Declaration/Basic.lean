import SymbolSearch.Kind

/-!
# Declarations

A declaration is a tree: what it declares and the declarations inside it. Source
documents and images of compiled assemblies both consist of such trees. The flag
`implicit` marks what a compiler adds by itself, `accessor` the methods behind
properties and events.
-/

set_option autoImplicit false

namespace SymbolSearch

/-- A declaration and the declarations inside it. -/
structure Declaration where
  name : String
  kind : Kind
  arity : UInt32
  implicit : Bool
  accessor : Bool
  children : List Declaration

namespace Declaration

mutual

/-- The declaration and all declarations inside it, each before its children. -/
def preorder : Declaration → List Declaration
  | ⟨name, kind, arity, implicit, accessor, children⟩ =>
      ⟨name, kind, arity, implicit, accessor, children⟩ :: preorderList children

/-- All declarations in a row of trees, each before its children. -/
def preorderList : List Declaration → List Declaration
  | [] => []
  | d :: ds => preorder d ++ preorderList ds

end

/-- The number of declarations in a tree. -/
def size (d : Declaration) : Nat := d.preorder.length

end Declaration

end SymbolSearch
