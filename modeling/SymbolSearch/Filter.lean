import SymbolSearch.Kind

/-!
# Filters

A filter selects among namespaces, types and members. A kind that is none of these is
selected by no filter.
-/

set_option autoImplicit false

namespace SymbolSearch

/-- Which of namespaces, types and members are selected. -/
structure Filter where
  namespaces : Bool
  types : Bool
  members : Bool
  deriving DecidableEq, Repr

namespace Filter

/-- Nothing is selected. -/
def none : Filter := ⟨false, false, false⟩

/-- Namespaces. -/
def onlyNamespaces : Filter := ⟨true, false, false⟩

/-- Types. -/
def onlyTypes : Filter := ⟨false, true, false⟩

/-- Members. -/
def onlyMembers : Filter := ⟨false, false, true⟩

/-- Types and members. -/
def typesAndMembers : Filter := ⟨false, true, true⟩

/-- Namespaces, types and members. -/
def all : Filter := ⟨true, true, true⟩

/-- The filter with a name. -/
def ofName? (name : String) : Option Filter :=
  match name with
  | "NONE" => some none
  | "NAMESPACE" => some onlyNamespaces
  | "TYPE" => some onlyTypes
  | "MEMBER" => some onlyMembers
  | "TYPE_AND_MEMBER" => some typesAndMembers
  | "ALL" => some all
  | _ => Option.none

/-- What either filter selects. -/
def union (f g : Filter) : Filter :=
  ⟨f.namespaces || g.namespaces, f.types || g.types, f.members || g.members⟩

/-- What both filters select. -/
def inter (f g : Filter) : Filter :=
  ⟨f.namespaces && g.namespaces, f.types && g.types, f.members && g.members⟩

/-- Everything that `g` selects is selected by `f`. -/
def contains (f g : Filter) : Bool := f.inter g = g

/-- Nothing is selected. -/
def isEmpty (f : Filter) : Bool := !f.namespaces && !f.types && !f.members

/-- The choices as the bits of a number. -/
def bits (f : Filter) : Nat :=
  (if f.namespaces then 1 else 0) + (if f.types then 2 else 0) + (if f.members then 4 else 0)

/-- The filter selects a kind. -/
def selects (f : Filter) (kind : Kind) : Bool :=
  (f.namespaces && kind.isNamespace) || (f.types && kind.isType) || (f.members && kind.isMember)

/-- The filter selects a kind, or the kind is neither namespace nor type and members are
selected. -/
def admits (f : Filter) (kind : Kind) : Bool :=
  if kind.isNamespace then f.namespaces else if kind.isType then f.types else f.members

/-- A description for diagnostics. -/
def describe (f : Filter) : String :=
  "SymbolFilter(" ++ String.intercalate " | "
    ((if f.namespaces then ["Namespace"] else []) ++ (if f.types then ["Type"] else [])
      ++ (if f.members then ["Member"] else [])) ++ ")"

end Filter

end SymbolSearch
