import SymbolSearch.Declaration.Basic
import SymbolSearch.Path

/-!
# Declarations as JSON

A declaration is an object, or the list of its fields; only name and kind are required.
-/

set_option autoImplicit false

namespace SymbolSearch

open SymbolSearch.Json

namespace Declaration

/-- The fields of a declaration as far as they have been read. -/
structure Fields where
  name : Option String
  kind : Option Kind
  arity : Option Nat
  implicit : Option Bool
  accessor : Option Bool
  children : Option (List Declaration)

/-- A declaration with the given fields. -/
def ofFields (name : String) (kind : Kind) (arity : Option Nat) (implicit accessor : Option Bool)
    (children : Option (List Declaration)) : Declaration :=
  ⟨name, kind, UInt32.ofNat (arity.getD 0), implicit.getD false, accessor.getD false,
    children.getD []⟩

/-- The record of a declaration, given readers for its kind and its children. -/
def fieldRecord (kind : Reader Kind) (children : Reader (List Declaration)) :
    Reader.Record Fields Declaration where
  empty := ⟨none, none, none, none, none, none⟩
  member name seen :=
    match name with
    | "name" => do
        let name ← Reader.once seen.name Reader.text
        pure { seen with name }
    | "kind" => do
        let kind ← Reader.once seen.kind kind
        pure { seen with kind }
    | "arity" => do
        let arity ← Reader.once seen.arity (Reader.natural UInt32.size)
        pure { seen with arity }
    | "implicitly_declared" => do
        let implicit ← Reader.once seen.implicit Reader.bool
        pure { seen with implicit }
    | "accessor" => do
        let accessor ← Reader.once seen.accessor Reader.bool
        pure { seen with accessor }
    | "children" => do
        let children ← Reader.once seen.children children
        pure { seen with children }
    | _ => do
        Reader.unknown
        pure seen
  build seen := do
    let name ← Reader.required seen.name
    let kind ← Reader.required seen.kind
    pure (ofFields name kind seen.arity seen.implicit seen.accessor seen.children)
  fields := do
    let name ← Reader.required (← Reader.item? true Reader.text)
    let kind ← Reader.required (← Reader.item? false kind)
    let arity ← Reader.item? false (Reader.natural UInt32.size)
    let implicit ← Reader.item? false Reader.bool
    let accessor ← Reader.item? false Reader.bool
    let children ← Reader.item? false children
    pure (ofFields name kind arity implicit accessor children)

/-- A declaration of at most `depth` nested containers. -/
def reader : (depth : Nat) → Reader Declaration
  | 0 => Reader.record 0 (fieldRecord (Kind.reader 0) (Reader.fail .malformed))
  | 1 => Reader.record 1 (fieldRecord (Kind.reader 0) (Reader.list 0 (Reader.fail .malformed)))
  | depth + 2 =>
      Reader.record (depth + 2)
        (fieldRecord (Kind.reader (depth + 1)) (Reader.list (depth + 1) (reader depth)))

end Declaration

/-- A source document: where it is and the declarations at its top level. -/
structure Document where
  path : Path
  declarations : List Declaration

namespace Document

/-- The record of a document. -/
def fieldRecord (depth : Nat) :
    Reader.Record (Option String × Option (List Declaration)) Document where
  empty := (none, none)
  member name seen :=
    match name with
    | "path" => do
        let path ← Reader.once seen.1 Reader.text
        pure (path, seen.2)
    | "declarations" => do
        let declarations ← Reader.once seen.2 (Reader.list depth (Declaration.reader (depth - 1)))
        pure (seen.1, declarations)
    | _ => do
        Reader.unknown
        pure seen
  build seen := do
    let path ← Reader.required seen.1
    let declarations ← Reader.required seen.2
    pure ⟨⟨path⟩, declarations⟩
  fields := do
    let path ← Reader.required (← Reader.item? true Reader.text)
    let declarations ← Reader.required
      (← Reader.item? false (Reader.list depth (Declaration.reader (depth - 1))))
    pure ⟨⟨path⟩, declarations⟩

/-- A document of at most `depth` nested containers. -/
def reader (depth : Nat) : Reader Document := Reader.record depth (fieldRecord (depth - 1))

end Document

end SymbolSearch
