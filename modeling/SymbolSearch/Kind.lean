import SymbolSearch.Bytes.Codec
import SymbolSearch.Json.Reader

/-!
# Kinds of declarations

What a declaration declares. A kind has a name in data files, a number in binary data
and a wording for people; it belongs to namespaces, types, members or none of these.
-/

set_option autoImplicit false

namespace SymbolSearch

/-- What a declaration declares. -/
inductive Kind where
  | nameSpace
  | classType
  | structType
  | interfaceType
  | enumType
  | delegateType
  | method
  | property
  | event
  | field
  | typeParameter
  | alias
  deriving DecidableEq, Repr

namespace Kind

/-- All kinds, in the order of their numbers. -/
def all : List Kind :=
  [.nameSpace, .classType, .structType, .interfaceType, .enumType, .delegateType, .method,
    .property, .event, .field, .typeParameter, .alias]

/-- The name of a kind in data files. -/
def name : Kind → String
  | .nameSpace => "Namespace"
  | .classType => "Class"
  | .structType => "Struct"
  | .interfaceType => "Interface"
  | .enumType => "Enum"
  | .delegateType => "Delegate"
  | .method => "Method"
  | .property => "Property"
  | .event => "Event"
  | .field => "Field"
  | .typeParameter => "TypeParameter"
  | .alias => "Alias"

/-- The kind with a name. -/
def ofName? (name : String) : Option Kind := all.find? fun kind => kind.name = name

/-- The wording for people. -/
def display : Kind → String
  | .nameSpace => "namespace"
  | .classType => "class"
  | .structType => "struct"
  | .interfaceType => "interface"
  | .enumType => "enum"
  | .delegateType => "delegate"
  | .method => "method"
  | .property => "property"
  | .event => "event"
  | .field => "field"
  | .typeParameter => "type parameter"
  | .alias => "alias"

/-- A namespace. -/
def isNamespace : Kind → Bool
  | .nameSpace => true
  | _ => false

/-- A named type. -/
def isType : Kind → Bool
  | .classType | .structType | .interfaceType | .enumType | .delegateType => true
  | _ => false

/-- A member that a search can return. Type parameters and aliases are none. -/
def isMember : Kind → Bool
  | .method | .property | .event | .field => true
  | _ => false

/-- A kind that an index holds. -/
def isDeclarable (kind : Kind) : Bool := kind.isNamespace || kind.isType || kind.isMember

/-! ## Written forms -/

/-- The number of a kind. -/
def number : Kind → Nat
  | .nameSpace => 0
  | .classType => 1
  | .structType => 2
  | .interfaceType => 3
  | .enumType => 4
  | .delegateType => 5
  | .method => 6
  | .property => 7
  | .event => 8
  | .field => 9
  | .typeParameter => 10
  | .alias => 11

/-- The binary form of a kind. -/
def encode (kind : Kind) : List UInt8 := Bytes.encode32 kind.number

/-- Read the binary form of a kind. -/
def decoder : Bytes.Decoder Kind := do
  let n ← Bytes.Decoder.word32
  match all[n]? with
  | some kind => pure kind
  | none => Bytes.Decoder.fail (.noSuchVariant n all.length)

/-- Read the name of a kind. -/
def reader (depth : Nat) : Json.Reader Kind := Json.Reader.variant depth ofName?

end Kind

end SymbolSearch
