import SymbolSearch.Compilation

/-!
# Keys

A key says where a symbol is declared without saying in which compilation: the name,
kind, arity and ordinal of each step on the way from the global namespace. Resolving
the key walks the same way in another compilation or assembly.
-/

set_option autoImplicit false

namespace SymbolSearch

/-- One step of a key. -/
structure KeyStep where
  name : String
  kind : Kind
  arity : UInt32
  ordinal : Nat
  deriving DecidableEq, Repr

/-- The steps from the global namespace to a symbol. -/
structure Key where
  steps : List KeyStep
  deriving DecidableEq, Repr

/-- The step to a link in a chain of containers. -/
def Node.step (node : Node) : KeyStep := ⟨node.name, node.kind, node.arity, node.ordinal⟩

/-- The step has the name, kind and arity of the symbol. -/
def KeyStep.names (step : KeyStep) (s : Symbol) : Bool :=
  s.name = step.name && s.kind = step.kind && s.arity = step.arity

namespace Key

/-- The key of a symbol. -/
def ofSymbol (s : Symbol) : Key := ⟨(belowGlobal s.lineage).reverse.map Node.step⟩

/-- Follow the steps of a key from a container on. -/
def follow (members : Symbol → List Symbol) : List KeyStep → Symbol → Option Symbol
  | [], s => some s
  | step :: steps, s =>
      match ((members s).filter step.names)[step.ordinal]? with
      | some m => follow members steps m
      | none => none

/-- The symbol with this key in a compilation. Namespaces are merged ones. -/
def resolve (key : Key) (c : Compilation) : Option Symbol :=
  follow c.membersOf key.steps c.globalNamespace

/-- The symbol with this key among those that an assembly declares. -/
def resolveIn (key : Key) (a : Assembly) : Option Symbol :=
  follow a.membersOf key.steps a.globalNamespace

/-- The text of one step: the name, then the arity and the ordinal unless they are zero. -/
def stepText (step : KeyStep) : String :=
  step.name ++ (if step.arity = 0 then "" else "\x60" ++ toString step.arity.toNat)
    ++ (if step.ordinal = 0 then "" else "#" ++ toString step.ordinal)

/-- The steps joined by full stops. -/
def display (key : Key) : String := String.intercalate "." (key.steps.map stepText)

end Key

/-! ## JSON -/

namespace KeyStep

open SymbolSearch.Json

/-- The fields of a step as far as they have been read. -/
structure Fields where
  name : Option String
  kind : Option Kind
  arity : Option Nat
  ordinal : Option Nat

/-- The record of a step. -/
def fieldRecord (depth : Nat) : Reader.Record Fields KeyStep where
  empty := ⟨none, none, none, none⟩
  member name seen :=
    match name with
    | "name" => do
        let name ← Reader.once seen.name Reader.text
        pure { seen with name }
    | "kind" => do
        let kind ← Reader.once seen.kind (Kind.reader depth)
        pure { seen with kind }
    | "arity" => do
        let arity ← Reader.once seen.arity (Reader.natural UInt32.size)
        pure { seen with arity }
    | "ordinal" => do
        let ordinal ← Reader.once seen.ordinal (Reader.natural UInt32.size)
        pure { seen with ordinal }
    | _ => do
        Reader.unknown
        pure seen
  build seen := do
    let name ← Reader.required seen.name
    let kind ← Reader.required seen.kind
    let arity ← Reader.required seen.arity
    pure ⟨name, kind, UInt32.ofNat arity, seen.ordinal.getD 0⟩
  fields := do
    let name ← Reader.required (← Reader.item? true Reader.text)
    let kind ← Reader.required (← Reader.item? false (Kind.reader depth))
    let arity ← Reader.required (← Reader.item? false (Reader.natural UInt32.size))
    let ordinal ← Reader.item? false (Reader.natural UInt32.size)
    pure ⟨name, kind, UInt32.ofNat arity, ordinal.getD 0⟩

/-- A step of at most `depth` nested containers. -/
def reader (depth : Nat) : Reader KeyStep := Reader.record depth (fieldRecord (depth - 1))

end KeyStep

namespace Key

open SymbolSearch.Json

/-- The record of a key. -/
def fieldRecord (depth : Nat) : Reader.Record (Option (List KeyStep)) Key where
  empty := none
  member name seen :=
    match name with
    | "segments" => Reader.once seen (Reader.list depth (KeyStep.reader (depth - 1)))
    | _ => do
        Reader.unknown
        pure seen
  build seen := do
    let steps ← Reader.required seen
    pure ⟨steps⟩
  fields := do
    let steps ← Reader.required
      (← Reader.item? true (Reader.list depth (KeyStep.reader (depth - 1))))
    pure ⟨steps⟩

/-- A key of at most `depth` nested containers. -/
def reader (depth : Nat) : Reader Key := Reader.record depth (fieldRecord (depth - 1))

end Key

end SymbolSearch
