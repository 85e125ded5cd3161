import SymbolSearch.Declaration.Binary
import SymbolSearch.Declaration.Json
import SymbolSearch.Error
import SymbolSearch.Version

/-!
# Images of assemblies

An image is what is known of a compiled assembly: its name and the declarations it
exports. Its binary form begins with a marker, which is checked after all has been read.
-/

set_option autoImplicit false

namespace SymbolSearch

open SymbolSearch.Bytes

/-- What is known of a compiled assembly. -/
structure Image where
  format : UInt32
  assemblyName : String
  declarations : List Declaration

namespace Image

/-- An image in the readable format. -/
def new (assemblyName : String) (declarations : List Declaration) : Image :=
  ⟨formatMarker, assemblyName, declarations⟩

/-- The binary form of an image. -/
def encode (image : Image) : List UInt8 :=
  encode32 image.format.toNat ++ encodeText image.assemblyName
    ++ encode64 image.declarations.length ++ Declaration.encodeEach image.declarations

/-- Read the fields of an image. -/
def decoder : Decoder Image := do
  let format ← Decoder.word32
  let assemblyName ← Decoder.text
  let declarations ← Declaration.listDecoder
  pure ⟨UInt32.ofNat format, assemblyName, declarations⟩

/-- The image at the front of a sequence of bytes. -/
def decode (bytes : List UInt8) : Except Error Image :=
  match decoder bytes with
  | .error fault => .error (.encoding fault)
  | .ok (image, _) =>
      if image.format = formatMarker then .ok image
      else .error (.imageFormat image.format.toNat)

/-! ## JSON -/

/-- The record of an image. -/
def fieldRecord (depth : Nat) :
    Json.Reader.Record (Option Nat × Option String × Option (List Declaration)) Image where
  empty := (none, none, none)
  member name seen :=
    match name with
    | "format" => do
        let format ← Json.Reader.once seen.1 (Json.Reader.natural UInt32.size)
        pure (format, seen.2)
    | "assembly_name" => do
        let assemblyName ← Json.Reader.once seen.2.1 Json.Reader.text
        pure (seen.1, assemblyName, seen.2.2)
    | "declarations" => do
        let declarations ← Json.Reader.once seen.2.2
          (Json.Reader.list depth (Declaration.reader (depth - 1)))
        pure (seen.1, seen.2.1, declarations)
    | _ => do
        Json.Reader.unknown
        pure seen
  build seen := do
    let format ← Json.Reader.required seen.1
    let assemblyName ← Json.Reader.required seen.2.1
    let declarations ← Json.Reader.required seen.2.2
    pure ⟨UInt32.ofNat format, assemblyName, declarations⟩
  fields := do
    let format ← Json.Reader.required
      (← Json.Reader.item? true (Json.Reader.natural UInt32.size))
    let assemblyName ← Json.Reader.required (← Json.Reader.item? false Json.Reader.text)
    let declarations ← Json.Reader.required
      (← Json.Reader.item? false (Json.Reader.list depth (Declaration.reader (depth - 1))))
    pure ⟨UInt32.ofNat format, assemblyName, declarations⟩

/-- An image of at most `depth` nested containers. The marker is not checked. -/
def reader (depth : Nat) : Json.Reader Image := Json.Reader.record depth (fieldRecord (depth - 1))

end Image

end SymbolSearch
