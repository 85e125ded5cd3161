import SymbolSearch.Bytes.Utf8
import SymbolSearch.Time.Timestamp

/-!
# Binary encoding

Numbers have a fixed width and are written with the least significant byte first; a
text is its length in bytes and then its UTF-8; a list is its length and then its
items; an optional value is preceded by a tag. A decoder consumes bytes from the
front and reports the first fault it meets. Bytes after the value are left over.
-/

set_option autoImplicit false

namespace SymbolSearch.Bytes

/-- Why bytes cannot be decoded. -/
inductive DecodeError where
  /-- The input ends inside a number, a truth value or a tag. -/
  | endOfInput
  /-- The input ends inside the bytes of a text. -/
  | endOfText
  | notUtf8 (fault : Utf8.Fault)
  | notBool (found : UInt8)
  | notTag (found : UInt8)
  | noSuchVariant (found count : Nat)
  | badTimestamp (reason : Time.TimestampError)
  deriving DecidableEq, Repr

/-- The name of the sort of a decoding error. -/
def DecodeError.name : DecodeError → String
  | .endOfInput | .endOfText => "Io"
  | .notUtf8 _ => "InvalidUtf8Encoding"
  | .notBool _ => "InvalidBoolEncoding"
  | .notTag _ => "InvalidTagEncoding"
  | .noSuchVariant .. | .badTimestamp _ => "Custom"

/-- The wording of a decoding error. -/
def DecodeError.message : DecodeError → String
  | .endOfInput => "io error: unexpected end of file"
  | .endOfText => "io error: "
  | .notUtf8 fault => "string is not valid utf8: " ++ fault.message
  | .notBool found =>
      "invalid u8 while decoding bool, expected 0 or 1, found " ++ toString found.toNat
  | .notTag found => "tag for enum is not valid, found " ++ toString found.toNat
  | .noSuchVariant found count =>
      "invalid value: integer \x60" ++ toString found ++ "\x60, expected variant index 0 <= i < "
        ++ toString count
  | .badTimestamp reason => reason.message

/-! ## Writing -/

/-- The `width` low bytes of `n`, the least significant first. -/
def encodeWord : Nat → Nat → List UInt8
  | 0, _ => []
  | width + 1, n => UInt8.ofNat (n % 256) :: encodeWord width (n / 256)

/-- A 32-bit number. -/
def encode32 (n : Nat) : List UInt8 := encodeWord 4 n

/-- A 64-bit number. -/
def encode64 (n : Nat) : List UInt8 := encodeWord 8 n

/-- A truth value in one byte. -/
def encodeBool (b : Bool) : List UInt8 := [if b then 1 else 0]

/-- The UTF-8 of a text. -/
def utf8 (s : String) : List UInt8 := s.toByteArray.data.toList

/-- A text: the number of its bytes, then the bytes. -/
def encodeText (s : String) : List UInt8 := encode64 (utf8 s).length ++ utf8 s

/-- A list: the number of its items, then the items. -/
def encodeList {α : Type} (item : α → List UInt8) (items : List α) : List UInt8 :=
  encode64 items.length ++ items.flatMap item

/-- An optional value behind a tag. -/
def encodeOption {α : Type} (value : α → List UInt8) : Option α → List UInt8
  | none => [0]
  | some a => 1 :: value a

/-! ## Reading -/

/-- A reader of values from the front of a sequence of bytes. -/
abbrev Decoder (α : Type) := StateT (List UInt8) (Except DecodeError) α

namespace Decoder

/-- Give up with an error. -/
def fail {α : Type} (e : DecodeError) : Decoder α := fun _ => .error e

/-- The next byte. -/
def byte : Decoder UInt8
  | [] => .error .endOfInput
  | b :: bs => .ok (b, bs)

/-- A number of `width` bytes, the least significant first. -/
def word : Nat → Decoder Nat
  | 0 => pure 0
  | width + 1 => do
      let low ← byte
      let high ← word width
      pure (low.toNat + 256 * high)

/-- A 32-bit number. -/
def word32 : Decoder Nat := word 4

/-- A 64-bit number. -/
def word64 : Decoder Nat := word 8

/-- A truth value in one byte. -/
def bool : Decoder Bool := do
  let b ← byte
  if b = 0 then pure false else if b = 1 then pure true else fail (.notBool b)

/-- The text with the given UTF-8. -/
def textOfUtf8 (bytes : List UInt8) : Except DecodeError String :=
  match String.fromUTF8? ⟨bytes.toArray⟩ with
  | some s => .ok s
  | none => .error (.notUtf8 ((Utf8.fault? bytes).getD (.cutOff bytes.length)))

/-- A text behind the number of its bytes. -/
def text : Decoder String := do
  let length ← word64
  fun bytes =>
    if bytes.length < length then .error .endOfText
    else (textOfUtf8 (bytes.take length)).map fun s => (s, bytes.drop length)

/-- `n` values in a row. -/
def times {α : Type} (item : Decoder α) : Nat → Decoder (List α)
  | 0 => pure []
  | n + 1 => do
      let a ← item
      let rest ← times item n
      pure (a :: rest)

/-- A list behind the number of its items. -/
def list {α : Type} (item : Decoder α) : Decoder (List α) := do
  let n ← word64
  times item n

/-- An optional value behind a tag. -/
def option {α : Type} (value : Decoder α) : Decoder (Option α) := do
  let tag ← byte
  if tag = 0 then pure none
  else if tag = 1 then do
    let a ← value
    pure (some a)
  else fail (.notTag tag)

end Decoder

end SymbolSearch.Bytes
