import SymbolSearch.Declaration.Basic

/-!
# Declarations as bytes

The fields of a declaration follow each other in order, its children last. A reader of
a tree gets as many levels as there are bytes: every level takes some.
-/

set_option autoImplicit false

namespace SymbolSearch.Declaration

open SymbolSearch.Bytes

mutual

/-- The binary form of a declaration. -/
def encode : Declaration → List UInt8
  | ⟨name, kind, arity, implicit, accessor, children⟩ =>
      encodeText name ++ kind.encode ++ encode32 arity.toNat ++ encodeBool implicit
        ++ encodeBool accessor ++ encode64 children.length ++ encodeEach children

/-- The binary forms of declarations, one after the other. -/
def encodeEach : List Declaration → List UInt8
  | [] => []
  | d :: ds => encode d ++ encodeEach ds

end

/-- Read a declaration of at most `levels` levels. -/
def decoderOfLevels : (levels : Nat) → Decoder Declaration
  | 0 => Decoder.fail .endOfInput
  | levels + 1 => do
      let name ← Decoder.text
      let kind ← Kind.decoder
      let arity ← Decoder.word32
      let implicit ← Decoder.bool
      let accessor ← Decoder.bool
      let children ← Decoder.list (decoderOfLevels levels)
      pure ⟨name, kind, UInt32.ofNat arity, implicit, accessor, children⟩

/-- Read declarations behind their number. -/
def listDecoder : Decoder (List Declaration) := fun bytes =>
  Decoder.list (decoderOfLevels (bytes.length + 1)) bytes

end SymbolSearch.Declaration
