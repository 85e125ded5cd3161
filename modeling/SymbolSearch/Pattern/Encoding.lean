import SymbolSearch.Pattern.CharSet

/-!
# Encoded sets of characters

In UTF-8 a range of characters falls into sequences of byte ranges: a text of bytes is the
encoding of a member exactly if each byte lies in the range at its place in one of the
sequences. A range is cut where the length of the encoding changes, at the surrogates,
and then so that each piece either has one leading part or has all continuations of
each of its leading parts.
-/

set_option autoImplicit false

namespace SymbolSearch.Pattern

/-- A range of bytes. -/
structure ByteRange where
  first : UInt8
  last : UInt8
  deriving DecidableEq

/-- Byte ranges in a row. -/
abbrev ByteSequence := List ByteRange

namespace CharSet

/-- The ranges of characters whose encodings have one, two, three and four bytes, without
the surrogates. -/
def lengthRanges : List (Nat × Nat) :=
  [(0, 0x7f), (0x80, 0x7ff), (0x800, 0xd7ff), (0xe000, 0xffff), (0x10000, 0x10ffff)]

/-- A range beyond ASCII cut so that each piece lies within one block of `size` code points or
consists of whole blocks. -/
def cutAtBlocks (size : Nat) (range : Nat × Nat) : List (Nat × Nat) :=
  let (lo, hi) := range
  if hi < 0x80 || lo / size = hi / size then [range]
  else
    let inner := (lo + size - 1) / size * size
    let outer := (hi + 1) / size * size
    [(lo, inner - 1), (inner, outer - 1), (outer, hi)].filter fun piece => piece.1 ≤ piece.2

/-- The pieces of a range whose encodings form one sequence each. -/
def pieces (range : Nat × Nat) : List (Nat × Nat) :=
  (((common [range] lengthRanges).flatMap (cutAtBlocks 64)).flatMap
    (cutAtBlocks 4096)).flatMap (cutAtBlocks 262144)

/-- The encoding of a code point. -/
def encoded (n : Nat) : List UInt8 := String.utf8EncodeChar (Char.ofNat n)

/-- The byte ranges of a piece. -/
def byteSequence (piece : Nat × Nat) : ByteSequence :=
  List.zipWith ByteRange.mk (encoded piece.1) (encoded piece.2)

/-- The sequences of byte ranges of a set, in increasing order. -/
def byteSequences (s : CharSet) : List ByteSequence :=
  (s.ranges.flatMap pieces).map byteSequence

/-- All members are characters of ASCII. -/
def isAscii (s : CharSet) : Bool := s.ranges.all fun range => range.2 < 0x80

end CharSet

end SymbolSearch.Pattern
