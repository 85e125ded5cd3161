import SymbolSearch.Pattern.Basic

/-!
# How long matches are

The extent of a pattern bounds the number of bytes of the texts that it matches, and
tells whether it can match at the start or at the end of a text only.
-/

set_option autoImplicit false

namespace SymbolSearch.Pattern

/-- What is known of the texts that a pattern matches. -/
structure Extent where
  /-- The least number of bytes, if the pattern can match. -/
  least : Option Nat
  /-- The greatest number of bytes, if there is one. -/
  most : Option Nat
  /-- Matches begin at the start of the text. -/
  fromStart : Bool
  /-- Matches end at the end of the text. -/
  toEnd : Bool

namespace Extent

/-- The extent of texts of a given number of bytes. -/
def exactly (n : Nat) : Extent := ⟨some n, some n, false, false⟩

/-- The number of bytes of a character. -/
def bytesOf (n : Nat) : Nat := (Char.ofNat n).utf8Size

/-- The extent of the members of a set. -/
def ofSet (s : CharSet) : Extent :=
  ⟨s.ranges.head?.map (bytesOf ·.1), s.ranges.getLast?.map (bytesOf ·.2), false, false⟩

/-- The extent of a place in the text. -/
def ofPlace (l : Look) : Extent := ⟨some 0, some 0, l == .textStart, l == .textEnd⟩

/-- The extent of repeated matches. -/
def repeated (e : Extent) (least : Nat) (most : Option Nat) : Extent where
  least := e.least.map (· * least)
  most := most.bind fun n => e.most.map (· * n)
  fromStart := 0 < least && e.fromStart
  toEnd := 0 < least && e.toEnd

/-- A condition on one of the extents, before which only empty matches stand. -/
def leading (condition : Extent → Bool) : List Extent → Bool
  | [] => false
  | e :: es => condition e || (e.most == some 0 && leading condition es)

/-- The sum of numbers. -/
def total (ns : List Nat) : Nat := ns.foldl Nat.add 0

/-- The extent of matches in a row. -/
def inOrder (es : List Extent) : Extent where
  least := (es.mapM Extent.least).map total
  most := (es.mapM Extent.most).map total
  fromStart := leading Extent.fromStart es
  toEnd := leading Extent.toEnd es.reverse

/-- The extent of matches of one kind or another. -/
def oneOf (es : List Extent) : Extent where
  least := (es.mapM Extent.least).bind List.min?
  most := (es.mapM Extent.most).bind List.max?
  fromStart := es.all Extent.fromStart
  toEnd := es.all Extent.toEnd

end Extent

mutual

/-- The extent of a pattern. -/
def extent : Pattern → Extent
  | .empty => .exactly 0
  | .literal cs => .exactly (String.ofList cs).utf8ByteSize
  | .chars s => .ofSet s
  | .place l => .ofPlace l
  | .times p least most _ => p.extent.repeated least most
  | .group _ p => p.extent
  | .append ps => .inOrder (extents ps)
  | .either ps => .oneOf (extents ps)

/-- The extents of patterns. -/
def extents : List Pattern → List Extent
  | [] => []
  | p :: ps => p.extent :: extents ps

end

end SymbolSearch.Pattern
