import SymbolSearch.Pattern.NamedSet

/-!
# Patterns and how they match

A pattern is built from characters, sets of characters, conditions on a place between
two characters, rows, alternatives and repetition. Matching follows all ways at once:
a set of places in the text, written as the bits of a number, is carried through the
pattern, and the text matches if any place is left.
-/

set_option autoImplicit false

namespace SymbolSearch

/-- A condition on the place between two characters. -/
inductive Pattern.Look where
  | textStart
  | textEnd
  | lineStart (carriageReturns : Bool)
  | lineEnd (carriageReturns : Bool)
  | wordBoundary (unicode : Bool)
  | noWordBoundary (unicode : Bool)
  | wordStart (unicode : Bool)
  | wordEnd (unicode : Bool)
  | noWordBefore (unicode : Bool)
  | noWordAfter (unicode : Bool)
  deriving DecidableEq

/-- A pattern for a part of a text. -/
inductive Pattern where
  | empty
  | literal (cs : List Char)
  | chars (s : Pattern.CharSet)
  | place (l : Pattern.Look)
  /-- At least `least` times, and at most `most` times if there is a bound. A greedy
  repetition prefers many times to few, which no text tells apart. -/
  | times (p : Pattern) (least : Nat) (most : Option Nat) (greedy : Bool)
  /-- A group with a number, which matches what its inside matches. -/
  | group (number : Nat) (p : Pattern)
  | append (ps : List Pattern)
  | either (ps : List Pattern)

namespace Pattern

/-- A neighbouring character exists and belongs to a word. -/
def inWord (unicode : Bool) : Option Char → Bool
  | none => false
  | some c => (wordSet unicode).contains c

/-- The condition holds between the characters `before` and `after`, which are missing at
the ends of the text. -/
def Look.holds (before after : Option Char) : Look → Bool
  | .textStart => before.isNone
  | .textEnd => after.isNone
  | .lineStart false => before.isNone || before == some '\n'
  | .lineStart true =>
      before.isNone || before == some '\n' || (before == some '\r' && !(after == some '\n'))
  | .lineEnd false => after.isNone || after == some '\n'
  | .lineEnd true =>
      after.isNone || after == some '\r' || (after == some '\n' && !(before == some '\r'))
  | .wordBoundary u => inWord u before != inWord u after
  | .noWordBoundary u => inWord u before == inWord u after
  | .wordStart u => !inWord u before && inWord u after
  | .wordEnd u => inWord u before && !inWord u after
  | .noWordBefore u => !inWord u before
  | .noWordAfter u => !inWord u after

/-! ## Sets of places -/

/-- The number whose bits are the given truth values, the first one lowest. -/
def bits : List Bool → Nat
  | [] => 0
  | b :: bs => (if b then 1 else 0) + 2 * bits bs

/-- The places before a member of the set. -/
def setPlaces (s : CharSet) (cs : List Char) : Nat := bits (cs.map s.contains)

/-- The places after the character `c`, which stands at one of the given places. -/
def afterChar (cs : List Char) (places : Nat) (c : Char) : Nat :=
  (places &&& bits (cs.map (· == c))) <<< 1

/-- The truth of a condition at each place, from behind the character `before` on. -/
def lookList (l : Look) : Option Char → List Char → List Bool
  | before, [] => [l.holds before none]
  | before, c :: cs => l.holds before (some c) :: lookList l (some c) cs

/-- The places where a condition holds. -/
def lookPlaces (l : Look) (cs : List Char) : Nat := bits (lookList l none cs)

/-- `f` applied `n` times, or until nothing changes. -/
def repeatStep (f : Nat → Nat) : Nat → Nat → Nat
  | 0, places => places
  | n + 1, places =>
      let next := f places
      if next = places then places else repeatStep f n next

mutual

/-- The places after the pattern, from any of the given places in the text `cs`. -/
def after (cs : List Char) : Pattern → Nat → Nat
  | .empty, places => places
  | .literal word, places => word.foldl (afterChar cs) places
  | .chars s, places => (places &&& setPlaces s cs) <<< 1
  | .place l, places => places &&& lookPlaces l cs
  | .times p least most _, places =>
      let extra := match most with
        | none => cs.length + 1
        | some n => n - least
      repeatStep (fun m => m ||| p.after cs m) extra (repeatStep (p.after cs) least places)
  | .group _ p, places => p.after cs places
  | .append ps, places => afterAll cs ps places
  | .either ps, places => afterAny cs ps places

/-- The places after all patterns in a row. -/
def afterAll (cs : List Char) : List Pattern → Nat → Nat
  | [], places => places
  | p :: ps, places => afterAll cs ps (p.after cs places)

/-- The places after any of the patterns. -/
def afterAny (cs : List Char) : List Pattern → Nat → Nat
  | [], _ => 0
  | p :: ps, places => p.after cs places ||| afterAny cs ps places

end

/-- Some part of the text matches the pattern. -/
def matchesIn (p : Pattern) (s : String) : Bool :=
  let cs := s.toList
  p.after cs (bits (List.replicate (cs.length + 1) true)) != 0

/-! ## Equality -/

mutual

/-- Two patterns are built alike. -/
def sameAs : Pattern → Pattern → Bool
  | .empty, .empty => true
  | .literal cs, .literal ds => cs == ds
  | .chars s, .chars t => s == t
  | .place l, .place m => l == m
  | .times p least most greedy, .times q least' most' greedy' =>
      least == least' && most == most' && greedy == greedy' && p.sameAs q
  | .group n p, .group m q => n == m && p.sameAs q
  | .append ps, .append qs => allSame ps qs
  | .either ps, .either qs => allSame ps qs
  | _, _ => false

/-- The patterns of two lists are built alike. -/
def allSame : List Pattern → List Pattern → Bool
  | [], [] => true
  | p :: ps, q :: qs => p.sameAs q && allSame ps qs
  | _, _ => false

end

end Pattern

end SymbolSearch
