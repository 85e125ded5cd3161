import SymbolSearch.Pattern.Encoding
import SymbolSearch.Pattern.Normal
import Std.Data.HashMap

/-!
# The size of the automata of a pattern

A pattern stands for two automata over bytes: one reads texts forwards and keeps the
bounds of groups, the other one reads them backwards. `Pattern.fits` tells whether both
stay within the limit. A state takes thirty-two bytes, and in addition eight for each of
several links that depend on the next byte and four for each of the states that it leads
to without reading.

How many states a set of characters takes depends on which of them are shared. The
states of a set are kept in slots; one with the same links as the state in its slot is
not added again, and any other one takes the slot over.
-/

set_option autoImplicit false

namespace SymbolSearch.Pattern

/-! ## Construction -/

/-- The number of states of an automaton, and of the bytes that their links take. -/
structure Size where
  states : Nat
  links : Nat

/-- The number of bytes that an automaton takes. -/
def Size.bytes (s : Size) : Nat := 32 * s.states + s.links

/-- The greatest number of bytes that an automaton may take. -/
def sizeLimit : Nat := 10 * 1024 * 1024

/-- The construction of an automaton, which ends when it grows too large. -/
abbrev Construction := StateT Size Option

/-- Add states and links; the number of the first new state. -/
def add (states links : Nat) : Construction Nat := fun size =>
  let grown : Size := ⟨size.states + states, size.links + links⟩
  if grown.bytes ≤ sizeLimit then some (size.states, grown) else none

/-- The same construction several times. -/
def repeatedly (construction : Construction Unit) : Nat → Construction Unit
  | 0 => pure ()
  | n + 1 => do
      construction
      repeatedly construction n

/-! ## Shared states of sets -/

/-- A link to another state for the bytes of a range. -/
structure Link where
  range : ByteRange
  target : Nat
  deriving DecidableEq

/-- The links and the number of the state in each slot. -/
abbrev Slots := Std.HashMap Nat (List Link × Nat)

/-- The slot, out of `count`, for a state that the given numbers describe. -/
def slotOf (count : Nat) (numbers : List UInt64) : Nat :=
  let hash := numbers.foldl (fun h n => (h ^^^ n) * 1099511628211) 14695981039346656037
  hash.toNat % count

/-- The state with the given links, added with `size` bytes for them unless the slot holds
it. -/
def share (slot : Nat) (links : List Link) (size : Nat) : StateT Slots Construction Nat :=
  fun slots => do
    let fresh := do
      let state ← add 1 size
      pure (state, slots.insert slot (links, state))
    match slots[slot]? with
    | some (known, state) => if known = links then pure (state, slots) else fresh
    | none => fresh

/-- Sequences grouped by their first range, without it. -/
def branches : List ByteSequence → List (ByteRange × List ByteSequence)
  | [] => []
  | [] :: seqs => branches seqs
  | (range :: rest) :: seqs =>
      match branches seqs with
      | [] => [(range, [rest])]
      | (range', rests) :: more =>
          if range = range' then (range, rest :: rests) :: more
          else (range, [rest]) :: (range', rests) :: more

/-- The slot of a state with the given links. -/
def linksSlot (links : List Link) : Nat :=
  slotOf 10000 <| links.flatMap fun link =>
    [link.range.first.toUInt64, link.range.last.toUInt64, UInt64.ofNat link.target]

/-- The state from which sequences of at most `depth` ranges lead to `target`. Later states
are added before those that lead to them. -/
def forwardState (target : Nat) : (depth : Nat) → List ByteSequence →
    StateT Slots Construction Nat
  | 0, _ => pure target
  | depth + 1, seqs => do
      if seqs.all List.isEmpty then pure target
      else do
        let links ← (branches seqs).mapM fun branch => do
          let next ← forwardState target depth branch.2
          pure ⟨branch.1, next⟩
        share (linksSlot links) links (8 * links.length)

/-- The states for a set that is read forwards. -/
def forwardSet (seqs : List ByteSequence) : Construction Unit := do
  let target ← add 1 0
  let _ ← (forwardState target 4 seqs).run ∅

/-- The state from which the ranges of a sequence, last one first, lead to `target`. -/
def backwardState (target : Nat) (seq : ByteSequence) : StateT Slots Construction Nat :=
  seq.foldlM (fun next range =>
    share (slotOf 1000 [UInt64.ofNat next, range.first.toUInt64, range.last.toUInt64])
      [⟨range, next⟩] 0) target

/-- The states for a set that is read backwards. -/
def backwardSet (seqs : List ByteSequence) : Construction Unit := do
  let target ← add 2 0
  let build : StateT Slots Construction Unit := seqs.forM fun seq => do
    let _ ← backwardState (target + 1) seq
    let _ ← add 0 4
  let _ ← build.run ∅

/-! ## Choices between words -/

/-- Words split at the empty ones, which are left out. -/
def splitAtEmpty : List (List UInt8) → List (List (List UInt8))
  | [] => [[]]
  | [] :: words => [] :: splitAtEmpty words
  | word :: words =>
      match splitAtEmpty words with
      | [] => [[word]]
      | chunk :: chunks => (word :: chunk) :: chunks

/-- The parts of a list of words between which an empty word ends a match. Empty words in
front count once. -/
def chunks (words : List (List UInt8)) : List (List (List UInt8)) :=
  match words with
  | [] :: _ => [] :: splitAtEmpty (words.dropWhile List.isEmpty)
  | _ => splitAtEmpty words

/-- The rests of the words that begin with each of the first bytes. -/
def restsByByte (words : List (List UInt8)) : List (List (List UInt8)) :=
  (words.filterMap List.head?).eraseDups.map fun b =>
    words.filterMap fun word => if word.head? = some b then some word.tail else none

/-- The sum of two sizes. -/
def Size.plus (s t : Size) : Size := ⟨s.states + t.states, s.links + t.links⟩

/-- The size of a tree for words of fewer than `depth` bytes, without the state at its end. Each
node has a state for every part of its words and one that leads to all of them. -/
def treeSize : (depth : Nat) → List (List UInt8) → Size
  | 0, _ => ⟨0, 0⟩
  | depth + 1, words =>
      if words.all List.isEmpty then ⟨0, 0⟩
      else
        let parts := chunks words
        let sizes := parts.map fun part =>
          let rests := restsByByte part
          let inner := (rests.map (treeSize depth)).foldl Size.plus ⟨0, 0⟩
          match rests.length with
          | 0 => inner
          | 1 => inner.plus ⟨1, 4⟩
          | n => inner.plus ⟨1, 8 * n + 4⟩
        (sizes.foldl Size.plus ⟨0, 0⟩).plus ⟨1, 4 * (parts.length - 1)⟩

/-! ## Plans -/

/-- The direction in which an automaton reads. -/
inductive Direction where
  | forwards
  | backwards
  deriving DecidableEq

/-- A plan of an automaton, whose parts are added in the order in which they stand. -/
inductive Plan where
  | states (count links : Nat)
  | set (direction : Direction) (seqs : List ByteSequence)
  | row (parts : List Plan)
  | copies (n : Nat) (part : Plan)

namespace Plan

/-- The plan for a set. All of ASCII takes one state and the one that it leads to. -/
def ofSet (direction : Direction) (s : CharSet) : Plan :=
  if s.isAscii then .states 2 (8 * s.ranges.length) else .set direction s.byteSequences

/-- The plan for one of several words. -/
def ofWords (direction : Direction) (words : List (List Char)) : Plan :=
  let encodings := words.map fun word => word.flatMap String.utf8EncodeChar
  let encodings := if direction = .backwards then encodings.map List.reverse else encodings
  let longest := (encodings.map List.length).foldl max 0
  let size := treeSize (longest + 1) encodings
  .states (size.states + 1) size.links

/-- The plan for a part that is repeated; `reads` tells that each time takes at least one byte,
so that one state can lead back as well as on. -/
def repeated (part : Plan) (reads : Bool) (least : Nat) (most : Option Nat) : Plan :=
  let exactly n := if n = 0 then .states 1 0 else .copies n part
  match most with
  | none =>
      if 0 < least then .row [exactly least, .states 1 8]
      else if reads then .row [.states 1 8, part]
      else .row [part, .states 3 16]
  | some n =>
      if n = least then exactly n
      else if least = 0 && n = 1 then .row [.states 1 8, part, .states 1 0]
      else .row [exactly least, .states 1 0, .copies (n - least) (.row [.states 1 8, part])]

/-- The plan for one of several parts: the states that join them follow the second one. -/
def oneOf (parts : List Plan) : Plan :=
  .row (parts.take 2 ++ [.states 2 (4 * parts.length)] ++ parts.drop 2)

mutual

/-- The construction of what is planned. -/
def build : Plan → Construction Unit
  | .states count links => discard (add count links)
  | .set .forwards seqs => forwardSet seqs
  | .set .backwards seqs => backwardSet seqs
  | .row parts => buildAll parts
  | .copies n part => repeatedly part.build n

/-- The construction of parts in order. -/
def buildAll : List Plan → Construction Unit
  | [] => pure ()
  | part :: parts => do
      part.build
      buildAll parts

end

end Plan

/-- The characters of a literal. -/
def asLiteral? : Pattern → Option (List Char)
  | .literal cs => some cs
  | _ => none

mutual

/-- The plan of the automaton of a pattern. Only reading forwards keeps the bounds of
groups. -/
def plan (direction : Direction) : Pattern → Plan
  | .empty => .states 1 0
  | .literal cs => .states (String.ofList cs).utf8ByteSize 0
  | .chars s => .ofSet direction s
  | .place _ => .states 1 0
  | .times p least most _ =>
      (p.plan direction).repeated (0 < p.extent.least.getD 0) least most
  | .group _ p =>
      match direction with
      | .forwards => .row [.states 1 0, p.plan direction, .states 1 0]
      | .backwards => p.plan direction
  | .append ps =>
      let parts := plans direction ps
      .row (if direction = .backwards then parts.reverse else parts)
  | .either ps =>
      match ps.mapM asLiteral? with
      | some words => .ofWords direction words
      | none => .oneOf (plans direction ps)

/-- The plans of several patterns. -/
def plans (direction : Direction) : List Pattern → List Plan
  | [] => []
  | p :: ps => p.plan direction :: plans direction ps

end

/-- The plan for finding a pattern anywhere in a text. What can only match where reading
begins needs no states that pass over the bytes before it. -/
def searchPlan (direction : Direction) (p : Pattern) : Plan :=
  let anchored :=
    match direction with
    | .forwards => p.extent.fromStart
    | .backwards => p.extent.toEnd
  .row [if anchored then .states 1 0 else .states 3 16,
    (Pattern.group 0 p).plan direction, .states 1 0]

/-- The automata of the pattern stay within the limit. -/
def fits (p : Pattern) : Bool :=
  [Direction.forwards, .backwards].all fun direction =>
    ((p.searchPlan direction).build ⟨0, 0⟩).isSome

end SymbolSearch.Pattern
