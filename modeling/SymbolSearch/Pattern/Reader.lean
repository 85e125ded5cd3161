import SymbolSearch.Pattern.Automaton
import SymbolSearch.Pattern.CaseFold
import SymbolSearch.Text.Quoted

/-!
# Reading patterns

`Pattern.read?` turns the written form of a pattern into a pattern in normal form, and
refuses what is not well-formed, too deeply nested or too large. Flags change how the rest
of a group is read, so the reader carries them along and each part is built with the flags
in force where it stands.
-/

set_option autoImplicit false

namespace SymbolSearch.Pattern

open SymbolSearch.Text

/-- How a part of a pattern is to be understood. -/
structure Flags where
  caseless : Bool
  multiLine : Bool
  dotAll : Bool
  unicode : Bool
  carriageReturns : Bool
  /-- White space and comments between the parts are passed over. -/
  spaced : Bool
  /-- Repetitions are greedy only with a question mark behind them. -/
  swapped : Bool

/-- The flags at the beginning of a pattern. -/
def Flags.initial : Flags := ⟨false, false, false, true, false, false, false⟩

/-- Switch the flag with a letter on or off. -/
def Flags.set? (flags : Flags) (on : Bool) (letter : Char) : Option Flags :=
  match letter with
  | 'i' => some { flags with caseless := on }
  | 'm' => some { flags with multiLine := on }
  | 's' => some { flags with dotAll := on }
  | 'u' => some { flags with unicode := on }
  | 'R' => some { flags with carriageReturns := on }
  | 'x' => some { flags with spaced := on }
  | 'U' => some { flags with swapped := on }
  | _ => none

/-- What is left to read, the flags in force, and the number and names of the groups so
far. -/
structure ReaderState where
  rest : List Char
  flags : Flags
  groups : Nat
  names : List (List Char)

/-- A reader of a part of a pattern. -/
abbrev Reader (α : Type) := StateT ReaderState Option α

namespace Reader

/-! ## Characters -/

/-- Give up. -/
def refuse {α : Type} : Reader α := fun _ => none

/-- The next character. -/
def peek : Reader (Option Char) := fun s => some (s.rest.head?, s)

/-- Pass over `n` characters. -/
def skip (n : Nat) : Reader Unit := fun s => some ((), { s with rest := s.rest.drop n })

/-- The rest after white space and comments, beginning inside a comment if so told. -/
def dropBlanks : (inComment : Bool) → List Char → List Char
  | _, [] => []
  | true, c :: cs => dropBlanks (c ≠ '\n') cs
  | false, c :: cs =>
      if isWhiteSpace c then dropBlanks false cs
      else if c = '#' then dropBlanks true cs
      else c :: cs

/-- Pass over white space and comments if the flags say so. -/
def blanks : Reader Unit := fun s =>
  some ((), if s.flags.spaced then { s with rest := dropBlanks false s.rest } else s)

/-- Take the next character and the blanks behind it. -/
def take : Reader Char := do
  match ← peek with
  | none => refuse
  | some c => do
      skip 1
      blanks
      pure c

/-- The next character has to be `c`; take it and the blanks behind it. -/
def expect (c : Char) : Reader Unit := do
  if (← take) ≠ c then refuse

/-- At most `n` characters that satisfy `p`, with blanks between them. -/
def upTo (p : Char → Bool) : Nat → Reader (List Char)
  | 0 => pure []
  | n + 1 => do
      match ← peek with
      | none => pure []
      | some c =>
          if p c then do
            skip 1
            blanks
            let cs ← upTo p n
            pure (c :: cs)
          else pure []

/-- All characters in front that satisfy `p`, with blanks between them. -/
def allWhile (p : Char → Bool) : Reader (List Char) := do
  upTo p (← get).rest.length

/-! ## Numbers -/

/-- A digit of a number in base ten. -/
def isDigit (c : Char) : Bool := '0' ≤ c && c ≤ '9'

/-- A number below `2 ^ 32` in base ten, with white space around it. -/
def decimal : Reader Nat := do
  modify fun s => { s with rest := trimStart s.rest }
  let digits ← allWhile isDigit
  modify fun s => { s with rest := trimStart s.rest }
  blanks
  let n := digits.foldl (fun n d => n * 10 + (d.toNat - '0'.toNat)) 0
  if digits.isEmpty || 0x100000000 ≤ n then refuse else pure n

/-- The character whose code point has the given hexadecimal digits. -/
def charOfHex (digits : List Char) : Reader Char :=
  let n := digits.foldl (fun n d => n * 16 + (hexValue? d).getD 0) 0
  if h : n.isValidChar then pure (Char.ofNatAux n h) else refuse

/-- A code point of `width` hexadecimal digits, or of any number of them in braces. The
result tells whether the width was fixed. -/
def codePoint (width : Nat) : Reader (Char × Bool) := do
  if (← peek) = some '\x7b' then do
    let _ ← take
    let digits ← allWhile fun c => (hexValue? c).isSome
    expect '\x7d'
    if digits.isEmpty then refuse
    let c ← charOfHex digits
    pure (c, false)
  else do
    let digits ← upTo (fun c => (hexValue? c).isSome) width
    if digits.length < width then refuse
    let c ← charOfHex digits
    pure (c, true)

/-! ## Atoms -/

/-- What a single character or an escape stands for. -/
inductive Atom where
  | char (c : Char)
  | chars (s : CharSet)
  | place (l : Look)

/-- The parts of a text before and after the first occurrence of `mark`. -/
def cutAt (mark : List Char) : List Char → Option (List Char × List Char)
  | [] => none
  | c :: cs =>
      if mark.isPrefixOf (c :: cs) then some ([], (c :: cs).drop mark.length)
      else (cutAt mark cs).map fun parts => (c :: parts.1, parts.2)

/-- The set with a property name, which may be a property with a value. The three signs
between a property and its value mean the same. -/
def propertySet? (name : List Char) : Option CharSet :=
  match cutAt ['!', '='] name with
  | some (property, value) => valueSet? property value
  | none =>
      match cutAt [':'] name with
      | some (property, value) => valueSet? property value
      | none =>
          match cutAt ['='] name with
          | some (property, value) => valueSet? property value
          | none => namedSet? name

/-- The name of a property: one character, or any number of them in braces. -/
def propertyName : Reader (List Char) := do
  match ← take with
  | '\x7b' => do
      let name ← allWhile fun c => c ≠ '\x7d'
      expect '\x7d'
      pure name
  | '\\' => refuse
  | c => pure [c]

/-- The characters with a property, or without it. Only Unicode has properties. -/
def property (negated : Bool) : Reader CharSet := do
  let name ← propertyName
  let flags := (← get).flags
  match propertySet? name with
  | some s =>
      if !flags.unicode then refuse
      let s := if flags.caseless then s.caseless true else s
      pure (s.complementIf negated)
  | none => refuse

/-- A short class or its complement, which without Unicode would hold bytes that are no
characters. -/
def shortClass (negated : Bool) (s : Bool → CharSet) : Reader CharSet := do
  let flags := (← get).flags
  if negated && !flags.unicode then refuse
  pure ((s flags.unicode).complementIf negated)

/-- A character that may follow a backslash to stand for itself. -/
def standsForItself (c : Char) : Bool :=
  c.toNat < 0x80 && !c.isAlphanum && c ≠ '<' && c ≠ '>'

/-- A letter inside the braces of a word boundary. -/
def isBoundaryLetter (c : Char) : Bool := c.isAlpha || c = '-'

/-- A word boundary, whose side may be named in braces. Braces that do not begin with a
letter belong to a repetition. -/
def boundary : Reader Look := do
  let state ← get
  let unicode := state.flags.unicode
  if state.rest.head? ≠ some '\x7b' then pure (.wordBoundary unicode)
  else do
    let _ ← take
    match ← peek with
    | none => refuse
    | some c =>
        if !isBoundaryLetter c then do
          set state
          pure (.wordBoundary unicode)
        else do
          let name ← allWhile isBoundaryLetter
          expect '\x7d'
          match String.ofList name with
          | "start" => pure (.wordStart unicode)
          | "end" => pure (.wordEnd unicode)
          | "start-half" => pure (.noWordBefore unicode)
          | "end-half" => pure (.noWordAfter unicode)
          | _ => refuse

/-- A character given by its code point. Without Unicode two digits name a byte, which
has to be a character by itself. -/
def coded (width : Nat) : Reader Atom := do
  blanks
  let (c, fixed) ← codePoint width
  if fixed && width = 2 && !(← get).flags.unicode && 0x80 ≤ c.toNat then refuse
  pure (.char c)

/-- What an escape stands for, from the character after the backslash on. -/
def escape : Reader Atom := do
  let flags := (← get).flags
  match ← peek with
  | none => refuse
  | some c => do
      skip 1
      match c with
      | 'x' => coded 2
      | 'u' => coded 4
      | 'U' => coded 8
      | 'p' => do
          blanks
          .chars <$> property false
      | 'P' => do
          blanks
          .chars <$> property true
      | 'd' => .chars <$> shortClass false digitSet
      | 'D' => .chars <$> shortClass true digitSet
      | 's' => .chars <$> shortClass false spaceSet
      | 'S' => .chars <$> shortClass true spaceSet
      | 'w' => .chars <$> shortClass false wordSet
      | 'W' => .chars <$> shortClass true wordSet
      | 'a' => pure (.char '\x07')
      | 'f' => pure (.char '\x0c')
      | 't' => pure (.char '\t')
      | 'n' => pure (.char '\n')
      | 'r' => pure (.char '\r')
      | 'v' => pure (.char '\x0b')
      | 'A' => pure (.place .textStart)
      | 'z' => pure (.place .textEnd)
      | 'b' => .place <$> boundary
      | 'B' => pure (.place (.noWordBoundary flags.unicode))
      | '<' => pure (.place (.wordStart flags.unicode))
      | '>' => pure (.place (.wordEnd flags.unicode))
      | c => if standsForItself c then pure (.char c) else refuse

/-! ## Sets in brackets -/

/-- A set together with the nesting of brackets, unions and operations in it. -/
structure ClassPart where
  set : CharSet
  height : Nat

/-- An operation between two sets in brackets. -/
inductive ClassOperation where
  | inter
  | diff
  | symmDiff

/-- The operation with a doubled sign. -/
def operation? : List Char → Option ClassOperation
  | '&' :: '&' :: _ => some .inter
  | '-' :: '-' :: _ => some .diff
  | '~' :: '~' :: _ => some .symmDiff
  | _ => none

/-- The result of an operation. -/
def ClassOperation.apply : ClassOperation → CharSet → CharSet → CharSet
  | .inter => .inter
  | .diff => .diff
  | .symmDiff => .symmDiff

/-- A set made insensitive to letter case if the flags say so. -/
def folded (flags : Flags) (s : CharSet) : CharSet :=
  if flags.caseless then s.caseless flags.unicode else s

/-- The union of the items between two operations, last item first. -/
def unionOf : List ClassPart → ClassPart
  | [] => ⟨.empty, 0⟩
  | [part] => part
  | parts =>
      ⟨parts.foldl (fun s part => part.set.union s) .empty,
        parts.foldl (fun n part => max n part.height) 0 + 1⟩

/-- Apply a pending operation to the sets on both of its sides. -/
def operate (flags : Flags) (pending : Option (ClassOperation × ClassPart)) (right : ClassPart) :
    ClassPart :=
  match pending with
  | none => right
  | some (op, left) =>
      ⟨op.apply (folded flags left.set) (folded flags right.set),
        max left.height right.height + 1⟩

/-- The whole set in brackets, complemented if it was negated. Without Unicode a
complement would hold bytes that are no characters. -/
def closed (negated : Bool) (part : ClassPart) : Reader ClassPart := do
  let flags := (← get).flags
  if negated && !flags.unicode then refuse
  pure ⟨(folded flags part.set).complementIf negated, part.height + 1⟩

/-- A class such as `[:alpha:]` inside brackets, with the rest after it. -/
def namedClass? : List Char → Option (CharSet × Bool × List Char)
  | '[' :: ':' :: cs =>
      let negated := cs.head? = some '^'
      let cs := if negated then cs.drop 1 else cs
      match cs.dropWhile (· ≠ ':') with
      | ':' :: ']' :: rest =>
          (asciiClass? (String.ofList (cs.takeWhile (· ≠ ':')))).map fun s => (s, negated, rest)
      | _ => none
  | _ => none

/-- One character or escape inside brackets. -/
def classAtom : Reader Atom := do
  match ← peek with
  | none => refuse
  | some '\\' => do
      skip 1
      escape
  | some c => do
      skip 1
      pure (.char c)

/-- A character that may be a member of a set. Without Unicode only ASCII is left. -/
def member (c : Char) : Reader Char := do
  if !(← get).flags.unicode && 0x80 ≤ c.toNat then refuse else pure c

/-- The character behind the next one. Blanks may stand between them, and one sign that
opens a comment. -/
def second (flags : Flags) (cs : List Char) : Option Char :=
  let rest := cs.drop 1
  if flags.spaced then
    match trimStart rest with
    | '#' :: more => (trimStart more).head?
    | found => found.head?
  else rest.head?

/-- A range of characters, a single one, or a class. -/
def classRange : Reader ClassPart := do
  let first ← classAtom
  blanks
  let state ← get
  match state.rest with
  | [] => refuse
  | c :: _ =>
      let next := second state.flags state.rest
      if c ≠ '-' || next = some ']' || next = some '-' then
        match first with
        | .char c => do
            let c ← member c
            pure ⟨.single c, 0⟩
        | .chars s => pure ⟨s, 0⟩
        | .place _ => refuse
      else do
        expect '-'
        match first, ← classAtom with
        | .char low, .char high => do
            let low ← member low
            let high ← member high
            if high < low then refuse
            pure ⟨.range low high, 0⟩
        | _, _ => refuse

/-- The sign of negation and the literal signs that may begin a set in brackets. -/
def classStart : Reader (Bool × List ClassPart) := do
  blanks
  let negated := (← peek) = some '^'
  if negated then expect '^'
  let hyphens ← allWhile (· = '-')
  let items := hyphens.map fun c => ClassPart.mk (.single c) 0
  match ← peek with
  | none => refuse
  | some ']' =>
      if items.isEmpty then do
        expect ']'
        if (← peek).isNone then refuse
        pure (negated, [⟨.single ']', 0⟩])
      else pure (negated, items)
  | some _ => pure (negated, items)

/-- The items of a set in brackets up to the closing one. `pending` is an operation whose
right side is being read, `items` that side so far, last item first. -/
def classItems : (fuel : Nat) → (pending : Option (ClassOperation × ClassPart)) →
    (items : List ClassPart) → Reader ClassPart
  | 0, _, _ => refuse
  | fuel + 1, pending, items => do
      blanks
      let state ← get
      match state.rest with
      | [] => refuse
      | '[' :: _ =>
          match namedClass? state.rest with
          | some (s, negated, rest) => do
              set { state with rest := rest }
              let part ← closed negated ⟨s, 0⟩
              classItems fuel pending (⟨part.set, 0⟩ :: items)
          | none => do
              skip 1
              let (negated, start) ← classStart
              let inner ← classItems fuel none start
              let part ← closed negated inner
              classItems fuel pending (part :: items)
      | ']' :: _ => do
          skip 1
          pure (operate state.flags pending (unionOf items))
      | _ =>
          match operation? state.rest with
          | some op => do
              skip 2
              classItems fuel (some (op, operate state.flags pending (unionOf items))) []
          | none => do
              let part ← classRange
              classItems fuel pending (part :: items)

/-- A set in brackets. -/
def bracketed : Reader ClassPart := do
  skip 1
  let (negated, start) ← classStart
  let inner ← classItems ((← get).rest.length + 1) none start
  closed negated inner

/-! ## Groups -/

/-- How a group begins. -/
inductive Opening where
  /-- Flags for the rest of the group around. -/
  | flags (f : Flags)
  /-- A group, which may have a number. -/
  | group (f : Flags) (number : Option Nat)

/-- Flag letters up to a colon or a closing parenthesis. Each letter may occur once, and a
hyphen, after which flags are switched off, needs a letter behind it. -/
def flagLetters : (seen : List Char) → (hyphen : Bool) → (last : Char) → Flags → List Char →
    Option (Opening × List Char)
  | _, _, _, _, [] => none
  | seen, hyphen, last, flags, c :: cs =>
      if c = ':' || c = ')' then
        if last = '-' then none
        else if c = ':' then some (.group flags none, cs)
        else if seen.isEmpty then none
        else some (.flags flags, cs)
      else if c = '-' then
        if hyphen then none else flagLetters seen true c flags cs
      else if seen.contains c then none
      else
        match flags.set? (!hyphen) c with
        | none => none
        | some flags => flagLetters (c :: seen) hyphen c flags cs

/-- A character that may begin the name of a group. -/
def beginsName (c : Char) : Bool := c = '_' || isAlphabetic c

/-- A character that may stand inside the name of a group. -/
def continuesName (c : Char) : Bool :=
  c = '_' || c = '.' || c = '[' || c = ']' || isAlphabetic c || isNumeric c

/-- The name of a group up to the closing angle bracket. Names do not repeat. -/
def groupName : Reader Unit := fun s =>
  let name := s.rest.takeWhile (· ≠ '>')
  match s.rest.dropWhile (· ≠ '>') with
  | '>' :: rest =>
      if (name.head?.map beginsName).getD false && (name.drop 1).all continuesName
          && !s.names.contains name then
        some ((), { s with rest := rest, names := name :: s.names })
      else none
  | _ => none

/-- A group with the next number. -/
def numbered : Reader Opening := do
  let state ← get
  set { state with groups := state.groups + 1 }
  pure (.group state.flags (some (state.groups + 1)))

/-- The signs behind an opening parenthesis. A group cannot look ahead or behind. -/
def opening : Reader Opening := do
  skip 1
  blanks
  let state ← get
  match state.rest with
  | '?' :: '=' :: _ | '?' :: '!' :: _ | '?' :: '<' :: '=' :: _ | '?' :: '<' :: '!' :: _ => refuse
  | '?' :: 'P' :: '<' :: _ => do
      skip 3
      groupName
      numbered
  | '?' :: '<' :: _ => do
      skip 2
      groupName
      numbered
  | '?' :: rest =>
      match flagLetters [] false '?' state.flags rest with
      | none => refuse
      | some (begun, rest) => do
          set { state with rest := rest }
          pure begun
  | _ => numbered

/-! ## Sequences and alternatives -/

/-- A part of a pattern, how deeply it is nested, and whether it can be repeated. -/
structure Part where
  pattern : Pattern
  height : Nat
  repeatable : Bool

/-- Parts in a row, last part first. -/
def sequence : List Part → Part
  | [] => ⟨.empty, 0, true⟩
  | [part] => part
  | parts =>
      ⟨inOrder (parts.reverse.map Part.pattern),
        parts.foldl (fun n part => max n part.height) 0 + 1, true⟩

/-- One of several parts; `others` come before `part`, the nearest one first. -/
def oneOf (part : Part) (others : List Part) : Part :=
  match others with
  | [] => part
  | _ =>
      ⟨Pattern.oneOf ((part :: others).reverse.map Part.pattern),
        others.foldl (fun n other => max n other.height) part.height + 1, true⟩

/-- How often a part is to be repeated. -/
structure Repetition where
  least : Nat
  most : Option Nat
  greedy : Bool

/-- A part repeated. -/
def Part.repeated (part : Part) (r : Repetition) : Part :=
  ⟨Pattern.repeated part.pattern r.least r.most r.greedy, part.height + 1, true⟩

/-- What a single character of the pattern stands for. -/
def atomPattern (flags : Flags) : Atom → Pattern
  | .char c => ofSet (folded flags (.single c))
  | .chars s => ofSet s
  | .place l => .place l

/-- The characters that a full stop stands for. -/
def anyCharacter (flags : Flags) : CharSet :=
  if flags.dotAll then CharSet.empty.complement
  else if flags.carriageReturns then
    ((CharSet.single '\n').union (CharSet.single '\r')).complement
  else (CharSet.single '\n').complement

/-- A part that is neither a group, a set in brackets nor a repetition. -/
def primitive : Reader Part := do
  let flags := (← get).flags
  match ← peek with
  | none => refuse
  | some c => do
      skip 1
      match c with
      | '\\' => do
          let atom ← escape
          pure ⟨atomPattern flags atom, 0, true⟩
      | '.' => do
          if !flags.unicode then refuse
          pure ⟨ofSet (anyCharacter flags), 0, true⟩
      | '^' =>
          pure ⟨.place (if flags.multiLine then .lineStart flags.carriageReturns else .textStart),
            0, true⟩
      | '$' =>
          pure ⟨.place (if flags.multiLine then .lineEnd flags.carriageReturns else .textEnd),
            0, true⟩
      | c => pure ⟨atomPattern flags (.char c), 0, true⟩

/-- The bounds of a counted repetition, from the opening brace on. -/
def bounds : Reader (Nat × Option Nat) := do
  expect '\x7b'
  let least ← decimal
  let most ← do
    if (← peek) = some ',' then do
      expect ','
      if (← peek) = some '\x7d' then pure none else some <$> decimal
    else pure (some least)
  expect '\x7d'
  if (most.map (decide <| · < least)).getD false then refuse
  pure (least, most)

/-- How often the part before is to be repeated. A question mark at the end asks for few
times rather than many. -/
def repetition (sign : Char) : Reader Repetition := do
  let (least, most) ← do
    match sign with
    | '?' => do
        skip 1
        pure (0, some 1)
    | '*' => do
        skip 1
        pure (0, none)
    | '+' => do
        skip 1
        pure (1, none)
    | _ => bounds
  let flags := (← get).flags
  if (← peek) = some '?' then do
    skip 1
    pure ⟨least, most, flags.swapped⟩
  else pure ⟨least, most, !flags.swapped⟩

/-- Parts up to the end of the pattern or the parenthesis that closes the group.
`others` are the alternatives before, `parts` the parts of this one, each last first. -/
def alternatives : (fuel : Nat) → (others parts : List Part) → Reader Part
  | 0, _, _ => refuse
  | fuel + 1, others, parts => do
      blanks
      match ← peek with
      | none | some ')' => pure (oneOf (sequence parts) others)
      | some '|' => do
          skip 1
          alternatives fuel (sequence parts :: others) []
      | some '(' => do
          let outer := (← get).flags
          match ← opening with
          | .flags flags => do
              modify fun s => { s with flags := flags }
              alternatives fuel others (⟨.empty, 0, false⟩ :: parts)
          | .group flags number => do
              modify fun s => { s with flags := flags }
              let inner ← alternatives fuel [] []
              if (← peek) ≠ some ')' then refuse
              skip 1
              modify fun s => { s with flags := outer }
              let pattern := match number with
                | some n => .group n inner.pattern
                | none => inner.pattern
              alternatives fuel others (⟨pattern, inner.height + 1, true⟩ :: parts)
      | some '[' => do
          let part ← bracketed
          alternatives fuel others (⟨ofSet part.set, part.height, true⟩ :: parts)
      | some c =>
          if c = '?' || c = '*' || c = '+' || c = '\x7b' then
            match parts with
            | [] => refuse
            | part :: before => do
                if !part.repeatable then refuse
                let r ← repetition c
                alternatives fuel others (part.repeated r :: before)
          else do
            let part ← primitive
            alternatives fuel others (part :: parts)

end Reader

/-- How deeply the parts of a pattern may be nested. -/
def heightLimit : Nat := 250

/-- The pattern with a given written form. -/
def read? (text : String) : Option Pattern :=
  let cs := text.toList
  match Reader.alternatives (cs.length + 1) [] [] ⟨cs, .initial, 0, []⟩ with
  | some (part, state) =>
      if state.rest.isEmpty && part.height ≤ heightLimit && part.pattern.fits then
        some part.pattern
      else none
  | none => none

end SymbolSearch.Pattern
