import SymbolSearch.Text.Quoted

/-!
# Reading JSON

A reader takes characters from the front of a text and knows which value it expects,
so a text is read in one pass and the first fault decides. A record may be written as
an object, in which unknown members are skipped and repeated ones refused, or as the
list of its fields in order. At most `maxDepth` containers may be open at a time;
skipped values are exempt from this limit.
-/

set_option autoImplicit false

namespace SymbolSearch.Json

/-- Why a text cannot be read: it is not JSON, it is JSON of an unexpected shape, or it
ends too early. -/
inductive Fault where
  | malformed
  | mismatch
  | cutShort
  deriving DecidableEq, Repr

/-- A reader of a value from the front of a text. -/
abbrev Reader (α : Type) := StateT (List Char) (Except Fault) α

/-- How many containers may be open at a time. -/
def maxDepth : Nat := 127

namespace Reader

/-- Give up with a fault. -/
def fail {α : Type} (fault : Fault) : Reader α := fun _ => .error fault

/-- A character between values. -/
def isBlank (c : Char) : Bool := c = ' ' || c = '\n' || c = '\t' || c = '\r'

/-- A decimal digit. -/
def isDigit (c : Char) : Bool := '0' ≤ c && c ≤ '9'

/-- Pass over blanks and look at the next character. -/
def peek : Reader (Option Char) := fun cs =>
  let rest := cs.dropWhile isBlank
  .ok (rest.head?, rest)

/-- Take the next character. -/
def skip : Reader Unit := fun cs => .ok ((), cs.drop 1)

/-- Pass over blanks and look at the first character of a value. -/
def valueStart : Reader Char := do
  match ← peek with
  | some c => pure c
  | none => fail .cutShort

/-- The characters of `word`, of which the first is already recognised. -/
def keyword : List Char → Reader Unit
  | [] => pure ()
  | w :: word => fun cs =>
      match cs with
      | [] => .error .cutShort
      | c :: rest => if c = w then keyword word rest else .error .malformed

/-! ## Texts -/

/-- Four hexadecimal digits. Fewer than four remaining bytes count as the end. -/
def hexQuad : Reader Nat
  | a :: b :: c :: d :: rest =>
      match Text.hexValue? a, Text.hexValue? b, Text.hexValue? c, Text.hexValue? d with
      | some w, some x, some y, some z => .ok (((w * 16 + x) * 16 + y) * 16 + z, rest)
      | _, _, _, _ => .error .malformed
  | cs => .error (if (String.ofList cs).utf8ByteSize < 4 then .cutShort else .malformed)

/-- The character with code unit `high`, or the one that `high` and a following low
surrogate stand for. -/
def codeUnits (high : Nat) : Reader Char
  | cs =>
      if 0xDC00 ≤ high && high ≤ 0xDFFF then .error .malformed
      else if high < 0xD800 || 0xDBFF < high then .ok (Char.ofNat high, cs)
      else match cs with
        | [] => .error .cutShort
        | c :: rest =>
            if c ≠ '\\' then .error .malformed
            else match rest with
              | [] => .error .cutShort
              | d :: rest =>
                  if d ≠ 'u' then .error .malformed
                  else match hexQuad rest with
                    | .error fault => .error fault
                    | .ok (low, rest) =>
                        if low < 0xDC00 || 0xDFFF < low then .error .malformed
                        else .ok (Char.ofNat
                          ((high - 0xD800) * 0x400 + (low - 0xDC00) + 0x10000), rest)

/-- The character that an escape stands for, from the character after the backslash on. -/
def escaped : Reader Char
  | [] => .error .cutShort
  | c :: rest =>
      if c = '"' || c = '\\' || c = '/' then .ok (c, rest)
      else if c = 'b' then .ok ('\x08', rest)
      else if c = 'f' then .ok ('\x0c', rest)
      else if c = 'n' then .ok ('\n', rest)
      else if c = 'r' then .ok ('\r', rest)
      else if c = 't' then .ok ('\t', rest)
      else if c = 'u' then
        match hexQuad rest with
        | .error fault => .error fault
        | .ok (unit, rest) => codeUnits unit rest
      else .error .malformed

/-- The characters up to the closing quote. Each step takes at least one character, so
`fuel` characters of input need `fuel` steps. -/
def quotedRest : (fuel : Nat) → Reader (List Char)
  | 0, _ => .error .cutShort
  | _ + 1, [] => .error .cutShort
  | fuel + 1, c :: rest =>
      if c = '"' then .ok ([], rest)
      else if c = '\\' then
        match escaped rest with
        | .error fault => .error fault
        | .ok (e, rest) =>
            match quotedRest fuel rest with
            | .error fault => .error fault
            | .ok (cs, rest) => .ok (e :: cs, rest)
      else if c < ' ' then .error .malformed
      else
        match quotedRest fuel rest with
        | .error fault => .error fault
        | .ok (cs, rest) => .ok (c :: cs, rest)

/-- The text up to the closing quote; the opening one is already taken. -/
def textRest : Reader String := fun cs =>
  match quotedRest cs.length cs with
  | .error fault => .error fault
  | .ok (chars, rest) => .ok (String.ofList chars, rest)

/-- Pass over a text that is not wanted, up to the closing quote. -/
def skipTextRest : (fuel : Nat) → Reader Unit
  | 0, _ => .error .cutShort
  | _ + 1, [] => .error .cutShort
  | fuel + 1, c :: rest =>
      if c = '"' then .ok ((), rest)
      else if c = '\\' then
        match rest with
        | [] => .error .cutShort
        | d :: rest =>
            if d = 'u' then
              match hexQuad rest with
              | .error fault => .error fault
              | .ok (_, rest) => skipTextRest fuel rest
            else if d = '"' || d = '\\' || d = '/' || d = 'b' || d = 'f' || d = 'n'
                || d = 'r' || d = 't' then skipTextRest fuel rest
            else .error .malformed
      else if c < ' ' then .error .malformed
      else skipTextRest fuel rest

/-! ## Numbers -/

/-- A number as far as a reader cares: a natural number below `2 ^ 64`, or any other. -/
inductive Number where
  | natural (n : Nat)
  | other

/-- The value of a decimal digit. -/
def digitValue (d : Char) : Nat := d.toNat - '0'.toNat

/-- The value of the digits `ds`. -/
def digitsValue (ds : List Char) : Nat := ds.foldl (fun n d => n * 10 + digitValue d) 0

/-- `n` continued with digits as long as it stays below `2 ^ 64`, and the digits left over. -/
def keepDigits (n : Nat) : List Char → Nat × List Char
  | [] => (n, [])
  | d :: ds =>
      if n * 10 + digitValue d < 0x10000000000000000 then keepDigits (n * 10 + digitValue d) ds
      else (n, d :: ds)

/-- `n` rounded to 53 binary digits; the even neighbour is taken if both are equally near. -/
def roundToDouble (n : Nat) : Nat :=
  let unit := Nat.pow 2 (n.log2 + 1 - 53)
  let whole := n / unit
  let rest := n % unit
  if unit < 2 * rest || (2 * rest = unit && whole % 2 = 1) then (whole + 1) * unit
  else whole * unit

/-- The least number that no longer rounds to a finite double. -/
def doubleLimit : Nat := Nat.pow 2 1024 - Nat.pow 2 970

/-- `digits` times a power of ten is beyond all doubles. Both factors are rounded before
they are multiplied. -/
def exceedsDouble (digits : Nat) (exponent : Int) : Bool :=
  digits ≠ 0 && 0 ≤ exponent
    && (308 < exponent
      || doubleLimit ≤ roundToDouble digits * roundToDouble (Nat.pow 10 exponent.toNat))

/-- The digits of an exponent with its sign, if one follows. -/
def exponent? : Reader (Option Int)
  | [] => .ok (none, [])
  | c :: rest =>
      if c = 'e' || c = 'E' then
        let (sign, rest) : Int × List Char := match rest with
          | '+' :: rest => (1, rest)
          | '-' :: rest => (-1, rest)
          | rest => (1, rest)
        match rest with
        | [] => .error .cutShort
        | d :: _ =>
            if isDigit d then
              .ok (some (sign * digitsValue (rest.takeWhile isDigit)), rest.dropWhile isDigit)
            else .error .malformed
      else .ok (none, c :: rest)

/-- The digits after a decimal point, if one follows. -/
def fraction? : Reader (Option (List Char))
  | '.' :: rest =>
      match rest with
      | [] => .error .cutShort
      | d :: _ =>
          if isDigit d then .ok (some (rest.takeWhile isDigit), rest.dropWhile isDigit)
          else .error .malformed
  | cs => .ok (none, cs)

/-- The digits before the decimal point; only a lone zero may begin with zero. -/
def wholeDigits : Reader (List Char)
  | [] => .error .cutShort
  | c :: rest =>
      if c = '0' then
        if (rest.head?.map isDigit).getD false then .error .malformed else .ok (['0'], rest)
      else if isDigit c then .ok (c :: rest.takeWhile isDigit, rest.dropWhile isDigit)
      else .error .malformed

/-- A number behind its sign. Of its digits as many count as fit into 64 bits, the others
only for their number. -/
def unsignedNumber (positive : Bool) : Reader Number := do
  let whole ← wholeDigits
  let fraction ← fraction?
  let exponent ← exponent?
  let (start, wholeRest) := keepDigits 0 whole
  if wholeRest.isEmpty && fraction.isNone && exponent.isNone then
    pure (if positive then .natural start else .other)
  else do
    let places := fraction.getD []
    let (digits, placesRest) := keepDigits start places
    let shift : Int := wholeRest.length - (places.length - placesRest.length)
    if exceedsDouble digits (exponent.getD 0 + shift) then fail .malformed else pure .other

/-- A number whose first character is `c`. -/
def numberAt (c : Char) : Reader Number := do
  if c = '-' then do
    skip
    unsignedNumber false
  else unsignedNumber true

/-- The parts of a number behind its sign. -/
def numberParts : Reader Unit := do
  let _ ← wholeDigits
  let _ ← fraction?
  let _ ← exponent?

/-- Pass over a number that is not wanted, behind its sign. A number that the end of the
text cuts off counts as malformed here. -/
def skipNumber : Reader Unit := fun cs =>
  match numberParts cs with
  | .ok (_, rest) => .ok ((), rest)
  | .error _ => .error .malformed

/-! ## Values of an unexpected kind -/

/-- Read the value whose first character is `c` far enough to see that it is JSON, and
refuse it as one of the wrong shape. -/
def wrongShape {α : Type} (c : Char) : Reader α := do
  if c = 'n' then do
    skip
    keyword ['u', 'l', 'l']
    fail .mismatch
  else if c = 't' then do
    skip
    keyword ['r', 'u', 'e']
    fail .mismatch
  else if c = 'f' then do
    skip
    keyword ['a', 'l', 's', 'e']
    fail .mismatch
  else if c = '-' || isDigit c then do
    let _ ← numberAt c
    fail .mismatch
  else if c = '"' then do
    skip
    let _ ← textRest
    fail .mismatch
  else if c = '[' || c = '\x7b' then fail .mismatch
  else fail .malformed

/-! ## Skipped values -/

/-- A container that a skipped value is inside of. -/
inductive Container where
  | list
  | object
  deriving DecidableEq

/-- The character that closes a container. -/
def Container.close : Container → Char
  | .list => ']'
  | .object => '\x7d'

/-- Where the skipping of a value stands: before a value, just inside a container, or
behind a value. -/
inductive SkipPhase where
  | before
  | opened
  | behind

/-- Pass over a member name and its colon, if the innermost container is an object. -/
def skipName : List Container → Reader Unit
  | .object :: _ => do
      if (← valueStart) ≠ '"' then fail .malformed
      skip
      (fun cs => skipTextRest cs.length cs : Reader Unit)
      if (← valueStart) ≠ ':' then fail .malformed
      skip
  | _ => pure ()

/-- Pass over a value inside the given containers, innermost first. Two steps take at
least one character, so twice as many steps as characters suffice. -/
def skipValueIn : (fuel : Nat) → SkipPhase → List Container → Reader Unit
  | 0, _, _ => fail .cutShort
  | fuel + 1, .before, inside => do
      let c ← valueStart
      if c = '[' then do
        skip
        skipValueIn fuel .opened (.list :: inside)
      else if c = '\x7b' then do
        skip
        skipValueIn fuel .opened (.object :: inside)
      else do
        if c = 'n' then do
          skip
          keyword ['u', 'l', 'l']
        else if c = 't' then do
          skip
          keyword ['r', 'u', 'e']
        else if c = 'f' then do
          skip
          keyword ['a', 'l', 's', 'e']
        else if c = '-' then do
          skip
          skipNumber
        else if isDigit c then skipNumber
        else if c = '"' then do
          skip
          (fun cs => skipTextRest cs.length cs : Reader Unit)
        else fail .malformed
        skipValueIn fuel .behind inside
  | fuel + 1, .opened, inside => do
      let c ← valueStart
      match inside with
      | [] => fail .malformed
      | container :: outside =>
          if c = container.close then do
            skip
            skipValueIn fuel .behind outside
          else do
            skipName inside
            skipValueIn fuel .before inside
  | _ + 1, .behind, [] => pure ()
  | fuel + 1, .behind, container :: outside => do
      let c ← valueStart
      if c = ',' then do
        skip
        skipName (container :: outside)
        skipValueIn fuel .before (container :: outside)
      else if c = container.close then do
        skip
        skipValueIn fuel .behind outside
      else fail .malformed

/-- Pass over any value. -/
def skipValue : Reader Unit := fun cs => skipValueIn (2 * cs.length + 2) .before [] cs

/-! ## Values of an expected kind -/

/-- A text. -/
def text : Reader String := do
  let c ← valueStart
  if c = '"' then do
    skip
    textRest
  else wrongShape c

/-- A truth value. -/
def bool : Reader Bool := do
  let c ← valueStart
  if c = 't' then do
    skip
    keyword ['r', 'u', 'e']
    pure true
  else if c = 'f' then do
    skip
    keyword ['a', 'l', 's', 'e']
    pure false
  else wrongShape c

/-- A natural number below `limit`. -/
def natural (limit : Nat) : Reader Nat := do
  let c ← valueStart
  if c = '-' || isDigit c then do
    match ← numberAt c with
    | .natural n => if n < limit then pure n else fail .mismatch
    | .other => fail .mismatch
  else wrongShape c

/-- A value or `null`. -/
def option {α : Type} (value : Reader α) : Reader (Option α) := do
  match ← peek with
  | some 'n' => do
      skip
      keyword ['u', 'l', 'l']
      pure none
  | _ => do
      let a ← value
      pure (some a)

/-- `null`. -/
def null : Reader Unit := do
  let c ← valueStart
  if c = 'n' then do
    skip
    keyword ['u', 'l', 'l']
  else wrongShape c

/-! ## Containers -/

/-- Another item of a list follows. A comma precedes every item but the first. -/
def moreItems (first : Bool) : Reader Bool := do
  let c ← valueStart
  if c = ']' then pure false
  else if first then pure true
  else if c = ',' then do
    skip
    if (← valueStart) = ']' then fail .malformed else pure true
  else fail .malformed

/-- The items of a list up to its closing bracket. -/
def items {α : Type} (item : Reader α) : (fuel : Nat) → (first : Bool) → Reader (List α)
  | 0, _ => fail .cutShort
  | fuel + 1, first => do
      if ← moreItems first then do
        let a ← item
        let rest ← items item fuel false
        pure (a :: rest)
      else pure []

/-- The next item of a list, if there is one. -/
def item? {α : Type} (first : Bool) (item : Reader α) : Reader (Option α) := do
  if ← moreItems first then do
    let a ← item
    pure (some a)
  else pure none

/-- The closing bracket of a list. -/
def closeList : Reader Unit := do
  if (← valueStart) = ']' then skip else fail .malformed

/-- A list of at most `depth` nested containers. -/
def list {α : Type} (depth : Nat) (item : Reader α) : Reader (List α) := do
  let c ← valueStart
  if c = '[' then do
    if depth = 0 then fail .malformed
    skip
    let as ← (fun cs => items item (cs.length + 1) true cs : Reader (List α))
    closeList
    pure as
  else wrongShape c

/-- Another member of an object follows. A comma precedes every member but the first. -/
def moreMembers (first : Bool) : Reader Bool := do
  let c ← valueStart
  if c = '\x7d' then pure false
  else if first then
    if c = '"' then pure true else fail .malformed
  else if c = ',' then do
    skip
    if (← valueStart) = '"' then pure true else fail .malformed
  else fail .malformed

/-- The colon after a member name, then the value. -/
def memberValue {α : Type} (value : Reader α) : Reader α := do
  if (← valueStart) = ':' then do
    skip
    value
  else fail .malformed

/-- The value of a member that may occur once. -/
def once {α : Type} (seen : Option α) (value : Reader α) : Reader (Option α) :=
  if seen.isSome then fail .mismatch
  else do
    let a ← memberValue value
    pure (some a)

/-- Pass over the value of an unknown member. -/
def unknown : Reader Unit := memberValue skipValue

/-- The members of an object up to its closing brace, collected into `seen`. -/
def members {σ : Type} (member : String → σ → Reader σ) :
    (fuel : Nat) → (first : Bool) → σ → Reader σ
  | 0, _, _ => fail .cutShort
  | fuel + 1, first, seen => do
      if ← moreMembers first then do
        skip
        let name ← textRest
        let seen ← member name seen
        members member fuel false seen
      else pure seen

/-- A field that has to be there. -/
def required {α : Type} : Option α → Reader α
  | some a => pure a
  | none => fail .mismatch

/-- A record of fields, written as an object or as a list. -/
structure Record (σ α : Type) where
  /-- The fields before any member is read. -/
  empty : σ
  /-- Read the member of a given name, from its colon on. -/
  member : String → σ → Reader σ
  /-- Build the record from the members read. -/
  build : σ → Reader α
  /-- Read the fields in order from a list. -/
  fields : Reader α

/-- A record of at most `depth` nested containers. -/
def record {σ α : Type} (depth : Nat) (r : Record σ α) : Reader α := do
  let c ← valueStart
  if c = '[' then do
    if depth = 0 then fail .malformed
    skip
    let a ← r.fields
    closeList
    pure a
  else if c = '\x7b' then do
    if depth = 0 then fail .malformed
    skip
    let seen ← (fun cs => members r.member (cs.length + 1) true r.empty cs : Reader σ)
    let a ← r.build seen
    skip
    pure a
  else wrongShape c

/-- A named variant: its name, or an object with its name and `null`. -/
def variant {α : Type} (depth : Nat) (named : String → Option α) : Reader α := do
  let c ← valueStart
  if c = '\x7b' then do
    if depth = 0 then fail .malformed
    skip
    if (← valueStart) ≠ '"' then fail .malformed
    let a ← required (named (← text))
    memberValue null
    if (← valueStart) = '\x7d' then do
      skip
      pure a
    else fail .malformed
  else if c = '"' then do
    let name ← text
    required (named name)
  else fail .malformed

end Reader

/-- Read a whole text. Only blanks may follow the value. -/
def read {α : Type} (reader : Reader α) (s : String) : Except Fault α :=
  match reader s.toList with
  | .error fault => .error fault
  | .ok (a, rest) => if (rest.dropWhile Reader.isBlank).isEmpty then .ok a else .error .malformed

end SymbolSearch.Json
