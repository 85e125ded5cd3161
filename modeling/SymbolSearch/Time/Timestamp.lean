import SymbolSearch.Time.Instant
import SymbolSearch.Text.Property

/-!
# Timestamps

An instant is written as a date, the letter T, a time of day and a zone, as in
`2020-01-02T03:04:05.25Z`. Writing uses universal time and as few groups of three
fraction digits as are needed. Reading is generous: blanks may precede each number
and each separator after a number, the zone may be an offset, and fraction digits
beyond the ninth are dropped.
-/

set_option autoImplicit false

namespace SymbolSearch.Time

/-- Why a text is no timestamp. -/
inductive TimestampError where
  | outOfRange
  | impossible
  | invalid
  | tooShort
  | tooLong
  deriving DecidableEq, Repr

/-- The wording of a timestamp error. -/
def TimestampError.message : TimestampError → String
  | .outOfRange => "input is out of range"
  | .impossible => "no possible date and time matching input"
  | .invalid => "input contains invalid characters"
  | .tooShort => "premature end of input"
  | .tooLong => "trailing input"

/-! ## The calendar -/

/-- `year` has a leap day. -/
def isLeapYear (year : Int) : Bool :=
  year % 4 = 0 && (year % 100 ≠ 0 || year % 400 = 0)

/-- The number of days in a month, counted from one. -/
def daysInMonth (year : Int) (month : Nat) : Nat :=
  if month = 2 then (if isLeapYear year then 29 else 28)
  else if month = 4 || month = 6 || month = 9 || month = 11 then 30
  else 31

/-- The number of a day since the beginning of 1970. Years are counted from March, so
that the leap day comes last. -/
def dayNumber (year : Int) (month day : Nat) : Int :=
  let y := if month ≤ 2 then year - 1 else year
  let era := y.fdiv 400
  let yearOfEra := y - era * 400
  let monthFromMarch : Int := (month + 9) % 12
  let dayOfYear := (153 * monthFromMarch + 2) / 5 + day - 1
  let dayOfEra := yearOfEra * 365 + yearOfEra / 4 - yearOfEra / 100 + dayOfYear
  era * 146097 + dayOfEra - 719468

/-- The year, month and day with the given number. -/
def dateOfDay (number : Int) : Int × Nat × Nat :=
  let z := number + 719468
  let era := z.fdiv 146097
  let dayOfEra := z - era * 146097
  let yearOfEra := (dayOfEra - dayOfEra / 1460 + dayOfEra / 36524 - dayOfEra / 146096) / 365
  let dayOfYear := dayOfEra - (365 * yearOfEra + yearOfEra / 4 - yearOfEra / 100)
  let monthFromMarch := (5 * dayOfYear + 2) / 153
  let day := dayOfYear - (153 * monthFromMarch + 2) / 5 + 1
  let month := if monthFromMarch < 10 then monthFromMarch + 3 else monthFromMarch - 9
  let year := yearOfEra + era * 400
  (if month ≤ 2 then year + 1 else year, month.toNat, day.toNat)

/-- The first year of the calendar. -/
def firstYear : Int := -262143

/-- The last year of the calendar. -/
def lastYear : Int := 262142

/-! ## Writing -/

/-- A number with at least `width` digits. -/
def paddedDigits (width n : Nat) : String :=
  let digits := toString n
  String.ofList (List.replicate (width - digits.length) '0') ++ digits

/-- A year: four digits, or a sign and at least four digits outside the range of these. -/
def yearText (year : Int) : String :=
  if 0 ≤ year && year ≤ 9999 then paddedDigits 4 year.toNat
  else (if year < 0 then "-" else "+") ++ paddedDigits 4 year.natAbs

/-- A fraction of a second in as few groups of three digits as are needed. -/
def fractionText (nanos : Nat) : String :=
  if nanos = 0 then ""
  else if nanos % 1000000 = 0 then "." ++ paddedDigits 3 (nanos / 1000000)
  else if nanos % 1000 = 0 then "." ++ paddedDigits 6 (nanos / 1000)
  else "." ++ paddedDigits 9 nanos

/-- The timestamp of an instant in universal time. -/
def Instant.timestamp (t : Instant) : String :=
  let (year, month, day) := dateOfDay t.day
  let second := t.secondOfDay.toNat
  let (leap, nanos) :=
    if t.inLeapSecond then (1, t.nanos - nanosPerSecond) else (0, t.nanos)
  yearText year ++ "-" ++ paddedDigits 2 month ++ "-" ++ paddedDigits 2 day ++ "T"
    ++ paddedDigits 2 (second / 3600) ++ ":" ++ paddedDigits 2 (second / 60 % 60) ++ ":"
    ++ paddedDigits 2 (second % 60 + leap) ++ fractionText nanos ++ "Z"

/-! ## Reading -/

/-- A reader of a part of a timestamp. -/
abbrev TimestampReader (α : Type) := StateT (List Char) (Except TimestampError) α

namespace TimestampReader

/-- Give up with an error. -/
def fail {α : Type} (e : TimestampError) : TimestampReader α := fun _ => .error e

/-- Pass over blanks. -/
def blanks : TimestampReader Unit := fun cs => .ok ((), Text.trimStart cs)

/-- The value of at most `limit` further digits after a part with value `value`. -/
def digitsFrom (value : Nat) : Nat → List Char → Nat × List Char
  | 0, cs => (value, cs)
  | _ + 1, [] => (value, [])
  | limit + 1, c :: cs =>
      if '0' ≤ c && c ≤ '9' then digitsFrom (value * 10 + (c.toNat - '0'.toNat)) limit cs
      else (value, c :: cs)

/-- A number of one to `limit` digits that fits into 63 bits. -/
def number (limit : Nat) : TimestampReader Nat
  | [] => .error .tooShort
  | c :: cs =>
      if '0' ≤ c && c ≤ '9' then
        let (value, rest) := digitsFrom 0 limit (c :: cs)
        if value < 0x8000000000000000 then .ok (value, rest) else .error .outOfRange
      else .error .invalid

/-- A number of at most two digits in a range. -/
def field (low high : Nat) : TimestampReader Nat := do
  blanks
  let n ← number 2
  if low ≤ n && n ≤ high then pure n else fail .outOfRange

/-- The separator `mark`. -/
def separator (mark : Char) : TimestampReader Unit
  | [] => .error .tooShort
  | c :: cs => if c = mark then .ok ((), cs) else .error .invalid

/-- A year: up to four digits, or a sign and any number of digits. -/
def year : TimestampReader Int := do
  blanks
  let cs ← get
  let y : Int ← match cs with
    | '-' :: rest => do
        set rest
        let n ← number rest.length
        pure (-(n : Int))
    | '+' :: rest => do
        set rest
        let n ← number rest.length
        pure (n : Int)
    | _ => do
        let n ← number 4
        pure (n : Int)
  if -0x80000000 ≤ y && y < 0x80000000 then pure y else fail .outOfRange

/-- A fraction of a second, if a full stop follows. -/
def fraction : TimestampReader Nat := do
  let cs ← get
  match cs with
  | '.' :: rest =>
      set rest
      let n ← number 9
      let left ← get
      set (left.dropWhile fun c => '0' ≤ c && c ≤ '9')
      pure (n * Nat.pow 10 (9 - (rest.length - left.length)))
  | _ => pure 0

/-- Two digits, of which the first is at most `tens`. -/
def twoDigits (tens : Char) : TimestampReader Nat
  | [] => .error .tooShort
  | [c] => .error (if c.utf8Size < 2 then .tooShort else .invalid)
  | c :: d :: rest =>
      if '0' ≤ c && c ≤ '9' && '0' ≤ d && d ≤ '9' then
        if c ≤ tens then .ok ((c.toNat - '0'.toNat) * 10 + (d.toNat - '0'.toNat), rest)
        else .error .outOfRange
      else .error .invalid

/-- Hours and minutes of a zone, with colons and blanks between them, in seconds. -/
def zoneSeconds : TimestampReader Int := do
  let hours ← twoDigits '9'
  modify fun cs => cs.dropWhile fun c => c = ':' || Text.isWhiteSpace c
  let minutes ← twoDigits '5'
  pure ((hours * 3600 + minutes * 60 : Nat) : Int)

/-- A zone, in seconds to the east of universal time. -/
def zone : TimestampReader Int := do
  let cs ← get
  match cs with
  | [] => fail .tooShort
  | c :: rest =>
      if ['U', 'T', 'C'] = (cs.take 3).map Char.toUpper then do
        set (cs.drop 3)
        pure 0
      else if c = 'Z' || c = 'z' then do
        set rest
        pure 0
      else if c = '+' then do
        set rest
        zoneSeconds
      else if c = '-' || c = '\u2212' then do
        set rest
        let seconds ← zoneSeconds
        pure (-seconds)
      else fail .invalid

/-- The mark between date and time. -/
def dateEnd : TimestampReader Unit
  | [] => .error .tooShort
  | c :: cs => if c = 'T' || c = 't' || c = ' ' then .ok ((), cs) else .error .invalid

/-- Nothing but blanks up to the end. -/
def finish : TimestampReader Unit := fun cs =>
  if (Text.trimStart cs).isEmpty then .ok ((), cs) else .error .tooLong

/-- A whole timestamp. -/
def instant : TimestampReader Instant := do
  let y ← year
  blanks
  separator '-'
  let month ← field 1 12
  blanks
  separator '-'
  let day ← field 1 31
  dateEnd
  let hour ← field 0 23
  blanks
  separator ':'
  let minute ← field 0 59
  blanks
  separator ':'
  let second ← field 0 60
  let nanos ← fraction
  blanks
  let offset ← zone
  finish
  if y < firstYear || lastYear < y || daysInMonth y month < day then fail .outOfRange
  let (second, leap) := if second = 60 then (59, nanosPerSecond) else (second, 0)
  if offset ≤ -(secondsPerDay : Int) || (secondsPerDay : Int) ≤ offset then fail .outOfRange
  let seconds :=
    dayNumber y month day * secondsPerDay + ((hour * 3600 + minute * 60 + second : Nat) : Int)
      - offset
  if seconds < dayNumber firstYear 1 1 * secondsPerDay
      || dayNumber (lastYear + 1) 1 1 * secondsPerDay ≤ seconds then fail .impossible
  pure ⟨seconds, nanos + leap⟩

end TimestampReader

/-- The instant that a timestamp names. -/
def readTimestamp (s : String) : Except TimestampError Instant :=
  (TimestampReader.instant s.toList).map Prod.fst

end SymbolSearch.Time
