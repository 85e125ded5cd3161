/-!
# Instants

An instant is counted in seconds since the beginning of 1970 in universal time, with
nanoseconds on top. Inside a leap second the nanoseconds go on counting past one
second. Spans of time are integers of nanoseconds, so differences are exact.
-/

set_option autoImplicit false

namespace SymbolSearch.Time

/-- A point in time. `nanos` is below two seconds, and at least one second exactly
inside a leap second. -/
structure Instant where
  seconds : Int
  nanos : Nat
  deriving DecidableEq, Repr

/-- Nanoseconds in a second. -/
def nanosPerSecond : Nat := 1000000000

/-- Seconds in a day. -/
def secondsPerDay : Nat := 86400

/-- The number of the day since the beginning of 1970. -/
def Instant.day (t : Instant) : Int := t.seconds.fdiv secondsPerDay

/-- The second of the day, leap seconds not counted. -/
def Instant.secondOfDay (t : Instant) : Int := t.seconds.fmod secondsPerDay

/-- The instant lies inside a leap second. -/
def Instant.inLeapSecond (t : Instant) : Bool := nanosPerSecond ≤ t.nanos

/-- The leap second to count between two times of day, beside the difference of their
seconds: the one that the earlier of them lies in. -/
def leapCorrection (later earlier : Instant) : Int :=
  if earlier.secondOfDay < later.secondOfDay then (if earlier.inLeapSecond then 1 else 0)
  else if later.secondOfDay < earlier.secondOfDay then (if later.inLeapSecond then -1 else 0)
  else 0

/-- The span from `earlier` to `later`, in nanoseconds; negative if they come in the other
order. -/
def Instant.since (later earlier : Instant) : Int :=
  (later.seconds - earlier.seconds + leapCorrection later earlier) * nanosPerSecond
    + ((later.nanos : Int) - earlier.nanos)

/-- The most seconds that a span may be asked to have. -/
def longestSpanSeconds : Nat := 9223372036854775

/-- The span of `hours` hours in nanoseconds, unless it is longer than the longest one. -/
def spanOfHours? (hours : Nat) : Option Int :=
  if hours * 3600 ≤ longestSpanSeconds then some (hours * 3600 * nanosPerSecond : Nat) else none

/-- At `now`, something made at `made` is at most `hours` hours old. A limit beyond the
longest span admits every age, and what was made later than `now` is fresh. -/
def isFresh (now made : Instant) (hours : Nat) : Bool :=
  match spanOfHours? hours with
  | none => true
  | some limit => now.since made ≤ limit

end SymbolSearch.Time
