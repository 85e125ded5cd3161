import SymbolSearch.Time.Timestamp

/-!
# Freshness

Outside of leap seconds the span between two instants is the difference of their nanoseconds
(`Instant.since_eq_sub`), and no two instants of the calendar are as far apart as the longest span
(`Instant.sub_lt_longestSpan`). So it makes no difference that a limit beyond the longest span
admits every age: freshness is the comparison of the exact age with the exact limit
(`isFresh_iff_sub_le`). The times that are read from files are instants of the calendar
(`inCalendar_of_readTimestamp`).
-/

set_option autoImplicit false

namespace SymbolSearch.Time

/-! ## The calendar -/

/-- The instant is a date and a time of the calendar. -/
def Instant.InCalendar (t : Instant) : Prop :=
  dayNumber firstYear 1 1 * secondsPerDay ≤ t.seconds ∧
    t.seconds < dayNumber (lastYear + 1) 1 1 * secondsPerDay

instance (t : Instant) : Decidable t.InCalendar := inferInstanceAs (Decidable (_ ∧ _))

/-- The nanoseconds from the beginning of 1970 to an instant. -/
def Instant.nanosSince1970 (t : Instant) : Int := t.seconds * nanosPerSecond + t.nanos

theorem calendar_le_longestSpan :
    (dayNumber (lastYear + 1) 1 1 - dayNumber firstYear 1 1) * secondsPerDay ≤
      longestSpanSeconds := by
  decide

namespace TimestampReader

/-- Whatever the reader takes satisfies `P`. -/
def Yields {α : Type} (r : TimestampReader α) (P : α → Prop) : Prop :=
  ∀ cs a rest, r cs = .ok (a, rest) → P a

theorem yields_pure {α : Type} {P : α → Prop} {a : α} (h : P a) :
    (pure a : TimestampReader α).Yields P := by
  intro cs b rest hb
  obtain ⟨rfl, -⟩ := Prod.mk.inj (Except.ok.inj hb)
  exact h

theorem Yields.bind {α β : Type} {r : TimestampReader α} {f : α → TimestampReader β}
    {P : β → Prop} (h : ∀ a, (f a).Yields P) : (r >>= f).Yields P := by
  intro cs b rest hb
  change (r cs >>= fun p => f p.1 p.2) = .ok (b, rest) at hb
  cases hr : r cs with
  | error e =>
      rw [hr] at hb
      exact nomatch hb
  | ok p =>
      rw [hr] at hb
      exact h p.1 p.2 b rest hb

theorem yields_fail_bind {α β : Type} (e : TimestampError) (f : α → TimestampReader β)
    (P : β → Prop) : (fail e >>= f).Yields P := fun _ _ _ h => nomatch h

/-- A timestamp outside of the calendar is refused in the last step. -/
theorem yields_instant : instant.Yields Instant.InCalendar := by
  unfold instant
  refine .bind fun y => .bind fun _ => .bind fun _ => .bind fun month => ?_
  refine .bind fun _ => .bind fun _ => .bind fun day => .bind fun _ => ?_
  refine .bind fun hour => .bind fun _ => .bind fun _ => .bind fun minute => ?_
  refine .bind fun _ => .bind fun _ => .bind fun second => ?_
  refine .bind fun nanos => .bind fun _ => .bind fun offset => .bind fun _ => ?_
  -- a sixtieth second is read as the leap second of the one before it
  generalize (if second = 60 then (59, nanosPerSecond) else (second, 0)) = adjusted
  obtain ⟨second, leap⟩ := adjusted
  dsimp only
  split
  · exact yields_fail_bind _ _ _
  · split
    · exact yields_fail_bind _ _ _
    · split
      · exact yields_fail_bind _ _ _
      · next hrange =>
        apply yields_pure
        simpa [Instant.InCalendar] using hrange

end TimestampReader

/-- What is read as a timestamp lies in the calendar. -/
theorem inCalendar_of_readTimestamp {s : String} {t : Instant} (h : readTimestamp s = .ok t) :
    t.InCalendar := by
  rw [readTimestamp] at h
  cases hread : TimestampReader.instant s.toList with
  | error e =>
      rw [hread] at h
      exact nomatch h
  | ok p =>
      rw [hread] at h
      obtain rfl := Except.ok.inj h
      exact TimestampReader.yields_instant _ p.1 p.2 hread

/-! ## Spans -/

namespace Instant

variable {later earlier : Instant}

theorem leapCorrection_eq_zero (hlater : later.inLeapSecond = false)
    (hearlier : earlier.inLeapSecond = false) : leapCorrection later earlier = 0 := by
  rw [leapCorrection, hlater, hearlier]
  simp

/-- Outside of leap seconds a span is the difference of two numbers of nanoseconds. -/
theorem since_eq_sub (hlater : later.inLeapSecond = false)
    (hearlier : earlier.inLeapSecond = false) :
    later.since earlier = later.nanosSince1970 - earlier.nanosSince1970 := by
  rw [since, leapCorrection_eq_zero hlater hearlier, nanosSince1970, nanosSince1970, Int.add_zero,
    Int.sub_mul]
  omega

/-- The calendar is shorter than the longest span. -/
theorem sub_lt_longestSpan (hlater : later.InCalendar) (hearlier : earlier.InCalendar)
    (hleap : later.inLeapSecond = false) :
    later.nanosSince1970 - earlier.nanosSince1970 < longestSpanSeconds * nanosPerSecond := by
  have hcalendar := calendar_le_longestSpan
  have hnanos : later.nanos < nanosPerSecond := by simpa [inLeapSecond] using hleap
  obtain ⟨-, hlater⟩ := hlater
  obtain ⟨hearlier, -⟩ := hearlier
  rw [Int.sub_mul] at hcalendar
  rw [nanosSince1970, nanosSince1970]
  -- the seconds differ by less than the calendar is long, and the nanoseconds by less than one
  have hseconds : later.seconds - earlier.seconds + 1 ≤ longestSpanSeconds := by omega
  rw [nanosPerSecond] at *
  omega

end Instant

/-! ## Limits -/

/-- The number, if it fits into 63 bits. -/
def narrow? (n : Nat) : Option Nat := if n < 0x8000000000000000 then some n else none

theorem narrow?_eq_some_iff {n m : Nat} : narrow? n = some m ↔ n < 0x8000000000000000 ∧ n = m := by
  rw [narrow?, Option.ite_none_right_eq_some, Option.some.injEq]

theorem spanOfHours?_eq_some_iff {hours : Nat} {limit : Int} :
    spanOfHours? hours = some limit ↔
      hours * 3600 ≤ longestSpanSeconds ∧
        ((hours * 3600 * nanosPerSecond : Nat) : Int) = limit := by
  rw [spanOfHours?, Option.ite_none_right_eq_some, Option.some.injEq]

/-- Narrowing the hours to 63 bits, and then the seconds, leaves out no limit: what does not fit
is beyond the longest span. -/
theorem spanOfHours?_eq_narrowed (hours : Nat) :
    spanOfHours? hours =
      ((narrow? hours).bind fun hours => narrow? (hours * 3600)).bind fun seconds =>
        if seconds ≤ longestSpanSeconds then some ((seconds * nanosPerSecond : Nat) : Int)
        else none := by
  apply Option.ext
  intro limit
  simp only [spanOfHours?_eq_some_iff, Option.bind_eq_some_iff, narrow?_eq_some_iff,
    Option.ite_none_right_eq_some, Option.some.injEq]
  constructor
  · rintro ⟨hle, rfl⟩
    have hbound : longestSpanSeconds < 0x8000000000000000 := by decide
    exact ⟨hours * 3600, ⟨hours, ⟨by omega, rfl⟩, by omega, rfl⟩, hle, rfl⟩
  · rintro ⟨_, ⟨_, ⟨-, rfl⟩, -, rfl⟩, hle, rfl⟩
    exact ⟨hle, rfl⟩

section Fresh

variable {now made : Instant} {hours : Nat}

/-- A limit counts unless it is beyond the longest span. -/
theorem isFresh_iff_of_span :
    isFresh now made hours = true ↔
      (hours * 3600 ≤ longestSpanSeconds →
        now.since made ≤ (hours * 3600 * nanosPerSecond : Nat)) := by
  rw [isFresh, spanOfHours?]
  by_cases hle : hours * 3600 ≤ longestSpanSeconds
  · simp [hle]
  · simp [hle]

/-- A higher limit admits whatever a lower one admits. -/
theorem isFresh_mono {more : Nat} (hle : hours ≤ more) (h : isFresh now made hours = true) :
    isFresh now made more = true := by
  rw [isFresh_iff_of_span] at h ⊢
  intro hmore
  have hseconds : hours * 3600 ≤ more * 3600 := Nat.mul_le_mul_right _ hle
  have hlimit : hours * 3600 * nanosPerSecond ≤ more * 3600 * nanosPerSecond :=
    Nat.mul_le_mul_right _ hseconds
  exact Int.le_trans (h (Nat.le_trans hseconds hmore)) (Int.ofNat_le.2 hlimit)

/-- In the calendar and outside of leap seconds freshness compares the exact age with the exact
limit: beyond the longest span every age is below the limit. -/
theorem isFresh_iff_sub_le (hnow : now.InCalendar) (hmade : made.InCalendar)
    (hleap : now.inLeapSecond = false) (hleap' : made.inLeapSecond = false) :
    isFresh now made hours = true ↔
      now.nanosSince1970 - made.nanosSince1970 ≤ (hours * 3600 * nanosPerSecond : Nat) := by
  rw [isFresh_iff_of_span, Instant.since_eq_sub hleap hleap']
  refine ⟨fun h => ?_, fun h _ => h⟩
  by_cases hle : hours * 3600 ≤ longestSpanSeconds
  · exact h hle
  · have hlimit : longestSpanSeconds * nanosPerSecond ≤ hours * 3600 * nanosPerSecond :=
      Nat.mul_le_mul_right _ (Nat.le_of_not_le hle)
    have hage := Int.le_of_lt (Instant.sub_lt_longestSpan hnow hmade hleap)
    exact Int.le_trans hage (Int.ofNat_le.2 hlimit)

end Fresh

/-- **Freshness.** In the calendar and outside of leap seconds an age is admitted exactly if it is
not above the limit, both counted in nanoseconds without bounds. Limits are lost to no narrowing,
and no limit refuses what a lower one admits. -/
theorem isFresh_exact {now made : Instant} (hnow : now.InCalendar) (hmade : made.InCalendar)
    (hleap : now.inLeapSecond = false) (hleap' : made.inLeapSecond = false) (hours : Nat) :
    (isFresh now made hours = true ↔
      now.nanosSince1970 - made.nanosSince1970 ≤ (hours * 3600 * nanosPerSecond : Nat)) ∧
    (spanOfHours? hours =
      ((narrow? hours).bind fun hours => narrow? (hours * 3600)).bind fun seconds =>
        if seconds ≤ longestSpanSeconds then some ((seconds * nanosPerSecond : Nat) : Int)
        else none) ∧
    ∀ more, hours ≤ more → isFresh now made hours = true → isFresh now made more = true :=
  ⟨isFresh_iff_sub_le hnow hmade hleap hleap', spanOfHours?_eq_narrowed hours,
    fun _ => isFresh_mono⟩

/-- Between the first and the last instant of the calendar lie 4595796696 hours less a
nanosecond. -/
theorem isFresh_exact_calendar :
    let first : Instant := ⟨dayNumber firstYear 1 1 * secondsPerDay, 0⟩
    let last : Instant := ⟨dayNumber (lastYear + 1) 1 1 * secondsPerDay - 1, 999999999⟩
    first.InCalendar ∧ last.InCalendar ∧ first.inLeapSecond = false ∧
      last.inLeapSecond = false ∧
      isFresh last first 4595796696 = true ∧ isFresh last first 4595796695 = false := by
  intro first last
  have hfirst : first.InCalendar := by decide
  have hlast : last.InCalendar := by decide
  have hexact := isFresh_exact hlast hfirst rfl rfl
  refine ⟨hfirst, hlast, rfl, rfl, (hexact 4595796696).1.2 (by decide), ?_⟩
  rw [Bool.eq_false_iff]
  exact fun h => absurd ((hexact 4595796695).1.1 h) (by decide)

end SymbolSearch.Time
