/-
# Instants

A moment and a span are counted in microseconds, a moment from the start of 1970 in
universal time. A span is shorter than a milliard days, and a moment lies in the years
from 1 to 9999. A moment is written as a date and a time of day, with six decimals of the
second unless it is a whole one.

**Main statements.** The moment at which clocks start is written as the first of January
2024 (`text_start`), and the first and the last moment as the ends of the years that four
digits can number (`text_bounds`).
-/

import QuantityCalculus.Error
import QuantityCalculus.Number.Rounding

namespace QuantityCalculus

/-- A moment, in microseconds since the start of 1970. -/
abbrev Instant := Int

/-- A span of time in microseconds. -/
abbrev Span := Int

namespace Span

/-- The microseconds of a day. -/
def day : Span := 86400000000

/-- The longest span: just short of a milliard days. -/
def longest : Span := day * 1000000000 - 1

/-- The longest span into the past: a milliard days but one. -/
def shortest : Span := -(day * 999999999)

/-- A span of a number of units, each so many microseconds long: whole units are exact, the
rest is rounded to the nearest microsecond. -/
def ofUnits (count : Float) (microseconds : Nat) : Except Fault Span :=
  match Number.truncate? count with
  | none => .error (if count.isNaN then .misuse .notANumber else .overflow)
  | some whole =>
    let rest := count - Number.ofInt whole
    let span := whole * microseconds + (Number.round? (rest * Number.ofInt microseconds)).getD 0
    if shortest ≤ span ∧ span ≤ longest then .ok span else .error .overflow

/-- A span of seconds. -/
def ofSeconds (count : Float) : Except Fault Span := ofUnits count 1000000

/-- A span of minutes. -/
def ofMinutes (count : Float) : Except Fault Span := ofUnits count 60000000

end Span

namespace Instant

/-- A natural number with at least `width` digits. -/
def padded (width n : Nat) : String :=
  let ds := toString n
  String.ofList (List.replicate (width - ds.length) '0') ++ ds

/-- Year, month and day of a day counted from the start of 1970. Years are counted from
March, so that a leap day is the last day of its year, in eras of 400 years. -/
def date (day : Int) : Int × Nat × Nat :=
  let shifted := day + 719468
  let era := shifted.fdiv 146097
  let ofEra := (shifted - era * 146097).toNat
  let year := (ofEra - ofEra / 1460 + ofEra / 36524 - ofEra / 146096) / 365
  let ofYear := ofEra - (365 * year + year / 4 - year / 100)
  let month := (5 * ofYear + 2) / 153
  let dayOfMonth := ofYear - (153 * month + 2) / 5 + 1
  let calendarMonth := if month < 10 then month + 3 else month - 9
  (year + era * 400 + (if calendarMonth ≤ 2 then 1 else 0), calendarMonth, dayOfMonth)

/-- A moment as text. -/
def text (t : Instant) : String :=
  let day := t.fdiv Span.day
  let ofDay := (t - day * Span.day).toNat
  let (y, m, d) := date day
  let seconds := ofDay / 1000000
  let fraction := ofDay % 1000000
  padded 4 y.toNat ++ "-" ++ padded 2 m ++ "-" ++ padded 2 d ++ "T" ++
    padded 2 (seconds / 3600) ++ ":" ++ padded 2 (seconds / 60 % 60) ++ ":" ++
    padded 2 (seconds % 60) ++ (if fraction = 0 then "" else "." ++ padded 6 fraction) ++
    "+00:00"

/-- The moment at which clocks start: the beginning of 2024. -/
def start : Instant := 1704067200000000

/-- The first moment: the beginning of the year 1. -/
def first : Instant := -62135596800000000

/-- The moment after the last one: the end of the year 9999. -/
def afterLast : Instant := 253402300800000000

/-- The moment that is later than another by a span. -/
def after (t : Instant) (span : Span) : Except Fault Instant :=
  let later : Instant := t + span
  if first ≤ later ∧ later < afterLast then .ok later else .error .overflow

/-- **The start of clocks** is a new year. -/
theorem text_start : text start = "2024-01-01T00:00:00+00:00" := by decide

/-- The bounds of moments are those of the years that four digits can number. -/
theorem text_bounds : text first = "0001-01-01T00:00:00+00:00" ∧
    text (afterLast - 1) = "9999-12-31T23:59:59.999999+00:00" := by decide

end Instant
end QuantityCalculus
