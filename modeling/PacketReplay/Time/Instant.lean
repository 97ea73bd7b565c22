/-!
# Days and instants

The proleptic Gregorian calendar as days counted from 1 January 1970, in years that start in March,
so that the leap day is the last day of its year. A moment is kept in UTC: seconds since 1970 and
nanoseconds within the second. During a leap second the clock shows second 60; such a moment is kept
as nanosecond 10⁹ and more of second 59. The range is that of years -262143 to 262142.
-/

set_option autoImplicit false

namespace PacketReplay

structure Day where
  year : Int
  month : Nat
  day : Nat
deriving DecidableEq

namespace Day

def isLeapYear (y : Int) : Bool :=
  y % 4 == 0 && (y % 100 != 0 || y % 400 == 0)

def monthLength (y : Int) (m : Nat) : Nat :=
  if m = 2 then (if isLeapYear y then 29 else 28)
  else if m = 4 ∨ m = 6 ∨ m = 9 ∨ m = 11 then 30
  else 31

def exists? (d : Day) : Bool :=
  1 ≤ d.month && d.month ≤ 12 && 1 ≤ d.day && d.day ≤ monthLength d.year d.month

def toCount (d : Day) : Int :=
  let y := if d.month ≤ 2 then d.year - 1 else d.year
  let era := y / 400
  let yearOfEra := y - era * 400
  let monthFromMarch : Int := ((d.month + 9) % 12 : Nat)
  let dayOfYear := (153 * monthFromMarch + 2) / 5 + d.day - 1
  era * 146097 + (yearOfEra * 365 + yearOfEra / 4 - yearOfEra / 100 + dayOfYear) - 719468

def ofCount (count : Int) : Day :=
  let shifted := count + 719468
  let era := shifted / 146097
  let dayOfEra := shifted - era * 146097
  let yearOfEra := (dayOfEra - dayOfEra / 1460 + dayOfEra / 36524 - dayOfEra / 146096) / 365
  let dayOfYear := dayOfEra - (365 * yearOfEra + yearOfEra / 4 - yearOfEra / 100)
  let monthFromMarch := (5 * dayOfYear + 2) / 153
  let day := dayOfYear - (153 * monthFromMarch + 2) / 5 + 1
  let month := if monthFromMarch < 10 then monthFromMarch + 3 else monthFromMarch - 9
  let year := yearOfEra + era * 400
  ⟨if month ≤ 2 then year + 1 else year, month.toNat, day.toNat⟩

end Day

def firstSecond : Int := -8334601228800

def lastSecond : Int := 8210266876799

/-- Whether seconds and nanoseconds name a moment. Only the last second of a minute can be
followed by a leap second. -/
def IsMoment (seconds : Int) (nanos : Nat) : Prop :=
  firstSecond ≤ seconds ∧ seconds ≤ lastSecond ∧
    (nanos < 1000000000 ∨ (nanos < 2000000000 ∧ seconds % 60 = 59))

instance (seconds : Int) (nanos : Nat) : Decidable (IsMoment seconds nanos) := by
  unfold IsMoment; infer_instance

structure Instant where
  seconds : Int
  nanos : Nat
  moment : IsMoment seconds nanos
deriving DecidableEq

namespace Instant

def ofParts? (seconds : Int) (nanos : Nat) : Option Instant :=
  if h : IsMoment seconds nanos then some ⟨seconds, nanos, h⟩ else none

/-- Milliseconds since the start of 1970, rounded down. A leap second continues the count of the
second before it. -/
def toMillis (t : Instant) : Int :=
  t.seconds * 1000 + (t.nanos / 1000000 : Nat)

def ofMillis? (ms : Int) : Option Instant :=
  ofParts? (ms / 1000) ((ms % 1000).toNat * 1000000)

/-- The instant cut to whole milliseconds. In a leap second this is a moment of the next second;
where there is no next second the instant is left as it is. -/
def truncateToMillis (t : Instant) : Instant :=
  (ofMillis? t.toMillis).getD t

end Instant

end PacketReplay
