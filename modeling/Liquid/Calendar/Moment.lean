import Liquid.Number.Binary64
import Liquid.Object

/-!
# Moments

A moment is a date of the Gregorian calendar, carried back to year 1, with a time of day to the microsecond
and possibly a time zone.  Days are counted from 1 January of year 1, which was a Monday.

A time zone lies at a distance from universal time.  If the distance changes in the course of time, the zone belongs to
a region; the moments of one region are compared by the clock of the region.  Where its clock is set back or forward the
distance of a moment is ambiguous, and the moment equals none outside the region.

## Main definitions

* `Moment.dayNumber`, `Moment.ofDayNumber` — days since the first day of year 1, and back.
* `Moment.sameInstant`, `Moment.precedes?` — the order of moments; a moment with a zone and one without
  do not compare.
* `LocalZone` — the local time zone.
* `Moment.ofTimestamp` — the moment a number of seconds after the beginning of 1970, in local time.
* `Moment.isoText` — the written form `2024-03-05T06:07:08.000090+05:30`.
-/

namespace Liquid

-- A power is that of the core library, whatever else is in scope.
attribute [local instance (2000)] instPowNat

/-- The region of a zone whose distance from universal time changes, at a moment. -/
structure Region where
  /-- The region as a value. -/
  self : Object
  /-- Whether the clock shows the moment twice, or never. -/
  isAmbiguous : Bool
  /-- Whether the second of two such moments is meant. -/
  isLater : Bool

/-- A time zone: its distance from universal time, and its name.  `standard` tells that the zone knows
standard time to be in force.  A zone at a fixed distance has no region. -/
structure Zone where
  /-- Seconds east of universal time. -/
  offset : Int
  name : Option Text
  standard : Bool
  region : Option Region := none

/-- A date and a time of day, with or without a zone. -/
structure Moment where
  year : Nat
  month : Nat
  day : Nat
  hour : Nat := 0
  minute : Nat := 0
  second : Nat := 0
  microsecond : Nat := 0
  zone : Option Zone := none

/-- What can go wrong between timestamps, moments and their text. -/
inductive CalendarError
  /-- The timestamp is not a number. -/
  | undefinedTimestamp
  /-- The timestamp does not fit into 64 bits. -/
  | timestampTooLarge
  /-- The year of the timestamp does not fit into 32 bits. -/
  | clockOverflow
  /-- The year lies outside the calendar. -/
  | yearOutOfRange
  /-- The zone is a day or more away from universal time. -/
  | offsetTooLarge
  deriving DecidableEq

/-! ## Years, months and days -/

namespace Calendar

/-- A leap year has 29 days in February. -/
def isLeap (year : Nat) : Bool := year % 4 == 0 && (year % 100 != 0 || year % 400 == 0)

/-- The length of a month; months are counted from 1. -/
def daysInMonth (year month : Nat) : Nat :=
  if month = 2 then (if isLeap year then 29 else 28)
  else if month = 4 ∨ month = 6 ∨ month = 9 ∨ month = 11 then 30 else 31

/-- The days of the whole years before a year. -/
def daysBeforeYear (year : Nat) : Nat :=
  let y := year - 1
  365 * y + y / 4 - y / 100 + y / 400

/-- The days of a year before a month of it. -/
def daysBeforeMonth (year month : Nat) : Nat :=
  (List.range (month - 1)).foldr (fun i days => daysInMonth year (i + 1) + days) 0

/-- The month and the day in it that lie `days` after the first day of `month`. -/
def monthAndDay (year : Nat) : (months : Nat) → (month days : Nat) → Nat × Nat
  | 0, month, days => (month, days + 1)
  | months + 1, month, days =>
    let length := daysInMonth year month
    if days < length then (month, days + 1) else monthAndDay year months (month + 1) (days - length)

/-- The year, month and day that lie `n` days after the first day of year 1. -/
def dateOfDayNumber (n : Nat) : Nat × Nat × Nat :=
  let n400 := n / 146097
  let n := n % 146097
  let n100 := min (n / 36524) 3
  let n := n - n100 * 36524
  let n4 := n / 1461
  let n := n % 1461
  let n1 := min (n / 365) 3
  let n := n - n1 * 365
  let year := 400 * n400 + 100 * n100 + 4 * n4 + n1 + 1
  let (month, day) := monthAndDay year 11 1 n
  (year, month, day)

/-- The day of the beginning of 1970. -/
def epochDay : Nat := 719162

/-- The names of the days of the week, Monday first. -/
def dayNames : List String :=
  ["Monday", "Tuesday", "Wednesday", "Thursday", "Friday", "Saturday", "Sunday"]

/-- The names of the months, January first. -/
def monthNames : List String :=
  ["January", "February", "March", "April", "May", "June", "July", "August", "September", "October",
   "November", "December"]

end Calendar

namespace Zone

/-- Whether the zone lies less than a day from universal time. -/
def isProper (z : Zone) : Bool := z.offset.natAbs < 86400

/-- The distance from universal time as `+05:30`, with `separator` between the parts and with the seconds
only where there are some. -/
def offsetText (separator : Text) (offset : Int) : Text :=
  let s := offset.natAbs
  let two (n : Nat) := Text.padLeft 2 '0' (Text.ofNat n)
  (if offset < 0 then '-' else '+') :: (two (s / 3600) ++ separator ++ two (s / 60 % 60)
    ++ (if s % 60 = 0 then [] else separator ++ two (s % 60)))

/-- The name of a zone that is only known by its distance from universal time. -/
def fixedName (offset : Int) : Text :=
  if offset = 0 then "UTC".toList else "UTC".toList ++ offsetText [':'] offset

/-- A zone at a fixed distance from universal time. -/
def fixed (offset : Int) : Zone := { offset, name := some (fixedName offset), standard := false }

end Zone

/-- The local time zone: its distance from universal time at each instant, the instant at which its clock shows a time,
and its name and distance while standard time is in force. -/
structure LocalZone where
  /-- Seconds east of universal time, at a number of seconds after the beginning of 1970. -/
  offsetAt : Int → Int
  /-- The seconds since the beginning of 1970 at which the local clock shows as many seconds. -/
  instantOf : Int → Int
  standardName : Text
  standardOffset : Int

namespace LocalZone

/-- Local time is universal time. -/
def universal : LocalZone := ⟨fun _ => 0, id, "UTC".toList, 0⟩

/-- The seconds since the beginning of 1970 that the local clock shows at an instant. -/
def clockSeconds (l : LocalZone) (seconds : Int) : Int := seconds + l.offsetAt seconds

end LocalZone

namespace Moment

open Calendar

/-- Whether every part lies in its range. -/
def isValid (m : Moment) : Bool :=
  1 ≤ m.year && m.year ≤ 9999 && 1 ≤ m.month && m.month ≤ 12 && 1 ≤ m.day &&
    m.day ≤ daysInMonth m.year m.month && m.hour < 24 && m.minute < 60 && m.second < 60 &&
    m.microsecond < 1000000

/-- The days before the day of `m` in its year. -/
def dayOfYear (m : Moment) : Nat := daysBeforeMonth m.year m.month + (m.day - 1)

/-- The days from the first day of year 1 to the day of `m`. -/
def dayNumber (m : Moment) : Nat := daysBeforeYear m.year + m.dayOfYear

/-- The day of the week, Monday being 0. -/
def weekday (m : Moment) : Nat := m.dayNumber % 7

/-- The beginning of the day that lies `n` days after the first day of year 1. -/
def ofDayNumber (n : Nat) : Moment :=
  let (year, month, day) := dateOfDayNumber n
  { year, month, day }

/-- The same time of day, `days` days later. -/
def addDays (m : Moment) (days : Nat) : Moment :=
  let d := ofDayNumber (m.dayNumber + days)
  { m with year := d.year, month := d.month, day := d.day }

/-- The seconds since the beginning of 1970, read off the clock that `m` shows. -/
def clockSeconds (m : Moment) : Int :=
  ((m.dayNumber : Int) - epochDay) * 86400 + m.hour * 3600 + m.minute * 60 + m.second

/-- The microseconds since the beginning of 1970 in universal time; a moment without a zone is read as if
it were in universal time. -/
def instant (m : Moment) : Int :=
  (m.clockSeconds - (m.zone.map Zone.offset).getD 0) * 1000000 + m.microsecond

/-- The microseconds since the beginning of 1970, read off the clock that `m` shows. -/
def clockTime (m : Moment) : Int := m.clockSeconds * 1000000 + m.microsecond

/-- The region of the zone of a moment. -/
def region? (m : Moment) : Option Region := m.zone.bind Zone.region

/-- Whether the distance of a moment from universal time is ambiguous. -/
def isAmbiguous (m : Moment) : Bool := m.region?.any Region.isAmbiguous

/-- Whether two moments are in one region. -/
def sameRegion (m n : Moment) : Bool :=
  match m.region?, n.region? with
  | some r, some s => r.self.identity == s.self.identity
  | _, _ => false

/-- Two moments of one region are the same when its clock shows them alike.  Two other moments are the same when both or
neither have a zone, they are the same instant, and neither is ambiguous. -/
def sameInstant (m n : Moment) : Bool :=
  if m.sameRegion n then m.clockTime == n.clockTime
  else m.zone.isSome == n.zone.isSome && m.instant == n.instant && !m.isAmbiguous && !n.isAmbiguous

/-- Whether `m` is before `n`, by the clock in one region and otherwise by their instants; undecided when only one of
them has a zone. -/
def precedes? (m n : Moment) : Option Bool :=
  if m.sameRegion n then some (m.clockTime < n.clockTime)
  else if m.zone.isSome == n.zone.isSome then some (m.instant < n.instant)
  else none

/-- The moment that lies `seconds` and `microsecond` after the beginning of 1970. -/
def ofClockSeconds (seconds : Int) (microsecond : Nat) : Moment :=
  let total := (seconds + epochDay * 86400).toNat
  let d := ofDayNumber (total / 86400)
  let s := total % 86400
  { d with hour := s / 3600, minute := s / 60 % 60, second := s % 60, microsecond }

/-- The seconds and microseconds of a timestamp.  The fraction is scaled to microseconds in double
precision and rounded to the nearest, ties to even. -/
def secondsAndMicroseconds? : Binary64 → Option (Int × Nat)
  | .finite negative m e =>
    let whole := Binary64.wholePart m e
    let part :=
      if 0 ≤ e then Binary64.zero negative else Binary64.finite negative (m % 2 ^ (-e).toNat) e
    match Binary64.mul part (.finite false 1000000 0) with
    | .finite _ k f =>
      let micro :=
        if 0 ≤ f then k * 2 ^ f.toNat else Binary64.roundHalfEven k (2 ^ (-f).toNat)
      let total := Binary64.signed negative (whole * 1000000 + micro)
      some (total.fdiv 1000000, (total.fmod 1000000).toNat)
    | _ => none
  | _ => none

/-- Whether the clock shows a year of the calendar at a number of seconds after the beginning of 1970. -/
def isInCalendar (clockSeconds : Int) : Bool := -62135596800 ≤ clockSeconds && clockSeconds ≤ 253402300799

/-- The moment in local time that lies a number of seconds after the beginning of 1970.  The day before it must belong
to the calendar as well. -/
def ofSeconds (l : LocalZone) (seconds : Int) (microsecond : Nat) : Except CalendarError Moment :=
  let clock := l.clockSeconds seconds
  if seconds < -(2 ^ (63 : Nat)) ∨ 2 ^ (63 : Nat) ≤ seconds then .error .timestampTooLarge
  else if clock < -67768040609740800 ∨ 67768036191676799 < clock then .error .clockOverflow
  else if isInCalendar clock && isInCalendar (l.clockSeconds (seconds - 86400)) then
    .ok (ofClockSeconds clock microsecond)
  else .error .yearOutOfRange

/-- The moment of a timestamp with a fraction. -/
def ofTimestamp (l : LocalZone) (t : Binary64) : Except CalendarError Moment :=
  match t with
  | .notANumber _ => .error .undefinedTimestamp
  | _ =>
    match secondsAndMicroseconds? t with
    | none => .error .timestampTooLarge
    | some (seconds, microsecond) => ofSeconds l seconds microsecond

/-- The written form of a moment: date, `separator`, time, and the zone if there is one. -/
def isoText (separator : Char) (m : Moment) : Text :=
  let digits (width n : Nat) := Text.padLeft width '0' (Text.ofNat n)
  digits 4 m.year ++ ['-'] ++ digits 2 m.month ++ ['-'] ++ digits 2 m.day ++ [separator]
    ++ digits 2 m.hour ++ [':'] ++ digits 2 m.minute ++ [':'] ++ digits 2 m.second
    ++ (if m.microsecond = 0 then [] else '.' :: digits 6 m.microsecond)
    ++ (match m.zone with
      | none => []
      | some z => Zone.offsetText [':'] z.offset)

end Moment
end Liquid
