import Liquid.Calendar.Moment
import Liquid.Number.Numeral

/-!
# The parts of a date in the order they are written

A written date gives up to three numbers for year, month and day, in an order that is only partly known.  A
number can be labelled when it is read: a month by its name, a year by having more than two digits or
exceeding 100.  `DayParts.resolve` settles the rest: month first unless the size of a number speaks against
it.

## Main definitions

* `DayParts.add`, `DayParts.addNumeral` — one more number, with or without a label.
* `DayParts.resolve` — year, month and day.
* `fullYear` — the year that two digits stand for.
-/

namespace Liquid

/-- A part of a date. -/
inductive DatePart
  | year
  | month
  | day
  deriving DecidableEq

/-- The numbers of a date in the order they are written, with the places of those that are labelled. -/
structure DayParts where
  values : List Nat := []
  yearAt : Option Nat := none
  monthAt : Option Nat := none
  dayAt : Option Nat := none
  /-- Whether some number can only be a year with its century. -/
  centuryGiven : Bool := false

namespace DayParts

/-- One more number; none if its label is already taken. -/
def push (p : DayParts) (n : Nat) (label : Option DatePart) : Option DayParts :=
  let place := some p.values.length
  let p' := { p with values := p.values ++ [n] }
  match label with
  | none => some p'
  | some .year => if p.yearAt.isSome then none else some { p' with yearAt := place }
  | some .month => if p.monthAt.isSome then none else some { p' with monthAt := place }
  | some .day => if p.dayAt.isSome then none else some { p' with dayAt := place }

/-- One more number, which is a year if it is `long`; none if it is labelled otherwise. -/
def add (p : DayParts) (n : Nat) (long : Bool) (label : Option DatePart) : Option DayParts :=
  if long then
    if label = none || label = some .year then { p with centuryGiven := true }.push n (some .year) else none
  else p.push n label

/-- One more number, given by its numeral: a year if it has more than two digits. -/
def addNumeral (p : DayParts) (t : Text) (label : Option DatePart) : Option DayParts :=
  let long := t.all Text.isDigit && 2 < t.length
  match Numeral.integer? t with
  | some (.ofNat n) => p.add n long label
  | _ => none

/-- Whether the day is still open and `n / d` can be it. -/
def couldBeDay (p : DayParts) (n d : Nat) : Bool :=
  let value? (place : Option Nat) := place.bind (p.values[·]?)
  let within (length : Nat) : Bool := d ≤ n && n ≤ length * d
  if p.dayAt.isSome then false
  else
    match value? p.monthAt, value? p.yearAt with
    | none, _ => within 31
    | some month, none => within (Calendar.daysInMonth 2000 month)
    | some month, some year => within (Calendar.daysInMonth year month)

/-- Year, month and day, each of which may be missing. -/
abbrev Resolved := Option Nat × Option Nat × Option Nat

/-- Three numbers when two of their places are labelled: the third place is what is left. -/
def fillThird (p : DayParts) : Option Nat × Option Nat × Option Nat :=
  let open? (a b : Option Nat) := [0, 1, 2].find? fun i => some i != a && some i != b
  match p.yearAt, p.monthAt, p.dayAt with
  | none, m, d => (open? m d, m, d)
  | y, none, d => (y, open? y d, d)
  | y, m, none => (y, m, open? y m)
  | y, m, d => (y, m, d)

/-- The numbers at the given places. -/
def atPlaces (p : DayParts) (places : Option Nat × Option Nat × Option Nat) : Resolved :=
  let (y, m, d) := places
  (y.bind (p.values[·]?), m.bind (p.values[·]?), d.bind (p.values[·]?))

/-- Three numbers of which at most the month is labelled. -/
def resolveThree (monthAt yearAt : Option Nat) (a b c : Nat) : Resolved :=
  let mdy : Resolved := (some c, some a, some b)
  match monthAt with
  | some 0 => if 31 < b then (some b, some a, some c) else mdy
  | some 1 => if 31 < a then (some a, some b, some c) else (some c, some b, some a)
  | some _ => if 31 < b then (some b, some c, some a) else (some a, some c, some b)
  | none =>
    if 31 < a || yearAt = some 0 then (some a, some b, some c)
    else if 12 < a then (some c, some b, some a)
    else mdy

/-- The year, the month and the day; none if there are more than three numbers. -/
def resolve (p : DayParts) : Option Resolved :=
  let labels := p.yearAt.toList.length + p.monthAt.toList.length + p.dayAt.toList.length
  let count := p.values.length
  if 0 < count && count = labels then some (p.atPlaces (p.yearAt, p.monthAt, p.dayAt))
  else if count = 3 && labels = 2 then some (p.atPlaces p.fillThird)
  else
    match p.values, p.monthAt with
    | [], _ => some (none, none, none)
    | [a], none => if 31 < a then some (some a, none, none) else some (none, none, some a)
    | [a], some _ => some (none, some a, none)
    | [a, b], none =>
      if 31 < a then some (some a, some b, none)
      else if 31 < b then some (some b, some a, none)
      else some (none, some a, some b)
    | [a, b], some i =>
      let (month, other) := if i = 0 then (a, b) else (b, a)
      if 31 < other then some (some other, some month, none) else some (none, some month, some other)
    | [a, b, c], m => some (resolveThree m p.yearAt a b c)
    | _, _ => none

end DayParts

/-- The year that a number stands for in the year `now`: two digits stand for the year of that ending that
lies less than fifty years ahead and at most fifty years back. -/
def fullYear (now : Nat) (year : Nat) (centuryGiven : Bool) : Nat :=
  if year < 100 && !centuryGiven then
    let year := year + now / 100 * 100
    if now + 50 ≤ year then year - 100
    else if year + 50 < now then year + 100
    else year
  else year

end Liquid
