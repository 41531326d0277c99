import Liquid.Calendar.Moment
import Liquid.Text.Case

/-!
# Date patterns

A pattern is a text in which a percent sign introduces a directive: flags, a width, a modifier and a
conversion, as in `%-d` or `%010Y`.  `Moment.format` writes a moment by a pattern in two passes.  The first
replaces the three conversions that the clock fields alone do not determine, `%z`, `%Z` and `%f`, where they
are written without flags.  The second carries out all other directives, and takes the moment for one of local time.
What is no directive stands for itself.

## Main definitions

* `Moment.fillZone` — the first pass.
* `Directive.read?` — a directive at the head of a text.
* `Moment.carryOut` — the second pass.
* `Moment.format` — both passes; a text longer than a bound that grows with the pattern comes out empty.
-/

namespace Liquid

-- A power is that of the core library, whatever else is in scope.
attribute [local instance (2000)] instPowNat

/-- A directive of a date pattern.  `conversion` is missing when the pattern ends inside the directive. -/
structure Directive where
  /-- The last of the flags `_`, `-` and `0`. -/
  padding : Option Char
  /-- Whether the flag `^` is set. -/
  upper : Bool
  /-- Whether the flag `#` is set. -/
  swapped : Bool
  width : Nat
  /-- `E` or `O`. -/
  modifier : Option Char
  conversion : Option Char
  /-- The directive as it is written, the percent sign included. -/
  source : Text

/-- What a conversion stands for. -/
inductive DateField
  /-- A word; `changed` is its form under the flag `#`. -/
  | word (t changed : Text)
  /-- A number of at least `digits` digits, filled up with zeros or with blanks. -/
  | number (digits : Nat) (blank : Bool) (n : Int)
  /-- A difference from universal time in seconds: a sign and four digits. -/
  | difference (offset : Int)
  /-- A name that the flag `-` keeps from being widened. -/
  | zone (t : Text)
  /-- Nothing, whatever the width. -/
  | nothing
  /-- A pattern of plain directives. -/
  | pattern (p : Text)

namespace Directive

/-- The flags at the head of a text, and the text after them. -/
def flags : Text → Text × Text
  | c :: rest =>
    if "_-0^#".toList.contains c then
      let (fs, after) := flags rest
      (c :: fs, after)
    else ([], c :: rest)
  | [] => ([], [])

/-- The directive whose text after the percent sign begins with `t`, and the text after it. -/
def read (t : Text) : Directive × Text :=
  let (fs, afterFlags) := flags t
  let digits := afterFlags.takeWhile Char.isDigit
  let afterWidth := afterFlags.dropWhile Char.isDigit
  let (modifier, afterModifier) :=
    match afterWidth with
    | c :: rest => if c = 'E' || c = 'O' then (some c, rest) else (none, afterWidth)
    | [] => (none, [])
  let after := afterModifier.drop 1
  let conversion := afterModifier.head?
  ({ padding := (fs.filter ("_-0".toList.contains ·)).getLast?
     upper := fs.contains '^'
     swapped := fs.contains '#'
     width := digits.foldl (fun n c => 10 * n + (c.toNat - '0'.toNat)) 0
     modifier
     conversion
     source := if conversion = some '%' then ['%'] else '%' :: t.take (t.length - after.length) },
   after)

/-- Widened to the width of the directive. -/
def pad (d : Directive) (t : Text) : Text :=
  Text.padLeft d.width (if d.padding = some '0' then '0' else ' ') t

/-- A number of at least `digits` digits under the flags of the directive. -/
def number (d : Directive) (digits : Nat) (blank : Bool) (n : Int) : Text :=
  let body := Text.ofNat n.natAbs
  let width := max digits d.width
  let padding := if blank && d.padding != some '0' && d.padding != some '-' then some '_' else d.padding
  let signText : Text := if n < 0 then ['-'] else []
  d.pad <|
    if padding = some '-' then signText ++ body
    else if padding = some '_' then Text.padLeft width ' ' (signText ++ body)
    else signText ++ Text.padLeft (width - signText.length) '0' body

/-- Whether the conversion of a directive may carry its modifier. -/
def admitsModifier (d : Directive) : Bool :=
  match d.modifier, d.conversion with
  | none, _ => true
  | _, none => false
  | some m, some c =>
    if "%aADF".toList.contains c then false
    else if m = 'E' then !"bhBdeHIklgGjmMSUVwW".toList.contains c
    else !"cxXY".toList.contains c

end Directive

namespace Moment

open Calendar

/-- Hours on a twelve hour clock. -/
def hour12 (m : Moment) : Nat := if m.hour % 12 = 0 then 12 else m.hour % 12

/-- The Thursday of the week of `m`, which decides to which year the week belongs. -/
def thursday (m : Moment) : Moment := ofDayNumber (m.dayNumber - m.weekday + 3)

/-- The days since the last Sunday. -/
def daysSinceSunday (m : Moment) : Nat := (m.weekday + 1) % 7

/-- The name of the day of the week. -/
def dayName (m : Moment) : Text := (dayNames.getD m.weekday "").toList

/-- The name of the month. -/
def monthName (m : Moment) : Text := (monthNames.getD (m.month - 1) "").toList

/-- A name, which is written in capitals under the flag `#`. -/
def named (t : Text) : DateField := .word t (Text.toUpper t)

/-- What a conversion stands for at a moment of local time; nothing for an unknown one. -/
def field? (l : LocalZone) (m : Moment) : Char → Option DateField
  | '%' => some (.word ['%'] ['%'])
  | 'a' => some (named (m.dayName.take 3))
  | 'A' => some (named m.dayName)
  | 'b' | 'h' => some (named (m.monthName.take 3))
  | 'B' => some (named m.monthName)
  | 'c' => some (.pattern "%a %b %e %H:%M:%S %Y".toList)
  | 'C' => some (.number 1 false (m.year / 100))
  | 'd' => some (.number 2 false m.day)
  | 'D' | 'x' => some (.pattern "%m/%d/%y".toList)
  | 'e' => some (.number 2 true m.day)
  | 'F' => some (.pattern "%Y-%m-%d".toList)
  | 'g' => some (.number 2 false (m.thursday.year % 100))
  | 'G' => some (.number 1 false m.thursday.year)
  | 'H' => some (.number 2 false m.hour)
  | 'I' => some (.number 2 false m.hour12)
  | 'j' => some (.number 3 false (m.dayOfYear + 1))
  | 'k' => some (.number 2 true m.hour)
  | 'l' => some (.number 2 true m.hour12)
  | 'm' => some (.number 2 false m.month)
  | 'M' => some (.number 2 false m.minute)
  | 'n' => some (.word ['\n'] ['\n'])
  | 'p' => if m.hour < 12 then some (.word "AM".toList "am".toList) else some (.word "PM".toList "pm".toList)
  | 'P' => if m.hour < 12 then some (.word "am".toList "am".toList) else some (.word "pm".toList "pm".toList)
  | 'r' => some (.pattern "%I:%M:%S %p".toList)
  | 'R' => some (.pattern "%H:%M".toList)
  | 's' =>
    let seconds := Text.ofInt (l.instantOf m.clockSeconds)
    some (.word seconds seconds)
  | 'S' => some (.number 2 false m.second)
  | 't' => some (.word ['\t'] ['\t'])
  | 'T' | 'X' => some (.pattern "%H:%M:%S".toList)
  | 'u' => some (.number 1 false (m.weekday + 1))
  | 'U' => some (.number 2 false ((m.dayOfYear + 7 - m.daysSinceSunday) / 7))
  | 'V' => some (.number 2 false (m.thursday.dayOfYear / 7 + 1))
  | 'w' => some (.number 1 false m.daysSinceSunday)
  | 'W' => some (.number 2 false ((m.dayOfYear + 7 - m.weekday) / 7))
  | 'y' => some (.number 2 false (m.year % 100))
  | 'Y' => some (.number 1 false m.year)
  | 'z' => if m.zone.any Zone.standard then some (.difference l.standardOffset) else some .nothing
  | 'Z' => some (.zone (if m.zone.any Zone.standard then l.standardName else []))
  | _ => none

/-- A conversion without flags; a pattern inside a pattern stands for nothing. -/
def plainField (l : LocalZone) (m : Moment) (c : Char) : Text :=
  match m.field? l c with
  | some (.word t _) => t
  | some (.number digits blank n) => Text.padLeft digits (if blank then ' ' else '0') (Text.ofInt n)
  | _ => []

/-- A pattern of plain directives, written out. -/
def plainPattern (l : LocalZone) (m : Moment) : Text → Text
  | '%' :: c :: rest => m.plainField l c ++ plainPattern l m rest
  | c :: rest => c :: plainPattern l m rest
  | [] => []

/-- A directive that is not carried out, as it is written.  The flag `#` is obeyed all the same by the short
name of a month. -/
def refusedText (d : Directive) : Text :=
  let changed := d.swapped && (d.conversion = some 'b' || d.conversion = some 'h')
  d.pad (if d.upper || changed then Text.toUpper d.source else d.source)

/-- A directive, carried out.  An unknown one stands for itself. -/
def directiveText (l : LocalZone) (m : Moment) (d : Directive) : Text :=
  let cased (t : Text) := if d.upper then Text.toUpper t else t
  match (d.conversion.bind (m.field? l)), d.admitsModifier with
  | some (.word t changed), true =>
    d.pad (if d.conversion = some 'P' || (d.swapped && t != changed) then changed else cased t)
  | some (.number digits blank n), true => d.number digits blank n
  | some (.difference offset), true =>
    let minutes := offset.natAbs / 60
    d.pad [if offset < 0 then '-' else '+'] ++ d.number 4 false (minutes / 60 * 100 + minutes % 60 : Nat)
  | some (.zone t), true => if d.padding = some '-' then t else d.pad t
  | some .nothing, true => []
  | some (.pattern p), true => d.pad (cased (m.plainPattern l p))
  | _, _ => refusedText d

/-- The text of a pattern, or nothing when a directive asks for `bound` characters or more. -/
def carryOutFrom (l : LocalZone) (m : Moment) (bound : Nat) : (fuel : Nat) → Text → Option Text
  | 0, _ => some []
  | _, [] => some []
  | fuel + 1, '%' :: rest =>
    let (d, after) := Directive.read rest
    if bound ≤ d.width then none
    else (carryOutFrom l m bound fuel after).map (m.directiveText l d ++ ·)
  | fuel + 1, c :: rest => (carryOutFrom l m bound fuel rest).map (c :: ·)

/-- The least doubling of 1024 that is at least 256 times `length`. -/
def outputBound (length : Nat) : Nat :=
  let blocks := (length + 3) / 4
  if blocks ≤ 1 then 1024 else 1024 * 2 ^ ((blocks - 1).log2 + 1)

/-- A pattern with its directives carried out; a text that reaches the bound comes out empty. -/
def carryOut (l : LocalZone) (m : Moment) (p : Text) : Text :=
  let bound := outputBound p.length
  match m.carryOutFrom l bound p.length p with
  | none => []
  | some t => if t.length < bound then t else []

/-- The distance from universal time for `%z`. -/
def zoneOffsetText (m : Moment) : Except CalendarError Text :=
  match m.zone with
  | none => .ok []
  | some z => if z.isProper then .ok (Zone.offsetText [] z.offset) else .error .offsetTooLarge

/-- The name of the zone for `%Z`; its percent signs stand for themselves. -/
def zoneNameText (m : Moment) : Text :=
  ((m.zone.bind Zone.name).getD []).flatMap fun c => if c = '%' then ['%', '%'] else [c]

/-- A pattern with the plain `%z`, `%Z` and `%f` replaced.  A null character ends the pattern. -/
def fillZone (m : Moment) : Text → Except CalendarError Text
  | [] => .ok []
  | [c] => .ok (if c.toNat = 0 then [] else [c])
  | '%' :: c :: rest =>
    if c.toNat = 0 then .ok ['%']
    else do
      let piece ←
        if c = 'z' then m.zoneOffsetText
        else if c = 'Z' then .ok m.zoneNameText
        else if c = 'f' then .ok (Text.padLeft 6 '0' (Text.ofNat m.microsecond))
        else .ok ['%', c]
      return piece ++ (← fillZone m rest)
  | c :: rest => if c.toNat = 0 then .ok [] else do return c :: (← fillZone m rest)

/-- A moment, written by a pattern. -/
def format (l : LocalZone) (m : Moment) (pattern : Text) : Except CalendarError Text :=
  (m.fillZone pattern).map (m.carryOut l)

end Moment
end Liquid
