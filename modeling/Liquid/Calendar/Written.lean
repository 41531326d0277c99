import Liquid.Calendar.DayParts
import Liquid.Calendar.Lexeme
import Liquid.Calendar.Vocabulary

/-!
# Reading a written date

A written date is read lexeme by lexeme.  Numbers are hours, minutes and seconds where a colon or a unit says
so, and otherwise parts of the date; words are days of the week, months, halves of the day, zones or fillers.
What the text leaves open is taken from the present day at midnight.

## Main definitions

* `Written.readNumber` — what a number means in its surroundings.
* `Written.readWord` — what a word or a mark means in its surroundings.
* `Moment.ofWritten` — the moment that a text denotes.
-/

namespace Liquid

-- A power is that of the core library, whatever else is in scope.
attribute [local instance (2000)] instPowNat

/-- Why a text is not read as a date. -/
inductive WrittenError
  /-- The text denotes no date. -/
  | unreadable
  /-- A time has more than 28 digits before the point and is split into a whole and a fraction. -/
  | beyondPrecision
  deriving DecidableEq

namespace Written

/-- What has been read of a date. -/
structure Draft where
  parts : DayParts := {}
  weekday : Option Nat := none
  hour : Option Nat := none
  minute : Option Nat := none
  second : Option Nat := none
  microsecond : Option Nat := none
  zoneName : Option Text := none
  zoneOffset : Option Int := none

/-- A step of reading: what has been read, how many of the following lexemes belong to it, and these
lexemes, of which the first may have changed its sense. -/
structure Step where
  draft : Draft
  used : Nat := 0
  rest : List Text

/-- A part that may not be missing. -/
def need {α : Type} (x : Option α) : Except WrittenError α :=
  match x with
  | some a => .ok a
  | none => .error .unreadable

/-- A whole number without a sign. -/
def natural (t : Text) : Except WrittenError Nat :=
  match Numeral.integer? t with
  | some (.ofNat n) => .ok n
  | _ => .error .unreadable

/-! ## Decimals -/

/-- A decimal number: `digits / 10 ^ places`. -/
structure Decimal where
  digits : Nat
  places : Nat

/-- The decimal that a lexeme denotes: digits with at most one point. -/
def decimal? (t : Text) : Option Decimal :=
  let (whole, rest) := Numeral.digitRun t
  let (fraction, after) := Numeral.fraction rest
  if after.isEmpty && !(whole.isEmpty && fraction.isEmpty) then
    some ⟨Numeral.ofDigits (whole ++ fraction), fraction.length⟩
  else none

/-- Whether a lexeme is a word for something that is a number but not finite. -/
def isUnboundedWord (t : Text) : Bool :=
  match Numeral.double? t with
  | some (.finite ..) => false
  | some _ => (decimal? t).isNone
  | none => false

namespace Decimal

/-- The whole part. -/
def whole (x : Decimal) : Nat := x.digits / 10 ^ x.places

/-- A fraction `n / 10 ^ places` rounded to 28 significant digits, ties to even. -/
def round (n places : Nat) : Decimal :=
  let excess := (Text.ofNat n).length - 28
  ⟨Binary64.roundHalfEven n (10 ^ excess) * 10 ^ excess, places⟩

/-- The sixtieths that the fraction contains, if there is a fraction. -/
def sixtieths (x : Decimal) : Except WrittenError (Option Nat) :=
  if 10 ^ (28 : Nat) ≤ x.whole then .error .beyondPrecision
  else
    let part := x.digits % 10 ^ x.places
    if part = 0 then .ok none
    else .ok (some (round (60 * (round part x.places).digits) x.places).whole)

end Decimal

/-- Seconds and microseconds of a numeral with at most one point. -/
def secondsOf (t : Text) : Except WrittenError (Nat × Nat) :=
  match Text.splitAtChar '.' t with
  | [whole] => return (← natural whole, 0)
  | [whole, fraction] =>
    return (← natural whole, ← natural ((fraction ++ List.replicate (6 - fraction.length) '0').take 6))
  | _ => .error .unreadable

/-! ## Numbers -/

/-- The unit of time that belongs to a number and the number of following lexemes it takes.  A unit before
the number stands for the next smaller one. -/
def unitNear? (before rest : List Text) : Option (Nat × Nat) :=
  let next := rest.head?.bind Vocabulary.unit?
  let afterSpace :=
    match rest with
    | [' '] :: u :: _ => Vocabulary.unit? u
    | _ => none
  let previous := before.head?.bind Vocabulary.unit?
  let beforeSpace :=
    match before, rest with
    | [' '] :: u :: _, [] => Vocabulary.unit? u
    | _, _ => none
  (next.map (·, 1)) <|> (afterSpace.map (·, 2)) <|> (previous.map (· + 1, 0)) <|>
    (beforeSpace.map (· + 1, 0))

/-- A number with its unit of time. -/
def withUnit (d : Draft) (t : Text) (x : Decimal) (unit : Nat) : Except WrittenError Draft := do
  if unit = 0 then
    match ← x.sixtieths with
    | none => return { d with hour := some x.whole }
    | some minute => return { d with hour := some x.whole, minute := some minute }
  else if unit = 1 then
    return { d with minute := some x.whole, second := ← x.sixtieths }
  else if unit = 2 then
    let (second, microsecond) ← secondsOf t
    return { d with second := some second, microsecond := some microsecond }
  else return d

/-- The time `hour : minute [: second]`, from the hour and the lexemes after it. -/
def clockTime (d : Draft) (hour : Nat) (minute : Text) (rest : List Text) :
    Except WrittenError (Draft × Nat) := do
  let x ← need (decimal? minute)
  let d := { d with hour := some hour, minute := some x.whole, second := ← x.sixtieths }
  match rest with
  | [':'] :: seconds :: _ =>
    let (second, microsecond) ← secondsOf seconds
    return ({ d with second := some second, microsecond := some microsecond }, 4)
  | _ => return (d, 2)

/-- A number that is followed by the mark `sep` and perhaps by further parts of the date. -/
def separatedDate (d : Draft) (t sep : Text) (rest : List Text) : Except WrittenError (Draft × Nat) := do
  let parts ← need (d.parts.addNumeral t none)
  match rest with
  | [] => return ({ d with parts }, 1)
  | second :: rest =>
    if Vocabulary.isFiller second then return ({ d with parts }, 1)
    else
      let parts ←
        if second.all Text.isDigit then need (parts.addNumeral second none)
        else need ((Vocabulary.month? second).bind (parts.push · (some .month)))
      match rest with
      | [] => return ({ d with parts }, 2)
      | mark :: rest =>
        if mark ≠ sep then return ({ d with parts }, 2)
        else
          let third ← need rest.head?
          let parts ←
            match Vocabulary.month? third with
            | some month => need (parts.push month (some .month))
            | none => need (parts.addNumeral third none)
          return ({ d with parts }, 4)

/-- Two, four or six digits in a row: hours, minutes and seconds. -/
def packedTime (d : Draft) (t : Text) : Except WrittenError Draft := do
  let (second, microsecond) ← secondsOf (t.drop 4)
  return { d with
    hour := some (← natural (t.take 2))
    minute := some (← natural ((t.drop 2).take 2))
    second := some second
    microsecond := some microsecond }

/-- Eight digits in a row are a date; twelve or fourteen have a time behind it. -/
def packedDate (d : Draft) (t : Text) : Except WrittenError Draft := do
  let parts ← need <| d.parts.addNumeral (t.take 4) (some .year) >>= fun p =>
    p.addNumeral ((t.drop 4).take 2) none >>= fun p => p.addNumeral ((t.drop 6).take 2) none
  let d := { d with parts }
  if t.length ≤ 8 then return d
  let hour ← natural ((t.drop 8).take 2)
  let minute ← natural ((t.drop 10).take 2)
  let d := { d with hour := some hour, minute := some minute }
  if t.length ≤ 12 then return d
  return { d with second := some (← natural (t.drop 12)) }

/-- A number as a part of the date. -/
def datePart (d : Draft) (x : Decimal) : Except WrittenError Draft := do
  return { d with parts := ← need (d.parts.add x.whole (100 * 10 ^ x.places < x.digits) none) }

/-- What the number `t` with the value `x` means between the lexemes `before` it, nearest first, and those
after it: what has been read, and how many of the lexemes after it belong to it. -/
def readNumber (d : Draft) (before : List Text) (t : Text) (x : Decimal) (rest : List Text) :
    Except WrittenError (Draft × Nat) := do
  let length := t.length
  let opensTime :=
    match rest with
    | [] => true
    | next :: _ => next ≠ [':'] && (Vocabulary.unit? next).isNone
  if d.parts.values.length = 3 && (length = 2 || length = 4) && d.hour.isNone && opensTime then
    let d := { d with hour := some (← natural (t.take 2)) }
    if length = 4 then return ({ d with minute := some (← natural (t.drop 2)) }, 0)
    else return (d, 0)
  else if length = 6 || (6 < length && t.idxOf? '.' = some 6) then
    if d.parts.values.isEmpty && !t.contains '.' then
      let parts ← need <| d.parts.addNumeral (t.take 2) none >>= fun p =>
        p.addNumeral ((t.drop 2).take 2) none >>= fun p => p.addNumeral (t.drop 4) none
      return ({ d with parts }, 0)
    else return (← packedTime d t, 0)
  else if length = 8 || length = 12 || length = 14 then
    return (← packedDate d t, 0)
  else
    match unitNear? before rest with
    | some (unit, used) => return (← withUnit d t x unit, used)
    | none =>
      match rest with
      | [] => return (← datePart d x, 1)
      | next :: after =>
        if next = [':'] && !after.isEmpty then clockTime d x.whole (after.headD []) (after.drop 1)
        else if next = ['-'] || next = ['/'] || next = ['.'] then separatedDate d t next after
        else if Vocabulary.isFiller next then
          match after.head?.bind Vocabulary.afternoon? with
          | some afternoon => return ({ d with hour := some (Vocabulary.withHalf x.whole afternoon) }, 2)
          | none => return (← datePart d x, 1)
        else
          match Vocabulary.afternoon? next with
          | some afternoon =>
            if x.digits < 24 * 10 ^ x.places then
              return ({ d with hour := some (Vocabulary.withHalf x.whole afternoon) }, 1)
            else if d.parts.couldBeDay x.digits (10 ^ x.places) then return (← datePart d x, 0)
            else .error .unreadable
          | none =>
            if d.parts.couldBeDay x.digits (10 ^ x.places) then return (← datePart d x, 0)
            else .error .unreadable

/-! ## Words and marks -/

/-- A month by its name, with the parts of the date that may follow it. -/
def readMonth (now : Moment) (d : Draft) (month : Nat) (rest : List Text) :
    Except WrittenError (Draft × Nat) := do
  let parts ← need (d.parts.push month (some .month))
  match rest with
  | [] => return ({ d with parts }, 0)
  | sep :: after =>
    if sep = ['-'] || sep = ['/'] then
      let parts ← need (after.head?.bind (parts.addNumeral · none))
      match after.drop 1 with
      | [] => return ({ d with parts }, 2)
      | mark :: after =>
        if mark = sep then
          let parts ← need (after.head?.bind (parts.addNumeral · none))
          return ({ d with parts }, 4)
        else return ({ d with parts }, 2)
    else
      match rest with
      | [' '] :: of :: [' '] :: year :: _ =>
        if Vocabulary.isOf of then
          if year.all Text.isDigit then
            let full := fullYear now.year (← natural year) false
            let parts ← need (parts.addNumeral (Text.ofNat full) (some .year))
            return ({ d with parts }, 4)
          else return ({ d with parts }, 4)
        else return ({ d with parts }, 0)
      | _ => return ({ d with parts }, 0)

/-- Whether a lexeme can name the zone of the time that has been read. -/
def namesZone (d : Draft) (offset : Option Int) (t : Text) : Bool :=
  d.hour.isSome && d.zoneName.isNone && offset.isNone && Vocabulary.couldNameZone t

/-- A zone by its name.  A difference after the name says what to add to get to the zone, so its sign is
turned round, and a difference from universal time leaves the zone without a name. -/
def readZoneName (d : Draft) (t : Text) (rest : List Text) : Step :=
  let turned (sign : Text) (after : List Text) : Step :=
    { draft :=
        { d with zoneName := if Vocabulary.isUniversal t then none else some t, zoneOffset := none }
      rest := sign :: after }
  match rest with
  | ['+'] :: after => turned ['-'] after
  | ['-'] :: after => turned ['+'] after
  | _ => { draft := { d with zoneName := some t, zoneOffset := if t = ['z'] then some 0 else none }, rest }

/-- A difference from universal time, from the lexemes after its sign, with the name of the zone if it
follows in parentheses. -/
def readOffset (d : Draft) (negative : Bool) (rest : List Text) : Except WrittenError (Draft × Nat) := do
  let first ← need rest.head?
  let (hours, minutes, used) ←
    if first.length = 4 then
      pure (← natural (first.take 2), ← natural (first.drop 2), 1)
    else
      match rest.drop 1 with
      | [':'] :: after => pure (← natural first, ← natural (after.headD []), 3)
      | _ =>
        if first.length ≤ 2 then pure (← natural first, 0, 1) else .error .unreadable
  let offset := Binary64.signed negative (hours * 3600 + minutes * 60)
  let d := { d with zoneOffset := some offset }
  match rest.drop used with
  | filler :: ['('] :: name :: [')'] :: _ =>
    if Vocabulary.isFiller filler && 3 ≤ name.length && namesZone d none name then
      return ({ d with zoneName := some name }, used + 4)
    else return (d, used)
  | _ => return (d, used)

/-- What a word or a mark means before the lexemes `rest`. -/
def readWord (now : Moment) (d : Draft) (t : Text) (rest : List Text) : Except WrittenError Step := do
  match Vocabulary.weekday? t with
  | some weekday => return { draft := { d with weekday := some weekday }, rest }
  | none =>
  match Vocabulary.month? t with
  | some month =>
    let (draft, used) ← readMonth now d month rest
    return { draft, used, rest }
  | none =>
  match Vocabulary.afternoon? t with
  | some afternoon =>
    let hour ← need d.hour
    if hour ≤ 12 then return { draft := { d with hour := some (Vocabulary.withHalf hour afternoon) }, rest }
    else .error .unreadable
  | none =>
    if namesZone d d.zoneOffset t then return readZoneName d t rest
    else if d.hour.isSome && (t = ['+'] || t = ['-']) then
      let (draft, used) ← readOffset d (t = ['-']) rest
      return { draft, used, rest }
    else if Vocabulary.isFiller t then return { draft := d, rest }
    else .error .unreadable

/-- What one lexeme means in its surroundings. -/
def readLexeme (now : Moment) (d : Draft) (before : List Text) (t : Text) (rest : List Text) :
    Except WrittenError Step := do
  match decimal? t with
  | some x =>
    let (draft, used) ← readNumber d before t x rest
    return { draft, used, rest }
  | none => if isUnboundedWord t then .error .unreadable else readWord now d t rest

/-- All lexemes, after those `before` them, nearest first. -/
def readAll (now : Moment) : (fuel : Nat) → Draft → (before lexemes : List Text) → Except WrittenError Draft
  | 0, d, _, _ => .ok d
  | _, d, _, [] => .ok d
  | fuel + 1, d, before, t :: rest => do
    let step ← readLexeme now d before t rest
    readAll now fuel step.draft ((step.rest.take step.used).reverse ++ t :: before) (step.rest.drop step.used)

/-! ## From what has been read to a moment -/

/-- The zone of a date: its name and its offset, if it has any. -/
def zoneOf (d : Draft) : Except WrittenError (Option Zone) :=
  let universal : Zone := { offset := 0, name := some "UTC".toList, standard := true }
  let unnamed := d.zoneName.isNone || d.zoneName = some []
  if (d.zoneOffset = some 0 && unnamed) || d.zoneName = some ['Z'] || d.zoneName = some ['z'] then
    .ok (some universal)
  else if d.zoneName.any Vocabulary.isUniversal then .ok (some universal)
  else
    match d.zoneOffset with
    | none => .ok none
    | some offset =>
      if offset = 0 then .ok (some universal)
      else if 86399999999999 < offset.natAbs then .error .unreadable
      else .ok (some { offset, name := d.zoneName, standard := true })

/-- Whether anything at all has been read. -/
def isEmpty (d : Draft) (ymd : DayParts.Resolved) : Bool :=
  let (year, month, day) := ymd
  year.isNone && month.isNone && day.isNone && d.weekday.isNone && d.hour.isNone && d.minute.isNone &&
    d.second.isNone && d.microsecond.isNone && d.zoneName.isNone && d.zoneOffset.isNone

/-- The moment of a date that has been read.  Open parts come from the beginning of the day `now`; an open
day is brought back into its month, and a day of the week moves an open day forward to that day. -/
def momentOf (now : Moment) (d : Draft) : Except WrittenError Moment := do
  let (year, month, day) ← need d.parts.resolve
  let year := year.map (fullYear now.year · d.parts.centuryGiven)
  if isEmpty d (year, month, day) then .error .unreadable
  let y := year.getD now.year
  let m := month.getD now.month
  let lastDay := Calendar.daysInMonth y m
  let moment : Moment :=
    { year := y
      month := m
      day := day.getD (min now.day lastDay)
      hour := d.hour.getD 0
      minute := d.minute.getD 0
      second := d.second.getD 0
      microsecond := d.microsecond.getD 0 }
  if !moment.isValid then .error .unreadable
  let moment :=
    match d.weekday, day with
    | some weekday, none => moment.addDays ((7 + weekday - moment.weekday) % 7)
    | _, _ => moment
  if !moment.isValid then .error .unreadable
  return { moment with zone := ← zoneOf d }

end Written

/-- The moment that a written date denotes, read on the day `now`. -/
def Moment.ofWritten (now : Moment) (t : Text) : Except WrittenError Moment := do
  let lexemes := Lexeme.cut t
  Written.momentOf now (← Written.readAll now lexemes.length {} [] lexemes)

end Liquid
