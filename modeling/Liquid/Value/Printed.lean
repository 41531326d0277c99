import Liquid.Number.Shortest
import Liquid.Text.Quoted
import Liquid.Value.Basic

/-!
# Values as text

A value has two written forms.  The plain form is what a filter puts into a text: a text is itself.  The
shown form stands in messages and inside collections: there a text is quoted and a moment is spelled out.
What a template emits differs from the plain form in three points: `nil` is empty, truth values are lower
case, and a list is its items one after the other.

## Main definitions

* `Value.shown`, `Value.plain`, `Value.emitted` — the three forms.
* `Value.isWritable` — whether every whole number in a value is short enough to be written.
-/

namespace Liquid

/-- A length of time as days, hours, minutes and seconds. -/
def Facet.durationText (microseconds : Int) : Text :=
  let days := microseconds.fdiv 86400000000
  let rest := (microseconds.fmod 86400000000).toNat
  let two (n : Nat) := Text.padLeft 2 '0' (Text.ofNat n)
  let seconds := rest / 1000000
  let fraction := rest % 1000000
  (if days = 0 then []
    else Text.ofInt days ++ (if days = 1 ∨ days = -1 then " day, ".toList else " days, ".toList))
    ++ Text.ofNat (seconds / 3600) ++ [':'] ++ two (seconds / 60 % 60) ++ [':'] ++ two (seconds % 60)
    ++ (if fraction = 0 then [] else '.' :: Text.padLeft 6 '0' (Text.ofNat fraction))

/-- The constructor call that makes a length of time. -/
def Facet.durationCall (microseconds : Int) : Text :=
  let days := microseconds.fdiv 86400000000
  let rest := (microseconds.fmod 86400000000).toNat
  let part (name : String) (n : Int) : List Text := if n = 0 then [] else [name.toList ++ Text.ofInt n]
  let parts :=
    part "days=" days ++ part "seconds=" (rest / 1000000 : Nat) ++ part "microseconds=" (rest % 1000000 : Nat)
  "datetime.timedelta(".toList ++ (if parts.isEmpty then ['0'] else Text.join ", ".toList parts) ++ [')']

/-- The constructor call that makes a time zone. -/
def Facet.zoneCall (offset : Int) : Text :=
  if offset = 0 then "datetime.timezone.utc".toList
  else "datetime.timezone(".toList ++ Facet.durationCall (offset * 1000000) ++ [')']

/-- The plain form of a facet. -/
def Facet.plain : Facet → Text
  | .method name => "<built-in method ".toList ++ name ++ ['>']
  | .zone offset => Zone.fixedName offset
  | .duration n => Facet.durationText n

/-- The shown form of a facet. -/
def Facet.shown : Facet → Text
  | .method name => "<built-in method ".toList ++ name ++ ['>']
  | .zone offset => Facet.zoneCall offset
  | .duration n => Facet.durationCall n

/-- The shown form of a zone. -/
def Zone.shown (z : Zone) : Text :=
  match z.region with
  | none => Facet.zoneCall z.offset
  | some r => r.self.shown

/-- The constructor call that makes a moment. -/
def Moment.call (m : Moment) : Text :=
  let time : List Nat :=
    if m.microsecond ≠ 0 then [m.hour, m.minute, m.second, m.microsecond]
    else if m.second ≠ 0 then [m.hour, m.minute, m.second]
    else [m.hour, m.minute]
  "datetime.datetime(".toList ++ Text.join ", ".toList (([m.year, m.month, m.day] ++ time).map Text.ofNat)
    ++ (if m.region?.any Region.isLater then ", fold=1".toList else [])
    ++ (match m.zone with
      | none => []
      | some z => ", tzinfo=".toList ++ z.shown)
    ++ [')']

namespace Value

/-- The written form of a truth value. -/
def boolText (b : Bool) : Text := if b then "True".toList else "False".toList

/-- The written form of a range. -/
def rangeText (start stop : Int) : Text :=
  "range(".toList ++ Text.ofInt start ++ ", ".toList ++ Text.ofInt stop ++ [')']

mutual

/-- The shown form of a value. -/
def shown : Value → Text
  | .nil => "None".toList
  | .bool b => boolText b
  | .int n => Text.ofInt n
  | .double x => x.text
  | .text t => Text.quote t
  | .list xs => ['['] ++ shownItems xs ++ [']']
  | .tuple [x] => ['('] ++ shown x ++ ",)".toList
  | .tuple xs => ['('] ++ shownItems xs ++ [')']
  | .set [] => "set()".toList
  | .set xs => ['\x7b'] ++ shownItems xs ++ ['\x7d']
  | .frozenSet [] => "frozenset()".toList
  | .frozenSet xs => "frozenset(".toList ++ ['\x7b'] ++ shownItems xs ++ ['\x7d', ')']
  | .mapping es => ['\x7b'] ++ shownEntries es ++ ['\x7d']
  | .range a b => rangeText a b
  | .moment m => m.call
  | .object o _ => o.shown
  | .facet f => f.shown

/-- The shown forms of items, with commas. -/
def shownItems : List Value → Text
  | [] => []
  | [x] => shown x
  | x :: xs => shown x ++ ", ".toList ++ shownItems xs

/-- The shown forms of entries, with commas. -/
def shownEntries : List (Value × Value) → Text
  | [] => []
  | [(k, v)] => shown k ++ ": ".toList ++ shown v
  | (k, v) :: es => shown k ++ ": ".toList ++ shown v ++ ", ".toList ++ shownEntries es

end

/-- The plain form of a value. -/
def plain : Value → Text
  | .text t => t
  | .moment m => m.isoText ' '
  | .object o _ => o.text
  | .facet f => f.plain
  | v => v.shown

mutual

/-- What a template emits for a value. -/
def emitted : Value → Text
  | .nil => []
  | .bool b => if b then "true".toList else "false".toList
  | .list xs => emittedItems xs
  | .tuple xs => emittedItems xs
  | v => v.plain

/-- What a template emits for the items of a list. -/
def emittedItems : List Value → Text
  | [] => []
  | x :: xs => emitted x ++ emittedItems xs

end

mutual

/-- Whether every whole number in a value is short enough to be written. -/
def isWritable : Value → Bool
  | .int n => Numeral.isWritable n
  | .list xs | .tuple xs | .set xs | .frozenSet xs => areWritable xs
  | .mapping es => areWritableEntries es
  | .range a b => Numeral.isWritable a && Numeral.isWritable b
  | _ => true

/-- Whether all of the values are writable. -/
def areWritable : List Value → Bool
  | [] => true
  | x :: xs => isWritable x && areWritable xs

/-- Whether all keys and values are writable. -/
def areWritableEntries : List (Value × Value) → Bool
  | [] => true
  | (k, v) :: es => isWritable k && isWritable v && areWritableEntries es

end

@[simp] theorem plain_text (t : Text) : plain (.text t) = t := rfl

@[simp] theorem emitted_nil : emitted .nil = [] := rfl

end Value
end Liquid
