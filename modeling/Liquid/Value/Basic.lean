import Liquid.Calendar.Moment
import Liquid.Number.Numeral

/-!
# Values

The values that a template computes with.  They come from outside: scalars, collections, moments and objects
with attributes; a template itself adds texts, numbers and ranges.

## Main definitions

* `Value` — the values.
* `Value.typeName` — the name of a value's type in messages.
* `Value.isTruthy` — truth in a condition: everything but `nil` and `false`.
* `Value.isVacant` — the values that count as not given: `nil`, `false`, zero and what is empty.
* `Value.isHashable` — what can be a member of a set or a key of a mapping.
-/

namespace Liquid

/-- A value that is reached through an attribute and has no notation of its own. -/
inductive Facet
  /-- A method that has not been called. -/
  | method (name : Text)
  /-- A time zone at a fixed distance from universal time, in seconds. -/
  | zone (offset : Int)
  /-- A length of time. -/
  | duration (microseconds : Int)
  deriving DecidableEq

/-- A template value. -/
inductive Value
  | nil
  | bool (b : Bool)
  | int (n : Int)
  | double (x : Binary64)
  | text (t : Text)
  | list (items : List Value)
  | tuple (items : List Value)
  | set (items : List Value)
  | frozenSet (items : List Value)
  | mapping (entries : List (Value × Value))
  /-- The whole numbers from `start` up to, but not including, `stop`. -/
  | range (start stop : Int)
  | moment (m : Moment)
  /-- An object and its attributes. -/
  | object (self : Object) (attributes : List (Text × Value))
  | facet (f : Facet)

namespace Value

instance : Inhabited Value := ⟨nil⟩

/-- The name of the type of a value. -/
def typeName : Value → Text
  | nil => "NoneType".toList
  | bool _ => "bool".toList
  | int _ => "int".toList
  | double _ => "float".toList
  | text _ => "str".toList
  | list _ => "list".toList
  | tuple _ => "tuple".toList
  | set _ => "set".toList
  | frozenSet _ => "frozenset".toList
  | mapping _ => "dict".toList
  | range _ _ => "range".toList
  | moment _ => "datetime".toList
  | object o _ => o.typeName
  | facet (.method _) => "builtin_function_or_method".toList
  | facet (.zone _) => "timezone".toList
  | facet (.duration _) => "timedelta".toList

/-- Truth in a condition: everything is true but `nil` and `false`. -/
def isTruthy : Value → Bool
  | nil => false
  | bool b => b
  | _ => true

/-- The number of whole numbers in a range. -/
def rangeSize (start stop : Int) : Nat := (stop - start).toNat

/-- Whether a value counts as not given: `nil`, `false`, zero and everything empty. -/
def isVacant : Value → Bool
  | nil => true
  | bool b => !b
  | int n => n == 0
  | double x => x.isZero
  | text t => t.isEmpty
  | list items | tuple items | set items | frozenSet items => items.isEmpty
  | mapping entries => entries.isEmpty
  | range start stop => rangeSize start stop == 0
  | moment _ => false
  | object o _ => o.isVacant
  | facet (.duration n) => n == 0
  | facet _ => false

/-- The place of a number on the number line; `none` for what is not a number, `some none` for a number
without a place. -/
def extent? : Value → Option (Option Extent)
  | bool b => some (some (.point (if b then 1 else 0)))
  | int n => some (some (.point n))
  | double x => some x.extent?
  | _ => none

/-- Whether two values are one occurrence of what is not a number, or one object. -/
def isSame : Value → Value → Bool
  | double (.notANumber a), double (.notANumber b) => a == b
  | object a _, object b _ => a.identity == b.identity
  | _, _ => false

/-- The whole number that a value is, if it is a whole number or a truth value. -/
def integer? : Value → Option Int
  | bool b => some (if b then 1 else 0)
  | int n => some n
  | _ => none

/-- The text that a value is, if it is one. -/
def asText? : Value → Option Text
  | text t => some t
  | _ => none

mutual

/-- Whether a value can be a member of a set or a key of a mapping. -/
def isHashable : Value → Bool
  | list _ | set _ | mapping _ => false
  | tuple items => areHashable items
  | object o _ => o.isHashable
  | _ => true

/-- Whether all of the values can be members of a set. -/
def areHashable : List Value → Bool
  | [] => true
  | v :: rest => isHashable v && areHashable rest

end

/-- The value of an attribute or of a key in a list of named values. -/
def named? (name : Text) (entries : List (Text × Value)) : Option Value := entries.lookup name

@[simp] theorem isTruthy_nil : isTruthy nil = false := rfl

@[simp] theorem isTruthy_bool (b : Bool) : isTruthy (bool b) = b := rfl

theorem isTruthy_eq_false_iff {v : Value} : v.isTruthy = false ↔ v = nil ∨ v = bool false := by
  cases v <;> simp [isTruthy]

end Value
end Liquid
