import Liquid.Markup.Condition
import Liquid.Value.Conversion
import Liquid.Value.Order

/-!
# Comparison

What the comparators of a condition mean.  Equality is defined on all values.  The order relations are false
for `nil`, and an error for values that do not compare.  A text contains the plain form of a value, and a
collection contains its members, keys or numbers.

## Main definitions

* `Value.ordered` — an order relation, given as it is written.
* `Value.contains` — whether a value contains another.
* `Comparator.holds` — whether a comparator holds between two values.

## Main statements

* `Comparator.holds_notEqual`, `Comparator.holds_unequal` — both negate equality.
* `Value.ordered_nil_left`, `Value.ordered_nil_right` — `nil` is in no order relation.
-/

namespace Liquid

namespace Relation

/-- The order relations. -/
def all : List Relation := [less, greater, atMost, atLeast]

/-- An order relation as it is written. -/
def text : Relation → Text
  | less => "<".toList
  | greater => ">".toList
  | atMost => "<=".toList
  | atLeast => ">=".toList

/-- The order relation that a text is. -/
def ofText? (t : Text) : Option Relation := all.find? (·.text = t)

@[simp] theorem ofText?_text (r : Relation) : ofText? r.text = some r := by
  cases r <;> rfl

end Relation

namespace Value

/-- Whether two values are in the order relation that a text is. -/
def ordered (operator : Text) (left right : Value) : Except Error Bool :=
  match left, right with
  | .nil, _ => .ok false
  | _, .nil => .ok false
  | left, right =>
    match Relation.ofText? operator with
    | none => .error (.fault .unknownRelation)
    | some r =>
      match relates? r left right with
      | some b => .ok b
      | none => .error (.incomparable left.typeName right.typeName operator)

/-- Whether a range holds the number that a value equals.  An object is asked for each number. -/
def rangeContains (start stop : Int) : Value → Bool
  | .bool b => start ≤ (if b then 1 else 0) && (if b then 1 else 0) < stop
  | .int n => start ≤ n && n < stop
  | .double x =>
    match x.integer? with
    | some n => start ≤ n && n < stop
    | none => false
  | .object o _ => (List.range (rangeSize start stop)).any fun i => o.equals (comparand (.int (start + i)))
  | _ => false

/-- An answer about a member; what cannot be a member is an error. -/
def asMember (v : Value) (answer : Bool) : Except Error Bool :=
  if v.isHashable then .ok answer else .error (.fault .unhashable)

/-- Whether one of the members is the value. A set is compared with the sets among the members. -/
def setContains (members : List Value) (v : Value) : Except Error Bool :=
  match v with
  | .set items => .ok (members.any (found (.frozenSet items)))
  | v => v.asMember (members.any (found v))

/-- Whether a value contains another. -/
def contains (hay needle : Value) : Except Error Bool :=
  match hay, needle with
  | .nil, _ => .ok false
  | _, .nil => .ok false
  | .text t, needle => do return Text.occursIn (← needle.plainText) t
  | .mapping es, needle => needle.asMember (lookupKey needle es).isSome
  | .list items, needle | .tuple items, needle => .ok (items.any fun item => item.found needle)
  | .set members, needle | .frozenSet members, needle => setContains members needle
  | .range start stop, needle => .ok (rangeContains start stop needle)
  | _, _ => .ok false

@[simp] theorem ordered_nil_left (operator : Text) (v : Value) : ordered operator .nil v = .ok false := rfl

@[simp] theorem ordered_nil_right (operator : Text) (v : Value) : ordered operator v .nil = .ok false := by
  cases v <;> rfl

end Value

namespace Comparator

/-- Whether a comparator holds between two values. -/
def holds : Comparator → Value → Value → Except Error Bool
  | equal, v, w => .ok (Value.equal v w)
  | notEqual, v, w | unequal, v, w => .ok (!Value.equal v w)
  | less, v, w => Value.ordered less.text v w
  | greater, v, w => Value.ordered greater.text v w
  | atMost, v, w => Value.ordered atMost.text v w
  | atLeast, v, w => Value.ordered atLeast.text v w
  | contains, v, w => Value.contains v w

@[simp] theorem holds_equal (v w : Value) : equal.holds v w = .ok (Value.equal v w) := rfl

@[simp] theorem holds_notEqual (v w : Value) : notEqual.holds v w = .ok (!Value.equal v w) := rfl

@[simp] theorem holds_unequal (v w : Value) : unequal.holds v w = .ok (!Value.equal v w) := rfl

end Comparator
end Liquid
