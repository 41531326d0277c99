import Liquid.Text.Basic

/-!
# Objects

An object comes from the program that a template belongs to.  Apart from its attributes a template learns from it only
what it is asked: the name of its type, how it is written, whether it can be a member of a set, and how it compares.
The answers are those of the class that the object is of, so they are data of the object here.  An object is no number
and has no members.

## Main definitions

* `Relation` — the four order relations.
* `Comparand` — what an object is compared with.
* `Object` — an object, with its answers.
* `Object.plain` — an object of a class that leaves all answers as they are by default.
-/

namespace Liquid

/-- An order relation. -/
inductive Relation
  | less
  | greater
  | atMost
  | atLeast
  deriving DecidableEq

/-- The relation that holds the other way round. -/
def Relation.swap : Relation → Relation
  | less => greater
  | greater => less
  | atMost => atLeast
  | atLeast => atMost

/-- What an object is compared with: another object, or a value that is told by its type and its written form. -/
inductive Comparand
  | object (identity : Nat)
  | value (typeName shown : Text)
  deriving DecidableEq

/-- An object.  Its comparisons are asked with the object on the left. -/
structure Object where
  /-- What tells an object from all others. -/
  identity : Nat
  typeName : Text
  /-- The plain form. -/
  text : Text
  /-- The form in messages and inside collections. -/
  shown : Text
  /-- Whether the object counts as not given. -/
  isVacant : Bool
  /-- Whether the object can be a member of a set or a key of a mapping.  There it is found by what it equals. -/
  isHashable : Bool
  equals : Comparand → Bool
  /-- Whether an order relation holds; none if the two do not compare. -/
  relates? : Relation → Comparand → Option Bool

namespace Object

/-- An object that equals itself alone and is in no order. -/
def plain (identity : Nat) : Object where
  identity := identity
  typeName := "Obj".toList
  text := "<Obj>".toList
  shown := "<Obj>".toList
  isVacant := false
  isHashable := true
  equals c := c == .object identity
  relates? _ _ := none

instance : Coe Nat Object := ⟨plain⟩

end Object
end Liquid
