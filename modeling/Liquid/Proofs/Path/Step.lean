import Liquid.Path.Engine
import Liquid.Text.Identifier
import Liquid.Value.Equality

/-!
# Written paths and their engines

The paths that templates are made of are a root and steps from it: a name behind a point, a number in brackets, or a
quoted key in brackets.  What such a path leads to is up to the engine that follows it.  The laws in this module say
what is relied on of an engine; each is a hypothesis of the results that need it.

## Main definitions

* `Path.Step` — a step, with `Path.Step.text` as it is written.
* `Path.spelling` — a variable as it is written: the name of its root, and steps.
* `PathEngine.SelectsEntries` — plain names and quoted keys lead to the entries of mappings.
* `PathEngine.EntersMappings` — a path leads to one value at most, and a name behind it to an entry of a mapping.
* `PathEngine.GoesDownwards` — a path is followed from the value of its root alone.
-/

namespace Liquid

namespace Path

/-- A step of a written path: a name behind a point, a number in brackets, or a quoted key in brackets. -/
inductive Step
  | name (t : Text)
  | index (t : Text)
  | key (t : Text)
  deriving DecidableEq

/-- A numeral: decimal digits, perhaps with a minus sign before them. -/
def isNumeral : Text → Bool
  | [] => false
  | c :: rest => if c = '-' then !rest.isEmpty && rest.all Char.isDigit else c.isDigit && rest.all Char.isDigit

/-- The names that may stand outside quotes: ASCII names other than the two that are operators. -/
def isPlainName (t : Text) : Bool :=
  t.all (·.toNat < 128) && t != "where".toList && t != "wherenot".toList

namespace Step

/-- A step as it is written. -/
def text : Step → Text
  | name t => '.' :: t
  | index t => '[' :: (t ++ [']'])
  | key t => '[' :: '\'' :: (t ++ ['\'', ']'])

/-- Names are identifiers, numbers are numerals, and a key has nothing in it that is written otherwise than it is
meant. -/
def WellFormed : Step → Prop
  | name t => Text.isIdentifier t = true
  | index t => isNumeral t = true
  | key t => '\'' ∉ t ∧ '\\' ∉ t ∧ t ≠ ['*']

instance (s : Step) : Decidable s.WellFormed :=
  match s with
  | name t => inferInstanceAs (Decidable (Text.isIdentifier t = true))
  | index t => inferInstanceAs (Decidable (isNumeral t = true))
  | key t => inferInstanceAs (Decidable ('\'' ∉ t ∧ '\\' ∉ t ∧ t ≠ ['*']))

/-- A step in which no bracket around a name is found: a key has no opening bracket in it. -/
def Literal : Step → Prop
  | key t => '[' ∉ t
  | _ => True

instance (s : Step) : Decidable s.Literal :=
  match s with
  | .name _ => inferInstanceAs (Decidable True)
  | .index _ => inferInstanceAs (Decidable True)
  | .key t => inferInstanceAs (Decidable ('[' ∉ t))

/-- A step that is written without brackets. -/
def isName : Step → Bool
  | name _ => true
  | _ => false

/-- The name, the numeral or the key of a step. -/
def label : Step → Text
  | .name t | .index t | .key t => t

/-- Steps as they are written, one behind the other. -/
def texts (steps : List Step) : Text := steps.flatMap text

theorem texts_cons (s : Step) (steps : List Step) : texts (s :: steps) = s.text ++ texts steps := rfl

end Step

/-- What may stand behind a step: nothing, or another step. -/
def Stops (rest : Text) : Prop := ∀ c ∈ rest.head?, c = '.' ∨ c = '['

theorem Step.stops_texts (steps : List Step) : Stops (Step.texts steps) := by
  intro c hc
  cases steps with
  | nil => simp [Step.texts] at hc
  | cons s steps =>
      cases s <;> simp only [Step.texts_cons, Step.text, List.cons_append, List.head?_cons, Option.mem_def,
        Option.some.injEq] at hc <;> simp [← hc]

/-- A variable as it is written: the name of its root, and steps. -/
def spelling (name : Text) (steps : List Step) : Text := name ++ Step.texts steps

@[simp] theorem spelling_nil (name : Text) : spelling name [] = name := List.append_nil name

end Path

namespace Value

/-- The entry of a mapping with a text as its key; other values have none. -/
def valueAt? : Value → Text → Option Value
  | mapping entries, key => lookupText key entries
  | _, _ => none

end Value

/-! ## Laws of engines -/

namespace PathEngine

open Liquid.Path

/-- Names and quoted keys select the entries of mappings: a plain name the entry of the root, and a quoted key behind a
path the entries of the mappings that the path leads to.  An entry counts whatever its value is, and a key that is
missing selects nothing. -/
structure SelectsEntries (e : PathEngine) : Prop where
  root : ∀ {name : Text} {entries : List (Value × Value)} {v : Value}, Text.isIdentifier name = true →
    isPlainName name = true → Value.lookupText name entries = some v →
    e.find ("$.".toList ++ name) (.mapping entries) = .ok [v]
  key : ∀ {name key : Text} {steps : List Step} {root : Value} {mappings : List (List (Value × Value))},
    Text.isIdentifier name = true → (∀ s ∈ steps, s.WellFormed) → (Step.key key).WellFormed →
    e.find ("$.".toList ++ spelling name steps) root = .ok (mappings.map .mapping) →
    e.find ("$.".toList ++ spelling name (steps ++ [.key key])) root =
      .ok (mappings.filterMap (Value.lookupText key))

/-- Names and numbers select one value at most of each value, and a plain name selects the entry of a mapping and
nothing of any other value. -/
structure EntersMappings (e : PathEngine) : Prop where
  single : ∀ {name : Text} {steps : List Step} {root : Value} {found : List Value},
    Text.isIdentifier name = true → (∀ s ∈ steps, s.WellFormed) →
    e.find ("$.".toList ++ spelling name steps) root = .ok found → found.length ≤ 1
  name : ∀ {name key : Text} {steps : List Step} {root : Value} {found : List Value},
    Text.isIdentifier name = true → (∀ s ∈ steps, s.WellFormed) → Text.isIdentifier key = true →
    isPlainName key = true → e.find ("$.".toList ++ spelling name steps) root = .ok found →
    e.find ("$.".toList ++ spelling name (steps ++ [.name key])) root = .ok (found.filterMap (·.valueAt? key))

/-- Steps lead downwards only from the value that has been selected: what a path leads to is decided by the value of its
root name. -/
def GoesDownwards (e : PathEngine) : Prop :=
  ∀ {name : Text} {steps : List Step}, Text.isIdentifier name = true → (∀ s ∈ steps, s.WellFormed) →
    ∃ below : Value → Except PathFailure (List Value), ∀ root v : Value, root.valueAt? name = some v →
      e.find ("$.".toList ++ spelling name steps) root = below v

end PathEngine

end Liquid
