import Liquid.Error
import Liquid.Path.Basic
import Liquid.Value.Equality

/-!
# Selecting by a path

A path is applied to a place: a value together with the values that it lies in.  The answer is the list of
the places that match, in order.

## Main definitions

* `Place` — a value and what it lies in.
* `Path.select` — the places that a path leads to.
* `Path.values` — the values there, from the root of a value.
-/

namespace Liquid

-- A power is that of the core library, whatever else is in scope.
attribute [local instance (2000)] instPowNat

/-- A value and the values that it lies in, innermost first.  The empty list is the place above the root. -/
abbrev Place := List Value

namespace Place

/-- A place to select from; above the root there is nothing. -/
def occupied (p : Place) : Place := if p.isEmpty then [.nil] else p

/-- The value at a place. -/
def value (p : Place) : Value := p.headD .nil

/-- The root that a place belongs to. -/
def root (p : Place) : Place := [(occupied p).getLastD .nil]

end Place

namespace Value

/-- The number of members, items or characters. -/
def length? : Value → Except Fault Nat
  | .text t => .ok t.length
  | .list xs | .tuple xs | .set xs | .frozenSet xs => .ok xs.length
  | .mapping es => .ok es.length
  | .range a b => if 2 ^ (63 : Nat) ≤ rangeSize a b then .error .tooLarge else .ok (rangeSize a b)
  | _ => .error .wrongType

/-- A position counted from the end when it is negative. -/
def fromEnd (length : Nat) (i : Int) : Option Nat :=
  let j := if i < 0 then i + length else i
  if 0 ≤ j ∧ j < length then some j.toNat else none

/-- The item at a position, which counts from the end when it is negative.  In a mapping the position is a
key. -/
def item? (v : Value) (i : Int) : Except Fault Value :=
  let checked (length : Nat) (item : Nat → Option Value) : Except Fault Value :=
    match (fromEnd length i).bind item with
    | some v => .ok v
    | none => .error .indexOutOfRange
  match v with
  | .text t => checked t.length fun k => t[k]?.map fun c => .text [c]
  | .list xs | .tuple xs => checked xs.length (xs[·]?)
  | .range a b => checked (rangeSize a b) fun k => some (.int (a + k))
  | .mapping es =>
    match lookupKey (.int i) es with
    | some v => .ok v
    | none => .error .missingKey
  | _ => .error .wrongType

end Value

namespace Path

/-- The positions of a slice in a sequence of `length` items, from `current` in steps of `step`. -/
def stepsFrom (stop step : Int) : (fuel : Nat) → (current : Int) → List Int
  | 0, _ => []
  | fuel + 1, current =>
    if (0 < step ∧ current < stop) ∨ (step < 0 ∧ stop < current) then
      current :: stepsFrom stop step fuel (current + step)
    else []

/-- The positions that a slice selects in a sequence of `length` items. -/
def slicePositions (length : Nat) (start stop step : Option Int) : Except Fault (List Int) :=
  let step := step.getD 1
  if step = 0 then .error .zeroStep
  else
    let low : Int := if step < 0 then -1 else 0
    let high : Int := if step < 0 then length - 1 else length
    let clamp (i : Int) := if i < 0 then max low (i + length) else min high i
    let first := (start.map clamp).getD (if step < 0 then high else low)
    let last := (stop.map clamp).getD (if step < 0 then low else high)
    .ok (stepsFrom last step (length + 1) first)

/-- The entries with the given keys; the key `*` stands for all entries. -/
def selectFields (names : List Text) (p : Place) : Except Fault (List Place) :=
  match p.value with
  | .mapping es =>
    if names.contains ['*'] then .ok (es.map (·.2 :: p))
    else .ok (names.filterMap fun name => (Value.lookupText name es).map (· :: p))
  | .object _ attributes =>
    if names.contains ['*'] && (Value.named? "keys".toList attributes).isSome then .error .wrongType else .ok []
  | _ => .ok []

/-- The items at the given positions, as far as the sequence reaches. -/
def selectIndices (positions : List Int) (p : Place) : Except Fault (List Place) := do
  let picked ← positions.mapM fun (i : Int) => do
    if p.value.isVacant then return []
    else
      let length ← p.value.length?
      if i < (length : Int) then return [(← p.value.item? i) :: p] else return []
  return picked.flatten

/-- The items of a slice.  What is no sequence is sliced as a sequence of one item. -/
def selectSlice (start stop step : Option Int) (p : Place) : Except Fault (List Place) :=
  if p.value.isVacant then .ok []
  else do
    let p : Place :=
      match p.value with
      | .mapping es => .list [.mapping es] :: p.tail
      | .int n => .list [.int n] :: p.tail
      | .bool b => .list [.bool b] :: p.tail
      | .text t => .list [.text t] :: p.tail
      | _ => p
    let length ← p.value.length?
    let positions ← slicePositions length start stop step
    positions.mapM fun i => do return (← p.value.item? i) :: p

mutual

/-- The matches of `f` at a value that lies in `above`, and at everything in it, outside first. -/
def throughout (f : Place → Except Fault (List Place)) (above : Place) : Value → Except Fault (List Place)
  | .list xs => do
    let own ← f (.list xs :: above)
    return own ++ (← throughoutItems f (.list xs :: above) xs)
  | .mapping es => do
    let own ← f (.mapping es :: above)
    return own ++ (← throughoutEntries f (.mapping es :: above) es)
  | v => f (v :: above)

/-- The matches of `f` throughout the items of a list. -/
def throughoutItems (f : Place → Except Fault (List Place)) (above : Place) :
    List Value → Except Fault (List Place)
  | [] => .ok []
  | x :: xs => do
    let here ← throughout f above x
    return here ++ (← throughoutItems f above xs)

/-- The matches of `f` throughout the values of a mapping. -/
def throughoutEntries (f : Place → Except Fault (List Place)) (above : Place) :
    List (Value × Value) → Except Fault (List Place)
  | [] => .ok []
  | (_, v) :: es => do
    let here ← throughout f above v
    return here ++ (← throughoutEntries f above es)

end

/-- The places that a path leads to from a place. -/
def select : Path → Place → Except Fault (List Place)
  | .root, p => .ok [p.root]
  | .this, p => .ok [p.occupied]
  | .parent, p => .ok [p.occupied.tail]
  | .fields names, p => selectFields names p.occupied
  | .index positions, p => selectIndices positions p.occupied
  | .slice start stop step, p => selectSlice start stop step p.occupied
  | .child left right, p => do return (← (← select left p).mapM (select right)).flatten
  | .descendants left right, p => do
    let starts ← select left p
    let found ← starts.mapM fun q =>
      match q with
      | [] => .error .noParent
      | v :: above => throughout (select right) above v
    return found.flatten
  | .filtered left right, p => do
    (← select left p).filterM fun q => do return !(← select right q).isEmpty
  | .unfiltered left right, p => do
    (← select left p).filterM fun q => do return (← select right q).isEmpty
  | .union left right, p => do return (← select left p) ++ (← select right p)
  | .intersection _ _, _ => .error .intersection

/-- The values that a path leads to from the root of a value. -/
def values (path : Path) (root : Value) : Except Fault (List Value) := do
  (← path.select [root]).mapM fun p =>
    match p with
    | [] => .error .noParent
    | v :: _ => .ok v

end Path
end Liquid
