import Liquid.Value.Printed

/-!
# Equality of values

Numbers are equal when they have the same place on the number line, whatever their types; a truth value is
the number 0 or 1.  Lists and tuples are compared item by item, sets and mappings regardless of order, and
the two kinds of sets compare with each other.  An object answers itself what it equals, on either side.

Inside a collection what is not a number is found again in its own place, although it equals nothing, and so is an
object, whatever it equals.

## Main definitions

* `Value.comparand` — what an object is told of a value that it is compared with.
* `Value.equal`, and `Value.found` for comparison inside a collection.
* `Value.lookupKey` — the entry of a mapping.
* `Value.distinct`, `Value.ofEntries` — members and entries without repetitions.
-/

namespace Liquid.Value

/-- Equality of numbers by their places. -/
def equalExtents : Option Extent → Option Extent → Bool
  | some a, some b => a == b
  | _, _ => false

/-- Equality of ranges: both hold the same numbers. -/
def equalRanges (a b c d : Int) : Bool :=
  (rangeSize a b == 0 && rangeSize c d == 0) || (a == c && b == d)

/-- What an object is told of a value that it is compared with. -/
def comparand : Value → Comparand
  | .object o _ => .object o.identity
  | v => .value v.typeName v.shown

/-- Whether a value equals one on its left that does not know it: an object may, no other value does. -/
def equalsLeft (v left : Value) : Bool :=
  match v with
  | .object o _ => o.equals left.comparand
  | _ => false

mutual

/-- Equality of values. -/
def equal : Value → Value → Bool
  | .nil, v => match v with
    | .nil => true
    | v => v.equalsLeft .nil
  | .bool a, v => match v.extent? with
    | some place => equalExtents (some (.point (if a then 1 else 0))) place
    | none => v.equalsLeft (.bool a)
  | .int a, v => match v.extent? with
    | some place => equalExtents (some (.point a)) place
    | none => v.equalsLeft (.int a)
  | .double x, v => match v.extent? with
    | some place => equalExtents x.extent? place
    | none => v.equalsLeft (.double x)
  | .text s, v => match v with
    | .text t => s == t
    | v => v.equalsLeft (.text s)
  | .list xs, v => match v with
    | .list ys => equalItems xs ys
    | v => v.equalsLeft (.list xs)
  | .tuple xs, v => match v with
    | .tuple ys => equalItems xs ys
    | v => v.equalsLeft (.tuple xs)
  | .set xs, v => match v with
    | .set ys | .frozenSet ys => xs.length == ys.length && allFoundIn xs ys
    | v => v.equalsLeft (.set xs)
  | .frozenSet xs, v => match v with
    | .set ys | .frozenSet ys => xs.length == ys.length && allFoundIn xs ys
    | v => v.equalsLeft (.frozenSet xs)
  | .mapping es, v => match v with
    | .mapping fs => es.length == fs.length && allEntriesIn es fs
    | v => v.equalsLeft (.mapping es)
  | .range a b, v => match v with
    | .range c d => equalRanges a b c d
    | v => v.equalsLeft (.range a b)
  | .moment m, v => match v with
    | .moment n => m.sameInstant n
    | v => v.equalsLeft (.moment m)
  | .object o _, v => o.equals v.comparand
  | .facet f, v => match v with
    | .facet g => f == g
    | v => v.equalsLeft (.facet f)

/-- Equality of lists, item by item. -/
def equalItems : List Value → List Value → Bool
  | [], [] => true
  | x :: xs, y :: ys => (x.isSame y || equal x y) && equalItems xs ys
  | _, _ => false

/-- Whether every value of the first list is found in the second. -/
def allFoundIn : List Value → List Value → Bool
  | [], _ => true
  | x :: xs, ys => (ys.any fun y => x.isSame y || equal x y) && allFoundIn xs ys

/-- Whether every entry of the first list is found in the second. -/
def allEntriesIn : List (Value × Value) → List (Value × Value) → Bool
  | [], _ => true
  | (k, v) :: es, fs =>
    (fs.any fun f =>
      (k.isSame f.1 || equal k f.1) && (v.isSame f.2 || equal v f.2)) && allEntriesIn es fs

end

/-- Equality inside a collection. -/
def found (x y : Value) : Bool := x.isSame y || equal x y

/-- The value of the entry with a key. -/
def lookupKey (key : Value) (entries : List (Value × Value)) : Option Value :=
  (entries.find? fun e => found key e.1).map Prod.snd

/-- The value of the entry with a text as its key. -/
def lookupText (key : Text) (entries : List (Value × Value)) : Option Value := lookupKey (.text key) entries

/-- A list of entries with one more; an entry with the same key keeps its place and its key. -/
def insertEntry (entries : List (Value × Value)) (key value : Value) : List (Value × Value) :=
  if entries.any fun e => found key e.1 then
    entries.map fun e => if found key e.1 then (e.1, value) else e
  else entries ++ [(key, value)]

/-- The mapping with the given entries, later ones replacing earlier ones. -/
def ofEntries (entries : List (Value × Value)) : Value :=
  .mapping (entries.foldl (fun es e => insertEntry es e.1 e.2) [])

/-- The members of a list, each once and in the order of their first occurrence. -/
def distinct (items : List Value) : List Value :=
  items.foldl (fun kept v => if kept.any (found v) then kept else kept ++ [v]) []

end Liquid.Value
