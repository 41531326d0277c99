import Liquid.Value.Equality

/-!
# The order of values

Numbers are ordered by their places on the number line, texts by code points, lists and tuples by their
first difference, sets by inclusion and moments by time.  An object answers itself in which order it is, on either side.
All other pairs do not compare, nor does a moment with a zone and one without.

## Main definitions

* `Value.relates?` — whether an order relation holds; none if the values do not compare.
-/

namespace Liquid

namespace Relation

/-- Whether the relation holds between equals. -/
def isReflexive : Relation → Bool
  | less | greater => false
  | atMost | atLeast => true

/-- Whether the relation holds from the smaller to the greater. -/
def isUpward : Relation → Bool
  | less | atMost => true
  | greater | atLeast => false

/-- Whether the relation holds, from the answers to `a < b` and `b < a` in a total order. -/
def ofStrict (r : Relation) (below above : Bool) : Bool :=
  match r with
  | less => below
  | greater => above
  | atMost => !above
  | atLeast => !below

end Relation

namespace Value

/-- The order of numbers by their places; what has no place is in no relation. -/
def relatesExtents (r : Relation) : Option Extent → Option Extent → Bool
  | some a, some b => r.ofStrict (a.lt b) (b.lt a)
  | _, _ => false

/-- The order of sets by inclusion. -/
def relatesSets (r : Relation) (xs ys : List Value) : Bool :=
  match r with
  | .less => xs.length < ys.length && allFoundIn xs ys
  | .greater => ys.length < xs.length && allFoundIn ys xs
  | .atMost => xs.length ≤ ys.length && allFoundIn xs ys
  | .atLeast => ys.length ≤ xs.length && allFoundIn ys xs

/-- The order of moments. -/
def relatesMoments? (r : Relation) (m n : Moment) : Option Bool :=
  match m.precedes? n, n.precedes? m with
  | some below, some above => some (r.ofStrict below above)
  | _, _ => none

/-- Whether a relation holds between a value on the left that does not know it and a value: an object answers by the
converse relation, with no other value does it compare. -/
def relatesLeft? (r : Relation) (left v : Value) : Option Bool :=
  match v with
  | .object o _ => o.relates? r.swap left.comparand
  | _ => none

mutual

/-- Whether a relation holds between two values; none if they do not compare. -/
def relates? (r : Relation) : Value → Value → Option Bool
  | .bool a, v => match v.extent? with
    | some place => some (relatesExtents r (some (.point (if a then 1 else 0))) place)
    | none => relatesLeft? r (.bool a) v
  | .int a, v => match v.extent? with
    | some place => some (relatesExtents r (some (.point a)) place)
    | none => relatesLeft? r (.int a) v
  | .double x, v => match v.extent? with
    | some place => some (relatesExtents r x.extent? place)
    | none => relatesLeft? r (.double x) v
  | .text s, v => match v with
    | .text t => some (r.ofStrict (Text.precedes s t) (Text.precedes t s))
    | v => relatesLeft? r (.text s) v
  | .list xs, v => match v with
    | .list ys => relatesItems? r xs ys
    | v => relatesLeft? r (.list xs) v
  | .tuple xs, v => match v with
    | .tuple ys => relatesItems? r xs ys
    | v => relatesLeft? r (.tuple xs) v
  | .set xs, v => match v with
    | .set ys | .frozenSet ys => some (relatesSets r xs ys)
    | v => relatesLeft? r (.set xs) v
  | .frozenSet xs, v => match v with
    | .set ys | .frozenSet ys => some (relatesSets r xs ys)
    | v => relatesLeft? r (.frozenSet xs) v
  | .moment m, v => match v with
    | .moment n => relatesMoments? r m n
    | v => relatesLeft? r (.moment m) v
  | .facet (.duration m), v => match v with
    | .facet (.duration n) => some (r.ofStrict (m < n) (n < m))
    | v => relatesLeft? r (.facet (.duration m)) v
  | .object o _, v => o.relates? r v.comparand
  | left, v => relatesLeft? r left v

/-- The order of lists: the first difference decides; a proper beginning comes first. -/
def relatesItems? (r : Relation) : List Value → List Value → Option Bool
  | [], [] => some r.isReflexive
  | [], _ :: _ => some r.isUpward
  | _ :: _, [] => some !r.isUpward
  | x :: xs, y :: ys => if x.isSame y || equal x y then relatesItems? r xs ys else relates? r x y

end

end Value
end Liquid
