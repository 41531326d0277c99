import Liquid.Value.Equality

/-!
# Steps into a value

What a name after a point leads to.  In a mapping it is a key, and `size` the number of entries; in a list, a
tuple or a text it is `size`, `first` or `last`; in any other value it is a public attribute.  Names that
begin with an underscore are private and lead nowhere.

## Main definitions

* `Value.attribute?` — a public attribute.
* `Value.child?` — a step by a name.
-/

namespace Liquid

/-- The first day of the calendar. -/
def Moment.first : Moment := { year := 1, month := 1, day := 1 }

/-- The last microsecond of the calendar. -/
def Moment.last : Moment :=
  { year := 9999, month := 12, day := 31, hour := 23, minute := 59, second := 59, microsecond := 999999 }

namespace Value

/-- A method, if it is among the given ones. -/
def method? (methods : List String) (name : Text) : Option Value :=
  if methods.any (·.toList = name) then some (.facet (.method name)) else none

/-- The attributes of a whole number. -/
def intAttribute? (n : Int) (name : Text) : Option Value :=
  if name = "real".toList || name = "numerator".toList then some (.int n)
  else if name = "imag".toList then some (.int 0)
  else if name = "denominator".toList then some (.int 1)
  else method? ["as_integer_ratio", "bit_count", "bit_length", "conjugate", "from_bytes", "to_bytes"] name

/-- The attributes of a double precision number. -/
def doubleAttribute? (x : Binary64) (name : Text) : Option Value :=
  if name = "real".toList then some (.double x)
  else if name = "imag".toList then some (.double (Binary64.zero false))
  else method? ["as_integer_ratio", "conjugate", "fromhex", "hex", "is_integer"] name

/-- The attributes of a range. -/
def rangeAttribute? (start stop : Int) (name : Text) : Option Value :=
  if name = "start".toList then some (.int start)
  else if name = "stop".toList then some (.int stop)
  else if name = "step".toList then some (.int 1)
  else method? ["count", "index"] name

/-- The attributes of a moment. -/
def momentAttribute? (m : Moment) (name : Text) : Option Value :=
  if name = "year".toList then some (.int m.year)
  else if name = "month".toList then some (.int m.month)
  else if name = "day".toList then some (.int m.day)
  else if name = "hour".toList then some (.int m.hour)
  else if name = "minute".toList then some (.int m.minute)
  else if name = "second".toList then some (.int m.second)
  else if name = "microsecond".toList then some (.int m.microsecond)
  else if name = "fold".toList then some (.int (if m.region?.any Region.isLater then 1 else 0))
  else if name = "tzinfo".toList then
    some (match m.zone with
      | some z =>
        match z.region with
        | some r => .object r.self []
        | none => .facet (.zone z.offset)
      | none => .nil)
  else if name = "min".toList then some (.moment Moment.first)
  else if name = "max".toList then some (.moment Moment.last)
  else if name = "resolution".toList then some (.facet (.duration 1))
  else method? ["astimezone", "combine", "ctime", "date", "dst", "fromisocalendar", "fromisoformat",
    "fromordinal", "fromtimestamp", "isocalendar", "isoformat", "isoweekday", "now", "replace", "strftime",
    "strptime", "time", "timestamp", "timetuple", "timetz", "today", "toordinal", "tzname",
    "utcfromtimestamp", "utcnow", "utcoffset", "utctimetuple", "weekday"] name

/-- The methods that sets of both kinds have. -/
def setMethods : List String :=
  ["copy", "difference", "intersection", "isdisjoint", "issubset", "issuperset", "symmetric_difference",
   "union"]

/-- The methods that change a set. -/
def changingMethods : List String :=
  ["add", "clear", "difference_update", "discard", "intersection_update", "pop", "remove",
   "symmetric_difference_update", "update"]

/-- The attributes of a facet. -/
def facetAttribute? : Facet → Text → Option Value
  | .method _, _ => none
  | .zone _, name =>
    if name = "utc".toList then some (.facet (.zone 0))
    else if name = "min".toList then some (.facet (.zone (-86340)))
    else if name = "max".toList then some (.facet (.zone 86340))
    else method? ["dst", "fromutc", "tzname", "utcoffset"] name
  | .duration n, name =>
    if name = "days".toList then some (.int (n.fdiv 86400000000))
    else if name = "seconds".toList then some (.int (n.fmod 86400000000 / 1000000))
    else if name = "microseconds".toList then some (.int (n.fmod 86400000000 % 1000000))
    else if name = "min".toList then some (.facet (.duration (-86399999913600000000)))
    else if name = "max".toList then some (.facet (.duration 86399999999999999999))
    else if name = "resolution".toList then some (.facet (.duration 1))
    else method? ["total_seconds"] name

/-- An attribute of a value that is neither a collection with keys or items nor a text. -/
def attribute? : Value → Text → Option Value
  | .bool b, name => intAttribute? (if b then 1 else 0) name
  | .int n, name => intAttribute? n name
  | .double x, name => doubleAttribute? x name
  | .set _, name => method? (setMethods ++ changingMethods) name
  | .frozenSet _, name => method? setMethods name
  | .range start stop, name => rangeAttribute? start stop name
  | .moment m, name => momentAttribute? m name
  | .object _ attributes, name => named? name attributes
  | .facet f, name => facetAttribute? f name
  | _, _ => none

/-- A step into a sequence of items. -/
def sequenceChild? (items : List Value) (key : Text) : Option Value :=
  if key = "size".toList then some (.int items.length)
  else if key = "first".toList then some (items.head?.getD .nil)
  else if key = "last".toList then some (items.getLast?.getD .nil)
  else none

/-- A step into a value by a name. -/
def child? : Value → Text → Option Value
  | .mapping entries, key =>
    match lookupText key entries with
    | some v => some v
    | none => if key = "size".toList then some (.int entries.length) else none
  | .list items, key => sequenceChild? items key
  | .tuple items, key => sequenceChild? items key
  | .text t, key => sequenceChild? (t.map fun c => .text [c]) key
  | v, key => if key.head? = some '_' then none else attribute? v key

/-- Steps into a value, one name after the other. -/
def descend? (v : Value) (keys : List Text) : Option Value := keys.foldlM child? v

@[simp] theorem child?_nil (key : Text) : child? .nil key = none := by
  simp [child?, attribute?]

theorem descend?_append (v : Value) (ks ls : List Text) :
    v.descend? (ks ++ ls) = (v.descend? ks).bind (·.descend? ls) := by
  simp [descend?, List.foldlM_append]

end Value
end Liquid
