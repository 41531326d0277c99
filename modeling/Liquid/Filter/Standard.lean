import Liquid.Calendar.Almanac
import Liquid.Calendar.Pattern
import Liquid.Filter.Registry
import Liquid.Html.Escape
import Liquid.Text.Case
import Liquid.Value.Conversion

/-!
# The standard filters

Twenty filters: escaping, case, cutting and joining of texts, access to lists, arithmetic, and dates.  A
filter on texts or lists leaves other values as they are.  Arithmetic also reads numbers from text; whole
numbers stay exact.

## Main definitions

* `Numeric.ofValue` — the number that a value denotes for arithmetic.
* `Standard.truncate`, `Standard.date`, … — the filters.
* `Registry.standard` — all of them, at a present moment and with an almanac.
-/

namespace Liquid

/-! ## Numbers -/

/-- A number to compute with. -/
inductive Numeric
  | whole (n : Int)
  | double (x : Binary64)

namespace Numeric

/-- A number as a value. -/
def toValue : Numeric → Value
  | whole n => .int n
  | double x => .double x

/-- The number that a value denotes: numbers denote themselves, `nil` denotes zero, and other values are read
from their plain form. -/
def ofValue (v : Value) : Except Error Numeric :=
  match v with
  | .int n => .ok (.whole n)
  | .double x => .ok (.double x)
  | .nil => .ok (.whole 0)
  | v => do
    let t := Text.strip (← v.plainText)
    match Numeral.integer? t with
    | some n => return .whole n
    | none =>
      match Numeral.double? t with
      | some x => return .double x
      | none => .error (.notNumeric (← v.shownText))

/-- A number in double precision. -/
def toDouble : Numeric → Except Error Binary64
  | whole n =>
    match Binary64.ofInt? n with
    | some x => .ok x
    | none => .error (.fault .tooLarge)
  | double x => .ok x

/-- An operation that is exact on whole numbers and in double precision otherwise. -/
def combine (onInt : Int → Int → Int) (onDouble : Binary64 → Binary64 → Binary64) (a b : Numeric) :
    Except Error Numeric :=
  match a, b with
  | whole m, whole n => .ok (.whole (onInt m n))
  | a, b => do return .double (onDouble (← a.toDouble) (← b.toDouble))

end Numeric

namespace Standard

/-! ## Texts -/

/-- A filter on texts, which leaves other values as they are. -/
def onText (f : Text → Text) (v : Value) : Value :=
  match v with
  | .text t => .text (f t)
  | v => v

/-- Escapes references again only after they are resolved, so that nothing is escaped twice. -/
def escapeOnce (v : Value) : Except Error Value :=
  match v with
  | .text t =>
    match Html.unescape? t with
    | some t => .ok (.text (Html.escape t))
    | none => .error (.fault .tooManyDigits)
  | v => .ok v

/-- A line break element before every line feed. -/
def breakLines (t : Text) : Text := t.flatMap fun c => if c = '\n' then "<br />\n".toList else [c]

/-- The value followed by the suffix. -/
def append (v suffix : Value) : Except Error Value := do
  let t ← v.orEmpty
  return .text (t ++ (← suffix.orEmpty))

/-- The prefix followed by the value. -/
def prepend (v before : Value) : Except Error Value := do
  let t ← before.orEmpty
  return .text (t ++ (← v.orEmpty))

/-- The first `n` characters of a text; a negative `n` leaves out as many at the end. -/
def firstChars (n : Int) (t : Text) : Text := t.take (if n < 0 then n + t.length else n).toNat

/-- A text of more than `length` characters cut to `length` characters, followed by the ending. -/
def truncate (v length ending : Value) : Except Error Value :=
  match v with
  | .text t => do
    let requested ←
      match length with
      | .nil => pure (some 50)
      | length => length.count?
    match requested with
    | none => .error (.notLength (← length.shownText))
    | some n => if n < t.length then return .text (firstChars n t ++ (← ending.orEmpty)) else return .text t
  | v => .ok v

/-! ## Collections -/

/-- The number of characters, members or items; zero for a value that has none. -/
def size : Value → Value
  | .text t => .int t.length
  | .list xs | .tuple xs | .set xs | .frozenSet xs => .int xs.length
  | .mapping es => .int es.length
  | _ => .int 0

/-- Whether a value is replaced by a default. -/
def isMissing : Value → Bool
  | .nil => true
  | .bool b => !b
  | .text t => t.isEmpty
  | .list xs => xs.isEmpty
  | .mapping es => es.isEmpty
  | _ => false

/-- The items of a list or a tuple. -/
def items? : Value → Option (List Value)
  | .list xs | .tuple xs => some xs
  | _ => none

/-- The items of a list as texts with the glue between them. -/
def join (v glue : Value) : Except Error Value :=
  match items? v with
  | some xs => do
    let glue ← glue.plainText
    return .text (Text.join glue (← xs.mapM Value.plainText))
  | none => .ok v

/-- The first item of a list. -/
def first (v : Value) : Value := ((items? v).bind List.head?).getD .nil

/-- The last item of a list. -/
def last (v : Value) : Value := ((items? v).bind List.getLast?).getD .nil

/-! ## Arithmetic -/

/-- An operation on the numbers that two values denote. -/
def arithmetic (onInt : Int → Int → Int) (onDouble : Binary64 → Binary64 → Binary64) (v operand : Value) :
    Except Error Value := do
  let a ← Numeric.ofValue v
  let b ← Numeric.ofValue operand
  return (← Numeric.combine onInt onDouble a b).toValue

/-- The sum. -/
def plus : Value → Value → Except Error Value := arithmetic (· + ·) Binary64.add

/-- The difference. -/
def minus : Value → Value → Except Error Value := arithmetic (· - ·) Binary64.sub

/-- The product. -/
def times : Value → Value → Except Error Value := arithmetic (· * ·) Binary64.mul

/-! ## Dates -/

/-- The moment that a value denotes at the moment `now`; none if it denotes none. -/
def moment? (now : Moment) (almanac : Almanac) (v : Value) : Except Error (Option Moment) :=
  let checked (m : Except CalendarError Moment) : Except Error (Option Moment) :=
    (m.map some).mapError fun e => .fault (.calendar e)
  match v with
  | .moment m => .ok (some m)
  | .int n => checked (Moment.ofSeconds almanac.zone n 0)
  | .double x => checked (Moment.ofTimestamp almanac.zone x)
  | .text t =>
    let word := Text.toLower (Text.strip t)
    if word = "now".toList || word = "today".toList then .ok (some now)
    else
      match almanac.read now t with
      | .ok m => .ok (some m)
      | .error .unreadable => .ok none
      | .error (.fault f) => .error (.fault f)
  | _ => .ok none

/-- A moment written by a pattern.  Without a pattern, or when the value denotes no moment, the value stays as
it is. -/
def date (now : Moment) (almanac : Almanac) (v pattern : Value) : Except Error Value :=
  if pattern.isVacant then .ok v
  else do
    match ← moment? now almanac v with
    | none => return v
    | some m =>
      let p ← pattern.plainText
      return .text (← (m.format almanac.zone p).mapError fun e => .fault (.calendar e))

/-! ## The registry -/

/-- A filter without further arguments. -/
def unary (f : Value → Except Error Value) : Filter :=
  ⟨some (Signature.ofNames 1 ["value"]), fun v _ => f v⟩

/-- A filter with an argument that may be left out. -/
def withDefault (name : String) (default : Value) (f : Value → Value → Except Error Value) : Filter :=
  ⟨some (Signature.ofNames 1 ["value", name]), fun v args => f v (args.headD default)⟩

/-- A filter with an argument. -/
def binary (name : String) (f : Value → Value → Except Error Value) : Filter :=
  ⟨some (Signature.ofNames 2 ["value", name]), fun v args => f v (args.headD .nil)⟩

/-- The standard filters at the moment `now`. -/
def filters (now : Moment) (almanac : Almanac) : List (Text × Filter) := [
  ("escape".toList, unary fun v => .ok (onText Html.escape v)),
  ("escape_once".toList, unary escapeOnce),
  ("raw".toList, unary .ok),
  ("newline_to_br".toList, unary fun v => .ok (onText breakLines v)),
  ("upcase".toList, unary fun v => .ok (onText Text.toUpper v)),
  ("downcase".toList, unary fun v => .ok (onText Text.toLower v)),
  ("capitalize".toList, unary fun v => .ok (onText Text.capitalize v)),
  ("strip".toList, unary fun v => .ok (onText Text.strip v)),
  ("append".toList, withDefault "suffix" (.text []) append),
  ("prepend".toList, withDefault "prefix" (.text []) prepend),
  ("truncate".toList,
    ⟨some (Signature.ofNames 1 ["value", "length", "ending"]), fun v args =>
      truncate v (args[0]?.getD (.int 50)) (args[1]?.getD (.text "...".toList))⟩),
  ("size".toList, unary fun v => .ok (size v)),
  ("default".toList, withDefault "fallback" (.text []) fun v fallback =>
    .ok (if isMissing v then fallback else v)),
  ("join".toList, withDefault "glue" (.text [' ']) join),
  ("first".toList, unary fun v => .ok (first v)),
  ("last".toList, unary fun v => .ok (last v)),
  ("plus".toList, binary "operand" plus),
  ("minus".toList, binary "operand" minus),
  ("times".toList, binary "operand" times),
  ("date".toList, withDefault "format_str" .nil (date now almanac))]

end Standard

/-- The registry of the standard filters at the moment `now`. -/
def Registry.standard (now : Moment) (almanac : Almanac := .standard) : Registry :=
  (Standard.filters now almanac).foldl (fun r e => r.put e.1 e.2) .empty

end Liquid
