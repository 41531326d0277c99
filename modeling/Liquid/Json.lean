import Liquid.Error
import Liquid.Number.Numeral
import Liquid.Value.Equality

/-!
# JSON

Reading a value from JSON text.  Objects become mappings, of two entries with one key the later one counts,
and a number is whole unless it has a fraction or an exponent.  Besides the numbers of the standard, `NaN`,
`Infinity` and `-Infinity` are read.

## Main definitions

* `Json.read` — the value that a text denotes.
-/

namespace Liquid.Json

/-- The white space of JSON. -/
def isSpace (c : Char) : Bool := c == ' ' || c == '\t' || c == '\n' || c == '\r'

/-- A text without leading white space. -/
def skip (t : Text) : Text := t.dropWhile isSpace

/-! ## Strings -/

/-- The value of a hexadecimal digit. -/
def hexDigit? (c : Char) : Option Nat :=
  if '0' ≤ c ∧ c ≤ '9' then some (c.toNat - '0'.toNat)
  else if 'a' ≤ c ∧ c ≤ 'f' then some (c.toNat - 'a'.toNat + 10)
  else if 'A' ≤ c ∧ c ≤ 'F' then some (c.toNat - 'A'.toNat + 10)
  else none

/-- The number that hexadecimal digits denote. -/
def hexNumber? (digits : List Char) : Option Nat :=
  digits.foldlM (fun n c => (hexDigit? c).map (16 * n + ·)) 0

/-- What a character behind a backslash stands for. -/
def escaped? : Char → Option Nat
  | '"' => some '"'.toNat
  | '\\' => some '\\'.toNat
  | '/' => some '/'.toNat
  | 'b' => some 8
  | 'f' => some 12
  | 'n' => some 10
  | 'r' => some 13
  | 't' => some 9
  | _ => none

/-- The code points of a string up to its closing quote, and the text after it.  An escaped character outside
the basic plane is still two units. -/
def units? : Text → Option (List Nat × Text)
  | [] => none
  | c :: rest =>
    if c = '"' then some ([], rest)
    else if c = '\\' then
      match rest with
      | 'u' :: h₁ :: h₂ :: h₃ :: h₄ :: rest => do
        let n ← hexNumber? [h₁, h₂, h₃, h₄]
        (units? rest).map fun p => (n :: p.1, p.2)
      | e :: rest => do
        let n ← escaped? e
        (units? rest).map fun p => (n :: p.1, p.2)
      | [] => none
    else if c.toNat < 32 then none
    else (units? rest).map fun p => (c.toNat :: p.1, p.2)

/-- Code points as characters: a high and a low surrogate make one character; a surrogate that stands alone
is replaced. -/
def characters : List Nat → Text
  | [] => []
  | [n] => [if n.isValidChar then Char.ofNat n else '\ufffd']
  | n :: m :: rest =>
    if 0xD800 ≤ n ∧ n < 0xDC00 ∧ 0xDC00 ≤ m ∧ m < 0xE000 then
      Char.ofNat (0x10000 + (n - 0xD800) * 0x400 + (m - 0xDC00)) :: characters rest
    else (if n.isValidChar then Char.ofNat n else '\ufffd') :: characters (m :: rest)

/-- A string after its opening quote, and the text after it. -/
def string? (t : Text) : Option (Text × Text) := (units? t).map fun p => (characters p.1, p.2)

/-! ## Numbers -/

/-- The digits at the head of a text, and the text after them. -/
def digits (t : Text) : Text × Text := (t.takeWhile Char.isDigit, t.dropWhile Char.isDigit)

/-- The digits of a whole part: a zero stands alone. -/
def wholeDigits (t : Text) : Text × Text :=
  match t with
  | '0' :: rest => (['0'], rest)
  | t => digits t

/-- The digits of a fraction, if there is one. -/
def fractionDigits (t : Text) : Text × Text :=
  match t with
  | '.' :: rest => if (digits rest).1.isEmpty then ([], t) else digits rest
  | t => ([], t)

/-- The exponent, if there is one. -/
def exponent (t : Text) : Option Int × Text :=
  match t with
  | [] => (none, [])
  | c :: rest =>
    if c = 'e' || c = 'E' then
      let (negative, rest) := Numeral.sign rest
      let (ds, after) := digits rest
      if ds.isEmpty then (none, t)
      else (some (Binary64.signed negative (Numeral.ofDigits (ds.map fun d => d.toNat - 48))), after)
    else (none, t)

/-- A number, and the text after it. -/
def number (t : Text) : Except Fault (Value × Text) :=
  let (negative, unsigned) :=
    match t with
    | '-' :: rest => (true, rest)
    | t => (false, t)
  let (whole, rest) := wholeDigits unsigned
  let (places, rest) := fractionDigits rest
  let (power, rest) := exponent rest
  let magnitude := Numeral.ofDigits ((whole ++ places).map fun d => d.toNat - 48)
  if whole.isEmpty then .error .invalidJson
  else if places.isEmpty && power.isNone then
    if Numeral.maxDigits < whole.length then .error .tooManyDigits
    else .ok (.int (Binary64.signed negative magnitude), rest)
  else .ok (.double (.ofDecimal negative magnitude (power.getD 0 - places.length)), rest)

/-! ## Values -/

/-- The words that denote values. -/
def words : List (Text × Value) := [
  ("null".toList, .nil), ("true".toList, .bool true), ("false".toList, .bool false),
  ("NaN".toList, .double .undefined), ("Infinity".toList, .double (.infinite false)),
  ("-Infinity".toList, .double (.infinite true))]

mutual

/-- The value at the head of a text, and the text after it. -/
def value : (fuel : Nat) → Text → Except Fault (Value × Text)
  | 0, _ => .error .invalidJson
  | fuel + 1, t =>
    match words.find? fun w => Text.startsWith w.1 t with
    | some (word, v) => .ok (v, t.drop word.length)
    | none =>
      match t with
      | '"' :: rest =>
        match string? rest with
        | some (s, rest) => .ok (.text s, rest)
        | none => .error .invalidJson
      | '[' :: rest =>
        match skip rest with
        | ']' :: rest => .ok (.list [], rest)
        | rest => (items fuel rest).map fun p => (.list p.1, p.2)
      | '\x7b' :: rest =>
        match skip rest with
        | '\x7d' :: rest => .ok (.mapping [], rest)
        | rest => (entries fuel rest).map fun p => (Value.ofEntries p.1, p.2)
      | t => number t

/-- The items of an array up to its end, and the text after it. -/
def items : (fuel : Nat) → Text → Except Fault (List Value × Text)
  | 0, _ => .error .invalidJson
  | fuel + 1, t => do
    let (v, rest) ← value fuel t
    match skip rest with
    | ',' :: rest => (items fuel (skip rest)).map fun p => (v :: p.1, p.2)
    | ']' :: rest => return ([v], rest)
    | _ => .error .invalidJson

/-- The entries of an object up to its end, and the text after it. -/
def entries : (fuel : Nat) → Text → Except Fault (List (Value × Value) × Text)
  | 0, _ => .error .invalidJson
  | fuel + 1, t =>
    match t with
    | '"' :: rest =>
      match string? rest with
      | none => .error .invalidJson
      | some (key, rest) =>
        match skip rest with
        | ':' :: rest => do
          let (v, rest) ← value fuel (skip rest)
          match skip rest with
          | ',' :: rest => (entries fuel (skip rest)).map fun p => ((.text key, v) :: p.1, p.2)
          | '\x7d' :: rest => return ([(.text key, v)], rest)
          | _ => .error .invalidJson
        | _ => .error .invalidJson
    | _ => .error .invalidJson

end

/-- The value that a text denotes. -/
def read (t : Text) : Except Fault Value := do
  let (v, rest) ← value (2 * t.length + 2) (skip t)
  if (skip rest).isEmpty then return v else .error .invalidJson

end Liquid.Json
