import Liquid.Number.Binary64
import Liquid.Text.Basic
import Liquid.Text.Digit

/-!
# Numerals

Reading numbers that are written as text.  Digits may belong to any script, single underscores may stand
between digits, and blanks around the numeral are ignored.  A whole number is not read or written beyond
`maxDigits` digits.

## Main definitions

* `Numeral.integer?` — a whole number.
* `Numeral.double?` — a double precision number, with fraction, exponent, infinities and not-a-number.
-/

namespace Liquid.Numeral

-- A power is that of the core library, whatever else is in scope.
attribute [local instance (2000)] instPowNat

/-- The greatest number of digits that is converted between whole numbers and text. -/
def maxDigits : Nat := 4300

/-- Whether a whole number is short enough to be written. -/
def isWritable (n : Int) : Bool := n.natAbs < 10 ^ maxDigits

/-- The digits at the head of a text, single underscores between them left out, and the text after them. -/
def digitRun : Text → List Nat × Text
  | [] => ([], [])
  | [c] =>
    match Text.decimalValue? c with
    | some d => ([d], [])
    | none => ([], [c])
  | c :: c' :: rest =>
    match Text.decimalValue? c with
    | none => ([], c :: c' :: rest)
    | some d =>
      if c' = '_' then
        match rest with
        | [] => ([d], [c'])
        | c'' :: rest' =>
          if Text.isDecimal c'' then
            let (ds, after) := digitRun (c'' :: rest')
            (d :: ds, after)
          else ([d], c' :: c'' :: rest')
      else
        let (ds, after) := digitRun (c' :: rest)
        (d :: ds, after)

/-- The number that a list of decimal digits denotes. -/
def ofDigits (ds : List Nat) : Nat := ds.foldl (fun n d => 10 * n + d) 0

/-- A sign, if one stands at the head of a text, and the text after it. -/
def sign : Text → Bool × Text
  | '-' :: rest => (true, rest)
  | '+' :: rest => (false, rest)
  | t => (false, t)

/-- Whether a character is left out around a numeral.  In a text of ASCII characters only the blanks proper
and the line ends are; the four information separators count as blanks beside other scripts only. -/
def isPadding (ascii : Bool) (c : Char) : Bool :=
  if ascii then c == ' ' || (9 ≤ c.toNat && c.toNat ≤ 13) else Text.isBlank c

/-- A text without the blanks that may surround a numeral. -/
def trim (t : Text) : Text :=
  let padding := isPadding (t.all (·.toNat < 128))
  ((t.dropWhile padding).reverse.dropWhile padding).reverse

/-- The whole number that a text denotes, if it denotes one and has at most `maxDigits` digits. -/
def integer? (t : Text) : Option Int :=
  let (negative, t) := sign (trim t)
  match digitRun t with
  | ([], _) => none
  | (ds, []) => if maxDigits < ds.length then none else some (Binary64.signed negative (ofDigits ds))
  | _ => none

/-- An ASCII text in lower case. -/
def lowerAscii (t : Text) : Text := t.map Char.toLower

/-- An exponent part that ends the text, or nothing. -/
def exponent? : Text → Option Int
  | [] => some 0
  | c :: rest =>
    if c = 'e' || c = 'E' then
      let (negative, rest) := sign rest
      match digitRun rest with
      | ([], _) => none
      | (ds, []) => some (Binary64.signed negative (ofDigits ds))
      | _ => none
    else none

/-- The digits after a decimal point, if one stands at the head of a text, and the text after them. -/
def fraction : Text → List Nat × Text
  | '.' :: rest => digitRun rest
  | t => ([], t)

/-- The double precision number nearest to what a text denotes, if it denotes a number. -/
def double? (t : Text) : Option Binary64 :=
  let (negative, t) := sign (trim t)
  let word := lowerAscii t
  if word = "inf".toList || word = "infinity".toList then some (.infinite negative)
  else if word = "nan".toList then some .undefined
  else
    let (whole, rest) := digitRun t
    let (places, rest) := fraction rest
    if whole.isEmpty && places.isEmpty then none
    else (exponent? rest).map fun e => .ofDecimal negative (ofDigits (whole ++ places)) (e - places.length)

end Liquid.Numeral
