import Liquid.Text.Printable

/-!
# Quoted form

How a text is shown inside a message: between quotes, with everything that would not print written as an
escape.  The quote is an apostrophe unless the text holds an apostrophe and no double quote.

## Main statements

* `quote_eq` — the quoted form begins and ends with the chosen quote.
-/

namespace Liquid.Text

/-- The hexadecimal digits of `n`, at least `width` of them. -/
def hex (width n : Nat) : List Char :=
  let digits := Nat.toDigits 16 n
  List.replicate (width - digits.length) '0' ++ digits

/-- The quote that a text is shown in. -/
def quoteMark (t : List Char) : Char :=
  if t.contains '\'' && !t.contains '"' then '"' else '\''

/-- One character between quotes `mark`. -/
def quotedChar (mark c : Char) : List Char :=
  if c = mark || c = '\\' then ['\\', c]
  else if c = '\t' then ['\\', 't']
  else if c = '\n' then ['\\', 'n']
  else if c = '\r' then ['\\', 'r']
  else if isPrintable c then [c]
  else if c.toNat < 0x100 then '\\' :: 'x' :: hex 2 c.toNat
  else if c.toNat < 0x10000 then '\\' :: 'u' :: hex 4 c.toNat
  else '\\' :: 'U' :: hex 8 c.toNat

/-- The quoted form of a text. -/
def quote (t : List Char) : List Char :=
  let mark := quoteMark t
  mark :: (t.flatMap (quotedChar mark) ++ [mark])

theorem quote_eq (t : List Char) :
    quote t = quoteMark t :: (t.flatMap (quotedChar (quoteMark t)) ++ [quoteMark t]) := rfl

end Liquid.Text
