import Liquid.Number.Binary64
import Liquid.Text.Basic

/-!
# The shortest decimal text of a double precision number

A finite number is written with the fewest decimal digits that read back as the same number, and among
those with the digits nearest to it.  Candidates are tested exactly: for one digit, two digits and so on, the
two neighbours of the number on that decimal grid are compared with the ends of the interval of reals that
round to it.

The layout is a matter of its own: numbers from `10 ^ -4` up to `10 ^ 16` are written positionally, always
with a fraction, the others with an exponent of at least two digits.

## Main definitions

* `Binary64.shortest` — digits and decimal exponent.
* `Binary64.text` — the written form.
* `Binary64.grouped` — a whole number with its digits in groups of three.
-/

namespace Liquid.Binary64

-- A power is that of the core library, whatever else is in scope.
attribute [local instance (2000)] instPowNat

/-- `a * 10 ^ x ≤ b * 2 ^ e`. -/
def decimalLe (a : Nat) (x : Int) (b : Nat) (e : Int) : Bool :=
  a * 10 ^ x.toNat * 2 ^ (-e).toNat ≤ b * 2 ^ e.toNat * 10 ^ (-x).toNat

/-- `a * 10 ^ x < b * 2 ^ e`. -/
def decimalLt (a : Nat) (x : Int) (b : Nat) (e : Int) : Bool :=
  a * 10 ^ x.toNat * 2 ^ (-e).toNat < b * 2 ^ e.toNat * 10 ^ (-x).toNat

/-- The ends of the interval of reals that round to `m * 2 ^ e`, in units of `2 ^ (e - 2)`. -/
def interval (m : Nat) (e : Int) : Nat × Nat :=
  (if m = 2 ^ (52 : Nat) ∧ minExponent < e then 4 * m - 1 else 4 * m - 2, 4 * m + 2)

/-- Whether `d * 10 ^ x` reads back as `m * 2 ^ e`: the ends belong to the interval when `m` is even. -/
def readsBack (m : Nat) (e : Int) (d : Nat) (x : Int) : Bool :=
  let (low, high) := interval m e
  if m % 2 = 0 then !decimalLt d x low (e - 2) && decimalLe d x high (e - 2)
  else !decimalLe d x low (e - 2) && decimalLt d x high (e - 2)

/-- The greatest `d` with `d * 10 ^ x ≤ m * 2 ^ e`. -/
def decimalFloor (m : Nat) (e x : Int) : Nat :=
  (m * 2 ^ e.toNat * 10 ^ (-x).toNat) / (2 ^ (-e).toNat * 10 ^ x.toNat)

/-- The number of decimal places before the point: the least `k` with `m * 2 ^ e < 10 ^ k`. -/
def decimalSize (m : Nat) (e : Int) : Int :=
  ((Nat.toDigits 10 (decimalFloor m e (-400))).length : Int) - 400

/-- The neighbour of `m * 2 ^ e` on the grid `10 ^ x` that reads back and is nearest to it; a tie goes to
the even one. -/
def nearestOnGrid? (m : Nat) (e x : Int) : Option Nat :=
  let below := decimalFloor m e x
  match readsBack m e below x, readsBack m e (below + 1) x with
  | false, false => none
  | true, false => some below
  | false, true => some (below + 1)
  | true, true =>
    let middle := 10 * below + 5
    if decimalLt middle (x - 1) m e then some (below + 1)
    else if decimalLe middle (x - 1) m e then some (if below % 2 = 0 then below else below + 1)
    else some below

/-- The shortest decimal that reads back, as digits and exponent, searching `fuel` grids from the grid that
gives `count` digits. -/
def shortestFrom (m : Nat) (e size : Int) : (fuel count : Nat) → Nat × Int
  | 0, count => (decimalFloor m e (size - count), size - count)
  | fuel + 1, count =>
    match nearestOnGrid? m e (size - count) with
    | some d => (d, size - count)
    | none => shortestFrom m e size fuel (count + 1)

/-- The fewest digits that read back as `m * 2 ^ e`, and the exponent of the last of them.  Seventeen are
always enough. -/
def shortest (m : Nat) (e : Int) : Nat × Int := shortestFrom m e (decimalSize m e) 17 1

/-- A text without the zeros at its end. -/
def dropTrailingZeros (t : Text) : Text := (t.reverse.dropWhile (· == '0')).reverse

/-- The layout of digits with the point after `point` of them. -/
def layout (digits : Text) (point : Int) : Text :=
  if -4 < point ∧ point ≤ 16 then
    if point ≤ 0 then "0.".toList ++ List.replicate (-point).toNat '0' ++ digits
    else
      let whole := digits.take point.toNat
      let fraction := digits.drop point.toNat
      whole ++ List.replicate (point.toNat - digits.length) '0' ++ ['.']
        ++ (if fraction.isEmpty then ['0'] else fraction)
  else
    let exponent := point - 1
    let mantissa :=
      match digits with
      | [] => []
      | [d] => [d]
      | d :: rest => d :: '.' :: rest
    mantissa ++ ['e', if exponent < 0 then '-' else '+'] ++ Text.padLeft 2 '0' (Text.ofNat exponent.natAbs)

/-- The written form of a magnitude. -/
def magnitudeText (m : Nat) (e : Int) : Text :=
  if m = 0 then "0.0".toList
  else
    let (d, x) := shortest m e
    let digits := Text.ofNat d
    layout (dropTrailingZeros digits) (digits.length + x)

/-- The written form of a number. -/
def text : Binary64 → Text
  | notANumber _ => "nan".toList
  | infinite false => "inf".toList
  | infinite true => "-inf".toList
  | finite negative m e => (if negative then ['-'] else []) ++ magnitudeText m e

/-- Digits with a comma before every group of three, counted from the right; the argument and the answer
are read from the right. -/
def groupReversed : Text → Text
  | a :: b :: c :: d :: rest => a :: b :: c :: ',' :: groupReversed (d :: rest)
  | short => short

/-- Digits with a comma before every group of three, counted from the right. -/
def groupDigits (digits : Text) : Text := (groupReversed digits.reverse).reverse

/-- A whole number of the given sign and magnitude, with grouped digits and one decimal place. -/
def grouped (negative : Bool) (n : Nat) : Text :=
  (if negative then ['-'] else []) ++ groupDigits (Text.ofNat n) ++ ".0".toList

end Liquid.Binary64
