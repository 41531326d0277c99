import Liquid.Number.Extent

/-!
# Double precision numbers

A double precision number is a sign, a significand below `2 ^ 53` and a power of two, an infinity, or no
number at all.  Everything is computed exactly on natural numbers and rounded once, to the nearest
representable number with ties to the even significand.

## Main definitions

* `Binary64.ofRatio` — the nearest number to a quotient of natural numbers.
* `Binary64.add`, `Binary64.mul` — rounded arithmetic.
* `Binary64.extent?` — the place on the extended number line.
* `Binary64.integer?` — the whole number that a number is, if it is one.
-/

namespace Liquid

-- A power is that of the core library, whatever else is in scope.
attribute [local instance (2000)] instPowNat

/-- A double precision number; the finite ones are `± significand * 2 ^ exponent`.  What is not a number
carries a tag that tells its occurrences apart: it equals nothing, not even itself, but a collection still
finds it in the place where it was put. -/
inductive Binary64
  | notANumber (tag : Nat)
  | infinite (negative : Bool)
  | finite (negative : Bool) (significand : Nat) (exponent : Int)
  deriving DecidableEq

namespace Binary64

/-- The least exponent. -/
def minExponent : Int := -1074

/-- The greatest exponent. -/
def maxExponent : Int := 971

/-- The result of an operation that has none. -/
def undefined : Binary64 := notANumber 0

/-- Zero, with a sign. -/
def zero (negative : Bool) : Binary64 := finite negative 0 minExponent

/-- `num / den` scaled by `2 ^ (-e)`, as a numerator and a denominator. -/
def scaled (num den : Nat) (e : Int) : Nat × Nat :=
  if 0 ≤ e then (num, den * 2 ^ e.toNat) else (num * 2 ^ (-e).toNat, den)

/-- The quotient `num / den` rounded to the nearest natural number, ties to even. -/
def roundHalfEven (num den : Nat) : Nat :=
  let q := num / den
  let r := num % den
  if den < 2 * r ∨ (2 * r = den ∧ q % 2 = 1) then q + 1 else q

/-- The exponent that leaves `num / den` a significand of 53 bits, or the least exponent. -/
def fittingExponent (num den : Nat) : Int :=
  let guess : Int := (num.log2 : Int) - den.log2 - 52
  let (n, d) := scaled num den guess
  let e := if n < 2 ^ (52 : Nat) * d then guess - 1 else guess
  max e minExponent

/-- The representable number nearest to `± num / den`. -/
def ofRatio (negative : Bool) (num den : Nat) : Binary64 :=
  if num = 0 then zero negative
  else
    let e := fittingExponent num den
    let (n, d) := scaled num den e
    let m := roundHalfEven n d
    let (m, e) := if m = 2 ^ (53 : Nat) then (2 ^ (52 : Nat), e + 1) else (m, e)
    if maxExponent < e then infinite negative else finite negative m e

/-- The representable number nearest to `± m * 2 ^ e`. -/
def ofDyadic (negative : Bool) (m : Nat) (e : Int) : Binary64 :=
  if 0 ≤ e then ofRatio negative (m * 2 ^ e.toNat) 1 else ofRatio negative m (2 ^ (-e).toNat)

/-- The representable number nearest to `± digits * 10 ^ e`.  Beyond the range of the exponents the answer
is an infinity or a zero without computing the power. -/
def ofDecimal (negative : Bool) (digits : Nat) (e : Int) : Binary64 :=
  let size : Int := (Nat.toDigits 10 digits).length + e
  if digits = 0 then zero negative
  else if 400 < size then infinite negative
  else if size < -400 then zero negative
  else if 0 ≤ e then ofRatio negative (digits * 10 ^ e.toNat) 1
  else ofRatio negative digits (10 ^ (-e).toNat)

/-- The representable number nearest to a whole number; none if it is too large to have one. -/
def ofInt? (n : Int) : Option Binary64 :=
  match ofRatio (n < 0) n.natAbs 1 with
  | infinite _ => none
  | x => some x

/-- The value of a sign, a significand and an exponent. -/
def rational (negative : Bool) (m : Nat) (e : Int) : Rat :=
  let magnitude : Rat := if 0 ≤ e then (m * 2 ^ e.toNat : Nat) else mkRat m (2 ^ (-e).toNat)
  if negative then -magnitude else magnitude

/-- The place on the extended number line; none for what is not a number. -/
def extent? : Binary64 → Option Extent
  | notANumber _ => none
  | infinite true => some .bottom
  | infinite false => some .top
  | finite negative m e => some (.point (rational negative m e))

/-- The whole part of a magnitude `m * 2 ^ e`. -/
def wholePart (m : Nat) (e : Int) : Nat :=
  if 0 ≤ e then m * 2 ^ e.toNat else m / 2 ^ (-e).toNat

/-- Whether `m * 2 ^ e` is a whole number. -/
def isWhole (m : Nat) (e : Int) : Bool :=
  decide (0 ≤ e) || m % 2 ^ (-e).toNat == 0

/-- A number of the given sign and magnitude. -/
def signed (negative : Bool) (n : Nat) : Int := if negative then -n else n

/-- The whole number with the fraction cut off; none for infinities and what is not a number. -/
def truncate? : Binary64 → Option Int
  | finite negative m e => some (signed negative (wholePart m e))
  | _ => none

/-- The whole number that `x` is, if it is one. -/
def integer? : Binary64 → Option Int
  | finite negative m e => if isWhole m e then some (signed negative (wholePart m e)) else none
  | _ => none

/-- Whether `x` is a zero of either sign. -/
def isZero : Binary64 → Bool
  | finite _ m _ => m == 0
  | _ => false

/-! ## Arithmetic -/

/-- The number with the opposite sign. -/
def neg : Binary64 → Binary64
  | notANumber tag => notANumber tag
  | infinite s => infinite (!s)
  | finite s m e => finite (!s) m e

/-- The rounded sum.  A zero sum is positive unless both terms are negative. -/
def add : Binary64 → Binary64 → Binary64
  | notANumber _, _ => undefined
  | _, notANumber _ => undefined
  | infinite s, infinite t => if s = t then infinite s else undefined
  | infinite s, finite .. => infinite s
  | finite .., infinite t => infinite t
  | finite s m e, finite t n f =>
    let low := min e f
    let sum := signed s (m * 2 ^ (e - low).toNat) + signed t (n * 2 ^ (f - low).toNat)
    if sum = 0 then zero (s && t) else ofDyadic (sum < 0) sum.natAbs low

/-- The rounded difference. -/
def sub (x y : Binary64) : Binary64 := add x (neg y)

/-- The rounded product. -/
def mul : Binary64 → Binary64 → Binary64
  | notANumber _, _ => undefined
  | _, notANumber _ => undefined
  | infinite s, infinite t => infinite (s != t)
  | infinite s, finite t n _ => if n = 0 then undefined else infinite (s != t)
  | finite s m _, infinite t => if m = 0 then undefined else infinite (s != t)
  | finite s m e, finite t n f => ofDyadic (s != t) (m * n) (e + f)

/-! ## First facts -/

@[simp] theorem neg_neg (x : Binary64) : neg (neg x) = x := by
  cases x <;> simp [neg]

end Binary64
end Liquid
