import Liquid.Number.Binary64

/-!
# Whole numbers beyond double precision

A whole number is rounded to 53 bits.  The numbers below `2 ^ 1024` have room for the exponent that they need, but those
nearest to it are rounded up to it, and have no double precision number any more.

## Main statements

* `Binary64.ofInt?_eq_none_iff` — the whole numbers that have no double precision number.
-/

namespace Liquid.Binary64

-- A power is that of the core library, whatever else is in scope.
attribute [local instance (2000)] instPowNat

/-- The least whole number that is rounded beyond the greatest double precision number: the middle between that one and
the power of two behind it. -/
def tooLargeFrom : Nat := 2 ^ (1024 : Nat) - 2 ^ (970 : Nat)

/-- Between an odd number and the next one, rounding goes up from the middle on. -/
theorem roundHalfEven_eq_succ_iff {num half q : Nat} (hodd : q % 2 = 1) (hnum : num < (q + 1) * (2 * half)) :
    roundHalfEven num (2 * half) = q + 1 ↔ (q + 1) * (2 * half) - half ≤ num := by
  have hpos : 0 < 2 * half := by
    rcases Nat.eq_zero_or_pos half with rfl | h
    · simp at hnum
    · omega
  have hq : num / (2 * half) < q + 1 := (Nat.div_lt_iff_lt_mul hpos).2 hnum
  have hdecomposed := Nat.div_add_mod num (2 * half)
  have hmod := Nat.mod_lt num hpos
  unfold roundHalfEven
  rcases Nat.lt_or_eq_of_le (Nat.le_of_lt_succ hq) with hlt | heq
  · have hle : 2 * half * (num / (2 * half) + 1) ≤ 2 * half * q := Nat.mul_le_mul_left _ hlt
    rw [Nat.mul_succ] at hle
    rw [Nat.add_mul, Nat.mul_comm q]
    constructor
    · simp only
      split <;> omega
    · omega
  · rw [heq] at hdecomposed ⊢
    rw [Nat.add_mul, Nat.mul_comm q]
    simp only
    split <;> omega

/-- Scaled by the exponent that leaves it 53 bits, a whole number has as many. -/
theorem le_scaled {num : Nat} (h : num ≠ 0) :
    2 ^ (52 : Nat) * (scaled num 1 (num.log2 - 52)).2 ≤ (scaled num 1 (num.log2 - 52)).1 := by
  have hself := Nat.log2_self_le h
  unfold scaled
  split
  · next hexponent =>
      have hsum : 52 + ((num.log2 : Int) - 52).toNat = num.log2 := by omega
      rw [Nat.one_mul, ← Nat.pow_add, hsum]
      exact hself
  · next hexponent =>
      have hsum : num.log2 + (-((num.log2 : Int) - 52)).toNat = 52 := by omega
      rw [Nat.mul_one, ← hsum, Nat.pow_add]
      exact Nat.mul_le_mul_right _ hself

theorem fittingExponent_one {num : Nat} (h : num ≠ 0) : fittingExponent num 1 = num.log2 - 52 := by
  have hlog : ((num.log2 : Nat) : Int) - (Nat.log2 1 : Nat) - 52 = num.log2 - 52 := by
    have hone : Nat.log2 1 = 0 := by decide
    omega
  have hle := le_scaled h
  unfold fittingExponent
  simp only [hlog, minExponent]
  rw [if_neg (Nat.not_lt.2 hle)]
  omega

/-- A number of more than 53 bits is rounded up to the next power of two from the middle on between that power and the
number of 53 bits before it. -/
theorem roundHalfEven_eq_two_pow_iff {num k : Nat} (h : num.log2 = 53 + k) :
    roundHalfEven num (2 * 2 ^ k) = 2 ^ (53 : Nat) ↔ 2 ^ (53 + k + 1) - 2 ^ k ≤ num := by
  have hpower : 2 ^ (53 + k + 1) = (2 ^ (53 : Nat) - 1 + 1) * (2 * 2 ^ k) := by
    rw [Nat.add_assoc, Nat.pow_add, Nat.sub_add_cancel (by decide), Nat.pow_succ' (n := k)]
  have hnum : num < (2 ^ (53 : Nat) - 1 + 1) * (2 * 2 ^ k) := by
    rw [← hpower, ← h]
    exact Nat.lt_log2_self
  have hiff := roundHalfEven_eq_succ_iff (by decide) hnum
  rwa [← hpower] at hiff

theorem scaled_of_log2 {num k : Nat} (h : num.log2 = 53 + k) :
    scaled num 1 (num.log2 - 52) = (num, 2 * 2 ^ k) := by
  have hexponent : ((num.log2 : Int) - 52).toNat = k + 1 := by omega
  rw [scaled, if_pos (by omega), hexponent, Nat.one_mul, Nat.pow_succ']

theorem ite_eq_infinite_iff {c : Prop} [Decidable c] {s t : Bool} {m : Nat} {e : Int} :
    (∃ r, (if c then infinite s else finite t m e) = infinite r) ↔ c := by
  split <;> simp [*]

/-- A whole number is rounded to an infinity if it has more than 1024 bits, or has as many and is rounded up to the next
power of two. -/
theorem ofRatio_one_eq_infinite_iff {negative : Bool} {num : Nat} (h : num ≠ 0) :
    (∃ s, ofRatio negative num 1 = infinite s) ↔
      1023 < num.log2 ∨ num.log2 = 1023 ∧
        roundHalfEven (scaled num 1 (num.log2 - 52)).1 (scaled num 1 (num.log2 - 52)).2 = 2 ^ (53 : Nat) := by
  unfold ofRatio
  simp only [if_neg h, fittingExponent_one h, maxExponent]
  by_cases hround : roundHalfEven (scaled num 1 (num.log2 - 52)).1 (scaled num 1 (num.log2 - 52)).2 = 2 ^ (53 : Nat)
  · simp only [if_pos hround, ite_eq_infinite_iff]
    omega
  · simp only [if_neg hround, ite_eq_infinite_iff]
    omega

theorem ofRatio_one_eq_infinite_iff_le (negative : Bool) {num : Nat} :
    (∃ s, ofRatio negative num 1 = infinite s) ↔ tooLargeFrom ≤ num := by
  have hlower : 2 ^ (1023 : Nat) ≤ tooLargeFrom := by decide +kernel
  have hupper : tooLargeFrom ≤ 2 ^ (1024 : Nat) := by decide +kernel
  by_cases h : num = 0
  · have hpos : ¬ tooLargeFrom ≤ 0 := by decide +kernel
    subst h
    simp only [ofRatio, zero, if_true, reduceCtorEq, exists_const, hpos]
  rw [ofRatio_one_eq_infinite_iff h]
  have hself := Nat.log2_self_le h
  have hlt := Nat.lt_log2_self (n := num)
  rcases Nat.lt_trichotomy num.log2 1023 with hlog | hlog | hlog
  · have hle := Nat.pow_le_pow_right (n := 2) (by decide) (Nat.succ_le_of_lt hlog)
    have hsmall : num < tooLargeFrom := Nat.lt_of_lt_of_le hlt (Nat.le_trans hle hlower)
    simp only [Nat.not_le.2 hsmall, iff_false]
    omega
  · have hlimit : tooLargeFrom = 2 ^ (53 + 970 + 1) - 2 ^ (970 : Nat) := by decide +kernel
    have hlog' : num.log2 = 53 + 970 := hlog
    rw [hlimit, ← roundHalfEven_eq_two_pow_iff hlog', scaled_of_log2 hlog']
    simp only [hlog, Nat.lt_irrefl, false_or, true_and]
  · have hlog' : 1024 ≤ num.log2 := hlog
    have hle := Nat.pow_le_pow_right (n := 2) (by decide) hlog'
    simp only [Nat.le_trans hupper (Nat.le_trans hle hself), iff_true]
    exact .inl hlog

/-- **The whole numbers that have no double precision number.** -/
theorem ofInt?_eq_none_iff {n : Int} : ofInt? n = none ↔ tooLargeFrom ≤ n.natAbs := by
  rw [← ofRatio_one_eq_infinite_iff_le (n < 0)]
  unfold ofInt?
  cases ofRatio (n < 0) n.natAbs 1 <;> simp

end Liquid.Binary64
