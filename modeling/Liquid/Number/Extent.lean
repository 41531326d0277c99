/-!
# The extended number line

Numbers of all kinds are compared by the place they have on one line: the rationals with an end on either
side.  A number that is not on the line (not a number at all) has no place and compares with nothing.

## Main statements

* `Extent.lt_irrefl`, `Extent.lt_trichotomy` — `Extent.lt` is a strict total order.
-/

namespace Liquid

/-- A place on the extended number line. -/
inductive Extent
  | bottom
  | point (q : Rat)
  | top
  deriving DecidableEq

namespace Extent

/-- `a` lies strictly below `b`. -/
def lt : Extent → Extent → Bool
  | bottom, bottom => false
  | bottom, _ => true
  | point _, bottom => false
  | point p, point q => decide (p < q)
  | point _, top => true
  | top, _ => false

theorem lt_irrefl (a : Extent) : lt a a = false := by
  cases a <;> simp [lt]

theorem lt_trichotomy (a b : Extent) : lt a b = true ∨ a = b ∨ lt b a = true := by
  cases a <;> cases b <;> simp [lt]
  next p q =>
    by_cases hpq : p < q
    · exact .inl hpq
    · by_cases hqp : q < p
      · exact .inr (.inr hqp)
      · exact .inr (.inl (Rat.le_antisymm (Rat.not_lt.1 hqp) (Rat.not_lt.1 hpq)))

end Extent
end Liquid
