import Liquid.Output
import Liquid.Proofs.Number.Decimal

/-!
# Whole numbers put out in groups of digits

A double precision number that is whole is put out in decimal, with a comma before every three digits counted from the
right and one decimal place.  The commas do not stand for anything: without them the number is read back, so no two
numbers are put out in the same way.  What is no whole number is not touched.

## Main definitions

* `Binary64.Grouping` — digits cut into groups of three.

## Main statements

* `Binary64.exists_grouping` — grouped digits are groups with commas between them.
* `Binary64.extent?_eq_point_iff` — a number on the place of a whole number is that whole number.
* `Output.format_whole` — how whole numbers are put out, and that nothing else is changed.
-/

namespace Liquid

-- A power is that of the core library, whatever else is in scope.
attribute [local instance (2000)] instPowNat

namespace Text

theorem join_concat (glue t u : Text) (ts : List Text) :
    join glue (t :: (ts ++ [u])) = join glue (t :: ts) ++ glue ++ u := by
  induction ts generalizing t with
  | nil => rfl
  | cons s ts ih =>
      change t ++ glue ++ join glue (s :: (ts ++ [u])) = _
      rw [ih]
      simp [join]

theorem ofDigitChars_ofNat (n : Nat) : Nat.ofDigitChars 10 (ofNat n) 0 = n :=
  Nat.ofDigitChars_toDigits (by decide) (by decide)

/-- The first digit of a number is no zero, unless it is the only one. -/
theorem head?_ofNat (n : Nat) : (ofNat n).head? = some '0' → n = 0 := by
  induction n using Nat.strongRecOn with
  | ind n ih =>
      intro h
      rw [ofNat, Nat.toDigits_eq_if (by decide)] at h
      split at h
      · next hlt =>
          have hdigit := Nat.toNat_digitChar_of_lt_ten hlt
          rw [List.head?_cons, Option.some.injEq] at h
          rw [h] at hdigit
          exact Nat.left_eq_add.1 hdigit
      · next hle =>
          have hsome : (Nat.toDigits 10 (n / 10)).head?.isSome = true := by
            rw [List.isSome_head?]
            exact Nat.toDigits_ne_nil
          rw [List.head?_append, Option.or_of_isSome hsome] at h
          have hzero := ih (n / 10) (by omega) h
          omega

end Text

namespace Binary64

/-! ## Groups of digits -/

/-- `Grouping digits first rest`: the digits are those of a first group of one to three digits, and behind it those of
groups of three. -/
structure Grouping (digits first : Text) (rest : List Text) : Prop where
  nonempty : first ≠ []
  first_le : first.length ≤ 3
  rest_eq : ∀ group ∈ rest, group.length = 3
  flatten : first ++ rest.flatten = digits

/-- Read from the right, a comma stands behind every three digits that others follow. -/
theorem exists_grouping_reverse {t : Text} (h : t ≠ []) :
    ∃ first rest, (groupReversed t).reverse = Text.join [','] (first :: rest) ∧ Grouping t.reverse first rest := by
  have hsingle : ∀ t : Text, t ≠ [] → t.length ≤ 3 → Grouping t.reverse t.reverse [] := fun t ht hle =>
    ⟨by simpa using ht, by simpa using hle, List.forall_mem_nil _, by simp⟩
  match t, h with
  | [a], h => exact ⟨_, [], rfl, hsingle [a] h (by simp)⟩
  | [a, b], h => exact ⟨_, [], rfl, hsingle [a, b] h (by simp)⟩
  | [a, b, c], h => exact ⟨_, [], rfl, hsingle [a, b, c] h (by simp)⟩
  | a :: b :: c :: d :: t, _ =>
      obtain ⟨first, rest, hjoin, hgrouping⟩ := exists_grouping_reverse (List.cons_ne_nil d t)
      refine ⟨first, rest ++ [[c, b, a]], ?_, hgrouping.nonempty, hgrouping.first_le, ?_, ?_⟩
      · rw [Text.join_concat, ← hjoin, groupReversed]
        simp
      · exact List.forall_mem_append.2 ⟨hgrouping.rest_eq, List.forall_mem_singleton.2 rfl⟩
      · rw [List.flatten_append, ← List.append_assoc, hgrouping.flatten]
        simp

/-- **Grouped digits are groups with commas between them.** -/
theorem exists_grouping {digits : Text} (h : digits ≠ []) :
    ∃ first rest, groupDigits digits = Text.join [','] (first :: rest) ∧ Grouping digits first rest := by
  obtain ⟨first, rest, hjoin, hgrouping⟩ := exists_grouping_reverse (t := digits.reverse) (by simpa using h)
  rw [List.reverse_reverse] at hgrouping
  exact ⟨first, rest, hjoin, hgrouping⟩

theorem filter_groupReversed (t : Text) : (groupReversed t).filter (· ≠ ',') = t.filter (· ≠ ',') := by
  match t with
  | [] | [_] | [_, _] | [_, _, _] => rfl
  | a :: b :: c :: d :: t =>
      have hrest := filter_groupReversed (d :: t)
      change ([a, b, c] ++ ([','] ++ groupReversed (d :: t))).filter _ = ([a, b, c] ++ (d :: t)).filter _
      rw [List.filter_append, List.filter_append, hrest, List.filter_append]
      rfl

/-- Without the commas the digits are left. -/
theorem filter_groupDigits (digits : Text) : (groupDigits digits).filter (· ≠ ',') = digits.filter (· ≠ ',') := by
  rw [groupDigits, List.filter_reverse, filter_groupReversed, ← List.filter_reverse, List.reverse_reverse]

/-- Without the commas a number is written as its sign and its digits. -/
theorem filter_signed_groupDigits (negative : Bool) (n : Nat) :
    ((if negative then ['-'] else []) ++ groupDigits (Text.ofNat n)).filter (· ≠ ',') =
      (if negative then ['-'] else []) ++ Text.ofNat n := by
  have hsign : (if negative then ['-'] else ([] : Text)).filter (· ≠ ',') = if negative then ['-'] else [] := by
    cases negative <;> rfl
  have hdigits : (Text.ofNat n).filter (· ≠ ',') = Text.ofNat n := by
    refine List.filter_eq_self.2 fun c hc => decide_eq_true ?_
    rintro rfl
    exact absurd (Text.isDigit_of_mem_ofNat hc) (by decide)
  rw [List.filter_append, hsign, filter_groupDigits, hdigits]

/-! ## Whole numbers -/

theorem mkRat_eq_intCast_iff {m d : Nat} (hd : d ≠ 0) (k : Int) : mkRat m d = k ↔ (m : Int) = k * d := by
  rw [← Rat.mkRat_one k, Rat.mkRat_eq_iff hd (by decide)]
  simp

theorem natAbs_signed (negative : Bool) (n : Nat) : (signed negative n).natAbs = n := by
  cases negative
  · rfl
  · exact Int.natAbs_neg n

/-- A magnitude is a whole number if nothing is left behind its whole part. -/
theorem magnitude_eq_iff {m : Nat} {e k : Int} :
    (if 0 ≤ e then ((m * 2 ^ e.toNat : Nat) : Rat) else mkRat m (2 ^ (-e).toNat)) = k ↔
      isWhole m e = true ∧ (wholePart m e : Int) = k := by
  unfold isWhole wholePart
  split
  · next he =>
      simp only [he, decide_true, Bool.true_or, true_and]
      rw [← Rat.intCast_inj]
      rfl
  · next he =>
      have hpos : 2 ^ (-e).toNat ≠ 0 := Nat.pos_iff_ne_zero.1 (Nat.two_pow_pos _)
      rw [mkRat_eq_intCast_iff hpos]
      simp only [he, decide_false, Bool.false_or, beq_iff_eq]
      generalize 2 ^ (-e).toNat = d at hpos
      constructor
      · intro hm
        have hdvd : (d : Int) ∣ m := ⟨k, hm.trans (Int.mul_comm k d)⟩
        refine ⟨Nat.mod_eq_zero_of_dvd (Int.natCast_dvd_natCast.1 hdvd), ?_⟩
        rw [Int.natCast_ediv, hm]
        exact Int.mul_ediv_cancel k (Int.natCast_ne_zero.2 hpos)
      · rintro ⟨hmod, rfl⟩
        have hdiv := Nat.div_add_mod m d
        rw [hmod, Nat.add_zero, Nat.mul_comm] at hdiv
        exact_mod_cast hdiv.symm

/-- **A number on the place of a whole number is that whole number.** -/
theorem extent?_eq_point_iff {x : Binary64} {n : Int} : x.extent? = some (.point n) ↔ x.integer? = some n := by
  cases x with
  | notANumber tag => simp [extent?, integer?]
  | infinite negative => cases negative <;> simp [extent?, integer?]
  | finite negative m e =>
      simp only [extent?, integer?, Option.some.injEq, Extent.point.injEq]
      have hneg : ∀ q : Rat, -q = n ↔ q = (-n : Int) := by
        intro q
        rw [Rat.intCast_neg]
        constructor
        · rintro h
          rw [← h, Rat.neg_neg]
        · rintro rfl
          exact Rat.neg_neg n
      have hwhole : (if isWhole m e = true then some (signed negative (wholePart m e)) else none) = some n ↔
          isWhole m e = true ∧ signed negative (wholePart m e) = n := by
        simp
      rw [hwhole]
      cases negative with
      | false => exact magnitude_eq_iff
      | true =>
          change -_ = (n : Rat) ↔ _ ∧ -_ = n
          rw [hneg, magnitude_eq_iff, Int.neg_eq_comm, eq_comm (a := -n)]

theorem wholePart_lt {m limit : Nat} {e : Int} (hm : m < 2 ^ (53 : Nat)) (he : e ≤ limit) :
    wholePart m e < 2 ^ (53 : Nat) * 2 ^ limit := by
  unfold wholePart
  split
  · next hpos =>
      have hexponent : e.toNat ≤ limit := by omega
      exact Nat.mul_lt_mul_of_lt_of_le hm (Nat.pow_le_pow_right (by decide) hexponent) (Nat.two_pow_pos _)
  · have hle := Nat.div_le_self m (2 ^ (-e).toNat)
    exact Nat.lt_of_lt_of_le (Nat.lt_of_le_of_lt hle hm) (Nat.le_mul_of_pos_right _ (Nat.two_pow_pos _))

/-- A double precision number that is whole has no more digits than are read. -/
theorem length_ofNat_wholePart {m : Nat} {e : Int} (hm : m < 2 ^ (53 : Nat)) (he : e ≤ maxExponent) :
    (Text.ofNat (wholePart m e)).length ≤ Numeral.maxDigits := by
  have hlimit : 2 ^ (53 : Nat) * 2 ^ maxExponent.toNat ≤ 10 ^ Numeral.maxDigits := by decide +kernel
  have hlt := wholePart_lt hm (Int.le_trans he (Int.self_le_toNat maxExponent))
  exact (Nat.length_toDigits_le_iff (by decide) (by decide)).2 (Nat.lt_of_lt_of_le hlt hlimit)

end Binary64

namespace Output

open Binary64

variable {negative : Bool} {m : Nat} {e n : Int}

/-- What a whole number is put out as. -/
theorem format_of_extent? (h : (finite negative m e).extent? = some (.point n)) :
    format (.double (.finite negative m e)) = .text (grouped negative n.natAbs) ∧
      n = signed negative (wholePart m e) := by
  rw [extent?_eq_point_iff, integer?] at h
  split at h
  · next hwhole =>
      obtain rfl := Option.some.inj h
      rw [format, if_pos hwhole, natAbs_signed]
      exact ⟨rfl, rfl⟩
  · exact absurd h.symm (Option.some_ne_none n)

/-- What is no whole number is left as it is. -/
theorem format_eq_self {v : Value} (h : ∀ x (n : Int), v = .double x → x.extent? ≠ some (.point n)) :
    format v = v := by
  unfold format
  split
  · next negative m e =>
      refine if_neg fun hwhole => ?_
      refine h _ (signed negative (wholePart m e)) rfl ?_
      rw [extent?_eq_point_iff, integer?, if_pos hwhole]
  · rfl

/-- A sign and the digits behind it are told from one another. -/
theorem signed_ofNat_inj {s t : Bool} {a b : Nat}
    (h : (if s then ['-'] else []) ++ Text.ofNat a = (if t then ['-'] else []) ++ Text.ofNat b) : s = t ∧ a = b := by
  have hdigit : ∀ (k : Nat) (u : Text), '-' :: u ≠ Text.ofNat k := by
    intro k u hu
    have hminus : '-' ∈ Text.ofNat k := hu ▸ List.mem_cons_self
    exact absurd (Text.isDigit_of_mem_ofNat hminus) (by decide)
  have hinj : Text.ofNat a = Text.ofNat b → a = b := by
    intro he
    rw [← Text.ofDigitChars_ofNat a, he, Text.ofDigitChars_ofNat]
  cases s <;> cases t
  · exact ⟨rfl, hinj h⟩
  · exact (hdigit a _ h.symm).elim
  · exact (hdigit b _ h).elim
  · exact ⟨rfl, hinj (List.cons.inj h).2⟩

/-- The number put out is read back from its sign and its digits, when the commas are left out. -/
theorem integer?_filter_grouped (hm : m < 2 ^ (53 : Nat)) (he : e ≤ maxExponent) :
    Numeral.integer? (((if negative then ['-'] else []) ++ groupDigits (Text.ofNat (wholePart m e))).filter (· ≠ ',')) =
      some (signed negative (wholePart m e)) := by
  have hread := Numeral.integer?_signed negative (Text.ofNat_ne_nil (wholePart m e))
    (fun _ => Text.isDigit_of_mem_ofNat) (length_ofNat_wholePart hm he)
  rwa [Text.ofDigitChars_ofNat, ← filter_signed_groupDigits] at hread

/-- **Whole numbers put out in groups of digits.**  The text of a whole number is a minus sign, if the number carries
one; then its digits in decimal, cut by commas into groups of three and a first group of one to three, that begins with
no zero unless the number is zero; then `.0`.  What stands before `.0` is read as the number when the commas are left
out.  Numbers of different values or signs have different texts, and every other value is put out as it is. -/
theorem format_whole :
    (∀ (negative : Bool) (m : Nat) (e n : Int), m < 2 ^ (53 : Nat) → e ≤ maxExponent →
      (finite negative m e).extent? = some (.point n) →
      ∃ first rest, Grouping (Text.ofNat n.natAbs) first rest ∧
        (first.head? = some '0' → n = 0) ∧
        let whole := (if negative then ['-'] else []) ++ Text.join [','] (first :: rest)
        format (.double (.finite negative m e)) = .text (whole ++ ".0".toList) ∧
          Numeral.integer? (whole.filter (· ≠ ',')) = some n) ∧
    (∀ (s t : Bool) (a b : Nat) (d e n k : Int),
      (finite s a d).extent? = some (.point n) → (finite t b e).extent? = some (.point k) →
      format (.double (.finite s a d)) = format (.double (.finite t b e)) → s = t ∧ n = k) ∧
    ∀ v, (∀ x (n : Int), v = .double x → x.extent? ≠ some (.point n)) → format v = v := by
  refine ⟨?_, ?_, fun _ => format_eq_self⟩
  · intro negative m e n hm he hextent
    obtain ⟨hformat, hn⟩ := format_of_extent? hextent
    obtain ⟨first, rest, hjoin, hgrouping⟩ := exists_grouping (Text.ofNat_ne_nil n.natAbs)
    have habs : n.natAbs = wholePart m e := by rw [hn, natAbs_signed]
    refine ⟨first, rest, hgrouping, ?_, ?_, ?_⟩
    · intro hzero
      refine Int.natAbs_eq_zero.1 (Text.head?_ofNat _ ?_)
      rw [← hgrouping.flatten, List.head?_append, hzero]
      rfl
    · rw [hformat, grouped, hjoin]
    · rw [← hjoin, habs, integer?_filter_grouped hm he, hn]
  · intro s t a b d e n k hn hk he
    obtain ⟨hleft, hn⟩ := format_of_extent? hn
    obtain ⟨hright, hk⟩ := format_of_extent? hk
    rw [hleft, hright, Value.text.injEq, grouped, grouped, List.append_cancel_right_eq] at he
    have hdigits := congrArg (List.filter (· ≠ ',')) he
    rw [filter_signed_groupDigits, filter_signed_groupDigits] at hdigits
    obtain ⟨rfl, habs⟩ := signed_ofNat_inj hdigits
    rw [hn, hk, natAbs_signed, natAbs_signed] at habs
    exact ⟨rfl, by rw [hn, hk, habs]⟩

/-- The text of `-1500000`, with three groups behind the minus sign. -/
theorem format_whole_three_groups :
    (finite true 1500000 0).extent? = some (.point (-1500000 : Int)) ∧
      ∃ first rest, Grouping (Text.ofNat 1500000) first rest ∧
        (first.head? = some '0' → (-1500000 : Int) = 0) ∧
        let whole := ['-'] ++ Text.join [','] (first :: rest)
        format (.double (.finite true 1500000 0)) = .text (whole ++ ".0".toList) ∧
          Numeral.integer? (whole.filter (· ≠ ',')) = some (-1500000) :=
  have hextent : (finite true 1500000 0).extent? = some (.point (-1500000 : Int)) :=
    extent?_eq_point_iff.2 (by decide)
  ⟨hextent, format_whole.1 true 1500000 0 (-1500000) (by decide) (by decide) hextent⟩

end Output

end Liquid
