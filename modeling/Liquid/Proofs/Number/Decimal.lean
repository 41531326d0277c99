import Liquid.Number.Numeral
import Liquid.Text.Identifier

/-!
# Whole numbers in decimal

A whole number is written as its decimal digits, with a sign when it is negative.  A numeral of ASCII digits is read as
the number that these digits denote, so that every whole number is read back from its written form, as long as it has
no more digits than are read.

## Main statements

* `Numeral.digitRun_of_isDigit` — ASCII digits are read one by one.
* `Numeral.integer?_signed` — a numeral of ASCII digits.
* `Numeral.integer?_ofInt` — a whole number is read back from its written form.
-/

namespace Liquid

namespace Text

theorem isIdentifierPart_of_isDigit {c : Char} (h : c.isDigit = true) : isIdentifierPart c = true := by
  have hascii := (toNat_of_isDigit h).2
  rw [isIdentifierPart, if_pos (by omega), h, Bool.or_true]

theorem isBlank_of_isDigit {c : Char} (h : c.isDigit = true) : isBlank c = false :=
  isBlank_of_identifierPart (isIdentifierPart_of_isDigit h)

theorem decimalValue?_of_isDigit {c : Char} (h : c.isDigit = true) :
    decimalValue? c = some (c.toNat - '0'.toNat) := by
  obtain ⟨hlow, hhigh⟩ := toNat_of_isDigit h
  exact if_pos ⟨hlow, hhigh⟩

theorem ofNat_ne_nil (n : Nat) : ofNat n ≠ [] := Nat.toDigits_ne_nil

theorem isDigit_of_mem_ofNat {n : Nat} {c : Char} (h : c ∈ ofNat n) : c.isDigit = true :=
  Nat.isDigit_of_mem_toDigits (by decide) (by decide) h

/-- The digits of a number behind its sign. -/
theorem ofInt_eq (n : Int) : ofInt n = (if n < 0 then ['-'] else []) ++ ofNat n.natAbs := by
  cases n with
  | ofNat n => rfl
  | negSucc n => rw [if_pos (Int.negSucc_lt_zero n)]; rfl

/-- A number in decimal begins with its sign or a digit, and goes on with digits. -/
theorem eq_minus_or_isDigit_of_mem_ofInt {n : Int} {c : Char} (h : c ∈ ofInt n) : c = '-' ∨ c.isDigit = true := by
  rw [ofInt_eq, List.mem_append] at h
  rcases h with h | h
  · split at h
    · exact .inl (List.mem_singleton.1 h)
    · exact absurd h List.not_mem_nil
  · exact .inr (isDigit_of_mem_ofNat h)

theorem isBlank_of_mem_ofInt {n : Int} {c : Char} (h : c ∈ ofInt n) : isBlank c = false := by
  rcases eq_minus_or_isDigit_of_mem_ofInt h with rfl | hc
  · decide
  · exact isBlank_of_isDigit hc

theorem ofInt_ne_nil (n : Int) : ofInt n ≠ [] := by
  rw [ofInt_eq]
  exact List.append_ne_nil_of_right_ne_nil _ (ofNat_ne_nil _)

/-- A number in decimal begins with nothing else than its sign and a digit. -/
theorem ofInt_ne_cons {c : Char} (hminus : c ≠ '-') (hdigit : c.isDigit = false) (n : Int) (t : Text) :
    ofInt n ≠ c :: t := by
  intro he
  have hc := (eq_minus_or_isDigit_of_mem_ofInt (he ▸ List.mem_cons_self)).resolve_left hminus
  exact absurd hc (by simp [hdigit])

end Text

namespace Numeral

theorem isPadding_of_isBlank {c : Char} (h : Text.isBlank c = false) (ascii : Bool) : isPadding ascii c = false := by
  cases ascii with
  | false => exact h
  | true =>
      simp only [Text.isBlank, Bool.or_eq_false_iff, Bool.and_eq_false_iff, decide_eq_false_iff_not] at h
      have hne : c ≠ ' ' := by
        rintro rfl
        exact absurd h (by decide)
      have hends : ¬ (9 ≤ c.toNat ∧ c.toNat ≤ 13) := by omega
      simpa [isPadding, hne] using hends

/-- A text without blanks at its ends is left as it is. -/
theorem trim_eq_self {t : Text} (hfirst : ∀ c ∈ t.head?, Text.isBlank c = false)
    (hlast : ∀ c ∈ t.getLast?, Text.isBlank c = false) : trim t = t := by
  have hkept : ∀ (ascii : Bool) (u : Text), (∀ c ∈ u.head?, Text.isBlank c = false) →
      u.dropWhile (isPadding ascii) = u := by
    intro ascii u hu
    cases u with
    | nil => rfl
    | cons c u => exact List.dropWhile_cons_of_neg (by simp [isPadding_of_isBlank (hu c rfl)])
  have hreverse : ∀ c ∈ t.reverse.head?, Text.isBlank c = false := by rwa [List.head?_reverse]
  rw [trim, hkept _ t hfirst, hkept _ t.reverse hreverse, List.reverse_reverse]

/-- **ASCII digits are read one by one**, to the end of the text. -/
theorem digitRun_of_isDigit {t : Text} (h : ∀ c ∈ t, c.isDigit = true) :
    digitRun t = (t.map fun c => c.toNat - '0'.toNat, []) := by
  induction t with
  | nil => rfl
  | cons c t ih =>
      rw [List.forall_mem_cons] at h
      have hvalue := Text.decimalValue?_of_isDigit h.1
      cases t with
      | nil => simp [digitRun, hvalue]
      | cons d t =>
          have hd : d ≠ '_' := by
            rintro rfl
            exact absurd (h.2 '_' List.mem_cons_self) (by decide)
          simp only [digitRun, hvalue, if_neg hd, ih h.2, List.map_cons]

theorem ofDigits_map (t : Text) : ofDigits (t.map fun c => c.toNat - '0'.toNat) = Nat.ofDigitChars 10 t 0 :=
  List.foldl_map

/-- **A numeral of ASCII digits**, with a minus sign before them or without one. -/
theorem integer?_signed {t : Text} (negative : Bool) (hne : t ≠ []) (ht : ∀ c ∈ t, c.isDigit = true)
    (hlen : t.length ≤ maxDigits) : integer? ((if negative then ['-'] else []) ++ t) =
      some (Binary64.signed negative (Nat.ofDigitChars 10 t 0)) := by
  obtain ⟨d, digits, rfl⟩ := List.exists_cons_of_ne_nil hne
  have hd : d.isDigit = true := ht d List.mem_cons_self
  have hminus : Text.isBlank '-' = false := by decide
  have hfirst : ∀ c ∈ ((if negative then ['-'] else []) ++ d :: digits).head?, Text.isBlank c = false := by
    intro c hc
    cases negative <;> obtain rfl := Option.some.inj hc
    · exact Text.isBlank_of_isDigit hd
    · exact hminus
  have hlast : ∀ c ∈ ((if negative then ['-'] else []) ++ d :: digits).getLast?, Text.isBlank c = false := by
    intro c hc
    rw [List.getLast?_append, Option.or_of_isSome (by simp)] at hc
    exact Text.isBlank_of_isDigit (ht c (List.mem_of_getLast? hc))
  have hsign : sign ((if negative then ['-'] else []) ++ d :: digits) = (negative, d :: digits) := by
    cases negative with
    | true => rfl
    | false =>
        have hne : d ≠ '-' ∧ d ≠ '+' := by
          constructor <;> (rintro rfl; exact absurd hd (by decide))
        simp only [Bool.false_eq_true, if_false, List.nil_append]
        unfold sign
        split
        · next he => exact absurd (List.cons.inj he).1 hne.1
        · next he => exact absurd (List.cons.inj he).1 hne.2
        · rfl
  rw [integer?, trim_eq_self hfirst hlast, hsign, ← ofDigits_map]
  simp only [digitRun_of_isDigit ht, List.map_cons]
  rw [if_neg (by simpa using hlen)]

/-- **A whole number is read back from its written form**, if it has no more digits than are read. -/
theorem integer?_ofInt {n : Int} (h : (Text.ofNat n.natAbs).length ≤ maxDigits) :
    integer? (Text.ofInt n) = some n := by
  have hread := integer?_signed (decide (n < 0)) (Text.ofNat_ne_nil n.natAbs) (fun _ => Text.isDigit_of_mem_ofNat) h
  have hvalue : Nat.ofDigitChars 10 (Text.ofNat n.natAbs) 0 = n.natAbs :=
    Nat.ofDigitChars_toDigits (by decide) (by decide)
  have hsigned : Binary64.signed (decide (n < 0)) n.natAbs = n := by
    rw [Binary64.signed]
    split <;> rename_i hn <;> simp only [decide_eq_true_eq] at hn <;> omega
  rw [hvalue, hsigned] at hread
  rw [Text.ofInt_eq]
  simpa only [decide_eq_true_eq] using hread

end Numeral

end Liquid
