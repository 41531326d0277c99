import Liquid.Proofs.FilterLimits
import Liquid.Proofs.Number.Notation

/-!
# Arithmetic on numbers and on their texts

The filters `plus`, `minus` and `times` compute with two values that stand for numbers.  A text stands for the number
that is written in it, and is first tried as a whole number: only what does not spell a whole number, or spells one of
more digits than are read, is read in double precision.  So two whole numbers are computed with exactly, however they
are given.  A text that is no number at all is refused on either side.

## Main definitions

* `Numeric.Denotes` — the values that stand for a whole number.

## Main statements

* `Numeric.ofValue_text_eq_whole_iff` — the texts that stand for a whole number.
* `Numeric.ofValue_text_eq_error_iff` — the texts that stand for no number.
* `Standard.arithmetic_of_denotes` — whole numbers are computed with exactly.
* `Registry.arithmetic_exact` — calls of the three filters.
-/

namespace Liquid

variable {v w : Value} {t s : Text} {a b n : Int} {onInt : Int → Int → Int}
  {onDouble : Binary64 → Binary64 → Binary64} {e : Error}

namespace Numeric

/-- The values that stand for a whole number: the number itself, a text that spells it between blanks, and `nil` for
zero. -/
inductive Denotes : Value → Int → Prop
  | nil : Denotes .nil 0
  | int (n : Int) : Denotes (.int n) n
  | text {t : Text} {n : Int} (h : Text.Padded (Numeral.Spells · n) t) : Denotes (.text t) n

/-! ## Texts -/

/-- A text is tried as a whole number first, then as a number in double precision. -/
theorem ofValue_text (t : Text) :
    ofValue (.text t) =
      match Numeral.integer? (Text.strip t) with
      | some n => .ok (.whole n)
      | none =>
        match Numeral.double? (Text.strip t) with
        | some x => .ok (.double x)
        | none => .error (.notNumeric (Text.quote t)) := rfl

/-- **The texts that stand for a whole number** spell it between blanks. -/
theorem ofValue_text_eq_whole_iff : ofValue (.text t) = .ok (.whole n) ↔ Text.Padded (Numeral.Spells · n) t := by
  rw [← Numeral.integer?_strip_eq_some_iff, ofValue_text]
  cases Numeral.integer? (Text.strip t) <;> cases Numeral.double? (Text.strip t) <;> simp

/-- **The texts that stand for no number** are those that are no numbers between blanks. -/
theorem ofValue_text_eq_error_iff :
    ofValue (.text t) = .error (.notNumeric (Text.quote t)) ↔ ¬ Text.Padded Numeral.IsNumber t := by
  have hwhole : ∀ n, Numeral.integer? (Text.strip t) = some n → (Numeral.double? (Text.strip t)).isSome = true := by
    intro n h
    have hspells := (Numeral.integer?_eq_some_iff (Numeral.trim_strip t)).1 h
    exact (Numeral.isSome_double?_iff (Numeral.trim_strip t)).2 hspells.isNumber
  rw [← Numeral.isSome_double?_strip_iff, ofValue_text]
  cases hint : Numeral.integer? (Text.strip t) with
  | some n => exact iff_of_false nofun (not_not_intro (hwhole n hint))
  | none => cases Numeral.double? (Text.strip t) <;> simp

theorem ofValue_of_denotes (h : Denotes v n) : ofValue v = .ok (.whole n) := by
  cases h with
  | nil | int => rfl
  | text h => exact ofValue_text_eq_whole_iff.2 h

/-! ## What goes wrong -/

theorem toDouble_eq_error {x : Numeric} (h : x.toDouble = .error e) : e = .fault .tooLarge := by
  cases x with
  | double x => cases h
  | whole n =>
      rw [toDouble] at h
      split at h
      · cases h
      · exact (Except.error.inj h).symm

/-- Two numbers are combined, unless one of them is too large. -/
theorem combine_eq_error {x y : Numeric} (h : combine onInt onDouble x y = .error e) : e = .fault .tooLarge := by
  unfold combine at h
  split at h
  · exact nomatch h
  · rcases Outcome.bind_eq_error_iff.1 h with h | ⟨_, -, h⟩
    · exact toDouble_eq_error h
    · exact toDouble_eq_error (Outcome.bind_pure_eq_error_iff.1 h)

end Numeric

namespace Standard

open Numeric

/-! ## The operations -/

/-- **Whole numbers are computed with exactly**, whatever stands for them. -/
theorem arithmetic_of_denotes (hv : Denotes v a) (hw : Denotes w b) :
    arithmetic onInt onDouble v w = .ok (.int (onInt a b)) := by
  rw [arithmetic, ofValue_of_denotes hv, ofValue_of_denotes hw]
  rfl

/-- **An operation refuses what is no number**: the first value, or else the second one. -/
theorem arithmetic_eq_notNumeric_iff :
    arithmetic onInt onDouble v w = .error (.notNumeric s) ↔
      ofValue v = .error (.notNumeric s) ∨ (∃ x, ofValue v = .ok x) ∧ ofValue w = .error (.notNumeric s) := by
  have hcombine : ∀ x y, combine onInt onDouble x y ≠ .error (.notNumeric s) := fun x y h =>
    nomatch combine_eq_error h
  have hresult : ∀ x : Numeric, (pure x.toValue : Except Error Value) ≠ .error (.notNumeric s) := nofun
  simp only [arithmetic, Outcome.bind_eq_error_iff, hcombine, hresult, and_false, exists_false, or_false,
    exists_and_right]

/-- A text before a whole number is refused if it is no number. -/
theorem arithmetic_text_left_iff (hw : Denotes w b) :
    arithmetic onInt onDouble (.text t) w = .error (.notNumeric (Text.quote t)) ↔
      ¬ Text.Padded Numeral.IsNumber t := by
  rw [arithmetic_eq_notNumeric_iff, ofValue_of_denotes hw, ofValue_text_eq_error_iff]
  exact or_iff_left fun h => nomatch h.2

/-- A text behind a whole number is refused if it is no number. -/
theorem arithmetic_text_right_iff (hv : Denotes v a) :
    arithmetic onInt onDouble v (.text t) = .error (.notNumeric (Text.quote t)) ↔
      ¬ Text.Padded Numeral.IsNumber t := by
  rw [arithmetic_eq_notNumeric_iff, ofValue_of_denotes hv, ofValue_text_eq_error_iff]
  have hok : ∃ x, (.ok (whole a) : Except Error Numeric) = .ok x := ⟨_, rfl⟩
  rw [and_iff_right hok]
  exact or_iff_right nofun

end Standard

namespace Registry

open Numeric Standard

/-! ## Calls -/

theorem invoke_arithmetic (now : Moment) (almanac : Almanac) (v w : Value) :
    (standard now almanac).invoke "plus".toList v [w] = plus v w ∧
      (standard now almanac).invoke "minus".toList v [w] = minus v w ∧
      (standard now almanac).invoke "times".toList v [w] = times v w :=
  ⟨rfl, rfl, rfl⟩

theorem exists_invoke_eq_arithmetic {name : Text} (h : name ∈ ["plus".toList, "minus".toList, "times".toList])
    (now : Moment) (almanac : Almanac) :
    ∃ onInt onDouble, ∀ v w, (standard now almanac).invoke name v [w] = arithmetic onInt onDouble v w := by
  simp only [List.mem_cons, List.not_mem_nil, or_false] at h
  rcases h with rfl | rfl | rfl
  · exact ⟨_, _, fun v w => (invoke_arithmetic now almanac v w).1⟩
  · exact ⟨_, _, fun v w => (invoke_arithmetic now almanac v w).2.1⟩
  · exact ⟨_, _, fun v w => (invoke_arithmetic now almanac v w).2.2⟩

/-- **Arithmetic is exact on whole numbers and on their texts.**  A text of a whole number in decimal, with blanks
around it, stands for this number, if it has no more digits than are read.  Two values that stand for whole numbers have
their exact sum, difference and product, which are whole numbers again.  Where `nil` stands for a number, this is zero.
With a whole number on the other side, a text is refused on either side if and only if it is no number at all. -/
theorem arithmetic_exact (now : Moment) (almanac : Almanac) :
    (∀ (n : Int) (before after : Text), (Text.ofNat n.natAbs).length ≤ Numeral.maxDigits →
      (∀ c ∈ before, Text.isBlank c = true) → (∀ c ∈ after, Text.isBlank c = true) →
      Denotes (.text (before ++ (Text.ofInt n ++ after))) n) ∧
    (∀ v w a b, Denotes v a → Denotes w b →
      (standard now almanac).invoke "plus".toList v [w] = .ok (.int (a + b)) ∧
      (standard now almanac).invoke "minus".toList v [w] = .ok (.int (a - b)) ∧
      (standard now almanac).invoke "times".toList v [w] = .ok (.int (a * b))) ∧
    ∀ name ∈ ["plus".toList, "minus".toList, "times".toList],
      (∀ v, (standard now almanac).invoke name .nil [v] = (standard now almanac).invoke name (.int 0) [v] ∧
        (standard now almanac).invoke name v [.nil] = (standard now almanac).invoke name v [.int 0]) ∧
      ∀ t v n, Denotes v n →
        ((standard now almanac).invoke name (.text t) [v] = .error (.notNumeric (Text.quote t)) ↔
          ¬ Text.Padded Numeral.IsNumber t) ∧
        ((standard now almanac).invoke name v [.text t] = .error (.notNumeric (Text.quote t)) ↔
          ¬ Text.Padded Numeral.IsNumber t) := by
  refine ⟨?_, ?_, ?_⟩
  · intro n before after hdigits hbefore hafter
    exact .text (.intro hbefore (Numeral.spells_ofInt hdigits) hafter)
  · intro v w a b hv hw
    obtain ⟨hplus, hminus, htimes⟩ := invoke_arithmetic now almanac v w
    rw [hplus, hminus, htimes]
    exact ⟨arithmetic_of_denotes hv hw, arithmetic_of_denotes hv hw, arithmetic_of_denotes hv hw⟩
  · intro name hname
    obtain ⟨onInt, onDouble, hinvoke⟩ := exists_invoke_eq_arithmetic hname now almanac
    simp only [hinvoke]
    exact ⟨fun v => ⟨rfl, rfl⟩, fun t v n hv => ⟨arithmetic_text_left_iff hv, arithmetic_text_right_iff hv⟩⟩

/-- A text of a number that double precision does not hold, and texts that are no numbers. -/
theorem arithmetic_exact_beyond_double :
    let r := standard ⟨2024, 2, 29, 12, 0, 0, 0, none⟩
    let t := "\t-9007199254740993 \n".toList
    Denotes (.text t) (-9007199254740993) ∧
      r.invoke "plus".toList (.text t) [.int 2] = .ok (.int (-9007199254740991)) ∧
      r.invoke "minus".toList .nil [.text t] = .ok (.int 9007199254740993) ∧
      r.invoke "times".toList (.text t) [.text t] = .ok (.int 81129638414606699710187514626049) ∧
      ¬ Text.Padded Numeral.IsNumber "Alice".toList ∧
      r.invoke "plus".toList (.text "Alice".toList) [.int 1] = .error (.notNumeric (Text.quote "Alice".toList)) ∧
      r.invoke "times".toList (.text t) [.text "Alice".toList] = .error (.notNumeric (Text.quote "Alice".toList)) := by
  intro r t
  obtain ⟨hdecimal, hexact, hrefused⟩ := arithmetic_exact ⟨2024, 2, 29, 12, 0, 0, 0, none⟩ .standard
  have htext : ['\t'] ++ (Text.ofInt (-9007199254740993) ++ [' ', '\n']) = t := by decide +kernel
  have hbefore : ∀ c ∈ ['\t'], Text.isBlank c = true := List.forall_mem_singleton.2 rfl
  have hafter : ∀ c ∈ [' ', '\n'], Text.isBlank c = true :=
    List.forall_mem_cons.2 ⟨rfl, List.forall_mem_singleton.2 rfl⟩
  have ht : Denotes (.text t) (-9007199254740993) :=
    htext ▸ hdecimal (-9007199254740993) ['\t'] [' ', '\n'] (by decide +kernel) hbefore hafter
  have halice : ¬ Text.Padded Numeral.IsNumber "Alice".toList := by
    rw [← Numeral.isSome_double?_strip_iff]
    decide +kernel
  refine ⟨ht, (hexact _ _ _ _ ht (.int 2)).1, (hexact _ _ _ _ .nil ht).2.1, (hexact _ _ _ _ ht ht).2.2, halice, ?_, ?_⟩
  · exact ((hrefused "plus".toList (by decide)).2 _ _ _ (.int 1)).1.2 halice
  · exact ((hrefused "times".toList (by decide)).2 _ _ _ ht).2.2 halice

end Registry

end Liquid
