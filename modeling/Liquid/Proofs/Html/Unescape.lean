import Liquid.Html.Escape
import Mathlib.Data.List.TakeWhile

/-!
# References that cannot be read

Resolving the references of a text fails for one reason: somewhere in it stands a decimal reference with more digits
than are read as a number.  No reference takes the ampersand of the next one, so each of them is come upon.

## Main definitions

* `Html.HasLongReference` — a text with a decimal reference of too many digits.

## Main statements

* `Html.unescape?_eq_none_iff` — these are the texts whose references are not resolved.
-/

namespace Liquid.Html

/-- A decimal reference of too many digits, without its ampersand, at the head of a text. -/
def BeginsLong (t : Text) : Prop :=
  ∃ digits after, t = '#' :: (digits ++ after) ∧ (∀ c ∈ digits, c.isDigit = true) ∧ Numeral.maxDigits < digits.length

/-- A decimal reference of too many digits somewhere in a text. -/
def HasLongReference (t : Text) : Prop := ∃ before after, t = before ++ '&' :: after ∧ BeginsLong after

theorem not_hasLongReference_nil : ¬ HasLongReference [] := by
  rintro ⟨before, after, h, -⟩
  simp at h

theorem hasLongReference_cons_iff {c : Char} {t : Text} :
    HasLongReference (c :: t) ↔ c = '&' ∧ BeginsLong t ∨ HasLongReference t := by
  constructor
  · rintro ⟨before, after, h, hlong⟩
    cases before with
    | nil =>
        rw [List.nil_append, List.cons.injEq] at h
        obtain ⟨rfl, rfl⟩ := h
        exact .inl ⟨rfl, hlong⟩
    | cons d before =>
        rw [List.cons_append, List.cons.injEq] at h
        exact .inr ⟨before, after, h.2, hlong⟩
  · rintro (⟨rfl, hlong⟩ | ⟨before, after, rfl, hlong⟩)
    · exact ⟨[], t, rfl, hlong⟩
    · exact ⟨c :: before, after, rfl, hlong⟩

theorem hasLongReference_append_iff {s t : Text} (h : '&' ∉ s) : HasLongReference (s ++ t) ↔ HasLongReference t := by
  induction s with
  | nil => rfl
  | cons c s ih =>
      rw [List.mem_cons, not_or] at h
      rw [List.cons_append, hasLongReference_cons_iff, ih h.2]
      simp [Ne.symm h.1]

namespace Reference

theorem exists_semicolon_append (t : Text) : ∃ close, t = close ++ (semicolon t).2 ∧ '&' ∉ close := by
  unfold semicolon
  split
  · exact ⟨[';'], rfl, by decide⟩
  · exact ⟨[], rfl, List.not_mem_nil⟩

theorem ampersand_not_mem_takeWhile {p : Char → Bool} (hp : p '&' = false) (t : Text) : '&' ∉ t.takeWhile p := by
  intro h
  exact Bool.false_ne_true (hp.symm.trans (List.mem_takeWhile_imp h))

/-- The rest of a text from a run of characters and a possible semicolon on. -/
theorem exists_run_append {p : Char → Bool} (hp : p '&' = false) (t : Text) :
    ∃ taken, t = taken ++ (semicolon (t.dropWhile p)).2 ∧ '&' ∉ taken := by
  obtain ⟨close, hclose, hnot⟩ := exists_semicolon_append (t.dropWhile p)
  refine ⟨t.takeWhile p ++ close, ?_, ?_⟩
  · rw [List.append_assoc, ← hclose, List.takeWhile_append_dropWhile]
  · rw [List.mem_append, not_or]
    exact ⟨ampersand_not_mem_takeWhile hp t, hnot⟩

/-- A reference is a number in decimal, a number in hexadecimal, or a name. -/
theorem read?_cases {t : Text} {r : Reference} {after : Text} (h : read? t = some (r, after)) :
    (∃ rest, t = '#' :: rest ∧ r = .decimal (rest.takeWhile Char.isDigit) ∧
      after = (semicolon (rest.dropWhile Char.isDigit)).2) ∨
    (∃ x rest, t = '#' :: x :: rest ∧ (x = 'x' ∨ x = 'X') ∧ r = .hexadecimal (rest.takeWhile isHexDigit) ∧
      after = (semicolon (rest.dropWhile isHexDigit)).2) ∨
    ∃ name, name <+: t ∧ '&' ∉ name ∧ r = .named (name ++ (semicolon (t.drop name.length)).1) ∧
      after = (semicolon (t.drop name.length)).2 := by
  unfold read? at h
  split at h
  · next _ rest =>
      simp only at h
      split at h
      · obtain ⟨rfl, rfl⟩ := Prod.mk.inj (Option.some.inj h)
        exact .inl ⟨rest, rfl, rfl, rfl⟩
      · split at h
        · split at h
          · next _ x rest _ hx =>
              obtain ⟨rfl, rfl⟩ := Prod.mk.inj (Option.some.inj h)
              exact .inr (.inl ⟨x, rest, rfl, hx.1, rfl, rfl⟩)
          · exact nomatch h
        · exact nomatch h
  · simp only at h
    split at h
    · obtain ⟨rfl, rfl⟩ := Prod.mk.inj (Option.some.inj h)
      refine .inr (.inr ⟨_, (List.take_prefix _ _).trans (List.takeWhile_prefix _), ?_, rfl, rfl⟩)
      intro hmem
      exact ampersand_not_mem_takeWhile (by decide) _ (List.mem_of_mem_take hmem)
    · exact nomatch h

/-- A reference takes no ampersand. -/
theorem exists_taken {t : Text} {r : Reference} {after : Text} (h : read? t = some (r, after)) :
    ∃ taken, t = taken ++ after ∧ '&' ∉ taken := by
  rcases read?_cases h with ⟨rest, rfl, -, rfl⟩ | ⟨x, rest, rfl, hx, -, rfl⟩ | ⟨name, hname, hnot, -, rfl⟩
  · obtain ⟨taken, htaken, hnot⟩ := exists_run_append (p := Char.isDigit) (by decide) rest
    exact ⟨'#' :: taken, congrArg ('#' :: ·) htaken, by simpa using hnot⟩
  · obtain ⟨taken, htaken, hnot⟩ := exists_run_append (p := isHexDigit) (by decide) rest
    have hmark : '&' ≠ x := by rcases hx with rfl | rfl <;> decide
    exact ⟨'#' :: x :: taken, congrArg (fun t => '#' :: x :: t) htaken, by simp [hmark, hnot]⟩
  · obtain ⟨close, hclose, hnot'⟩ := exists_semicolon_append (t.drop name.length)
    refine ⟨name ++ close, ?_, ?_⟩
    · rw [List.append_assoc, ← hclose]
      exact (List.prefix_iff_eq_append.1 hname).symm
    · rw [List.mem_append, not_or]
      exact ⟨hnot, hnot'⟩

theorem text?_eq_none_iff {r : Reference} :
    r.text? = none ↔ ∃ digits, r = .decimal digits ∧ Numeral.maxDigits < digits.length := by
  cases r with
  | decimal digits =>
      rw [text?]
      split <;> simp_all
  | hexadecimal digits => simp [text?]
  | named name =>
      rw [text?]
      split <;> simp

/-- A number is too long to be read when the reference at the head of a text is. -/
theorem text?_eq_none_of_beginsLong {t : Text} (h : BeginsLong t) :
    ∃ r after, read? t = some (r, after) ∧ r.text? = none := by
  obtain ⟨digits, after, rfl, hdigits, hlong⟩ := h
  have hrun : (digits ++ after).takeWhile Char.isDigit = digits ++ after.takeWhile Char.isDigit :=
    List.takeWhile_append_of_pos hdigits
  have hlong' : Numeral.maxDigits < (digits ++ after.takeWhile Char.isDigit).length := by
    rw [List.length_append]
    omega
  have hne : (digits ++ after).takeWhile Char.isDigit ≠ [] := by
    rw [hrun]
    exact List.length_pos_iff.1 (Nat.zero_lt_of_lt hlong')
  refine ⟨_, _, if_pos hne, text?_eq_none_iff.2 ⟨_, rfl, ?_⟩⟩
  rwa [hrun]

theorem beginsLong_of_text?_eq_none {t : Text} {r : Reference} {after : Text} (h : read? t = some (r, after))
    (hr : r.text? = none) : BeginsLong t := by
  obtain ⟨digits, rfl, hlong⟩ := text?_eq_none_iff.1 hr
  rcases read?_cases h with ⟨rest, rfl, hdigits, -⟩ | ⟨x, rest, -, -, hdigits, -⟩ | ⟨name, -, -, hdigits, -⟩
  · rw [decimal.injEq] at hdigits
    subst hdigits
    refine ⟨_, rest.dropWhile Char.isDigit, ?_, fun c hc => List.mem_takeWhile_imp hc, hlong⟩
    rw [List.takeWhile_append_dropWhile]
  · exact nomatch hdigits
  · exact nomatch hdigits

end Reference

/-- **The references of a text are not resolved** exactly when one of them is a decimal reference of too many digits. -/
theorem unescape?_eq_none_iff {t : Text} : unescape? t = none ↔ HasLongReference t := by
  fun_induction unescape? t with
  | case1 => simp [not_hasLongReference_nil]
  | case2 rest r after hread ih =>
      obtain ⟨taken, rfl, hnot⟩ := Reference.exists_taken hread
      have hhead : r.text? = none ↔ BeginsLong (taken ++ after) := by
        constructor
        · exact Reference.beginsLong_of_text?_eq_none hread
        · intro hlong
          obtain ⟨r', after', hread', hr'⟩ := Reference.text?_eq_none_of_beginsLong hlong
          rw [hread, Option.some.injEq, Prod.mk.injEq] at hread'
          rwa [hread'.1]
      rw [hasLongReference_cons_iff, hasLongReference_append_iff hnot, ← ih, ← hhead]
      cases r.text? <;> cases unescape? after <;> simp
  | case3 rest hread ih =>
      have hhead : ¬ BeginsLong rest := by
        intro hlong
        obtain ⟨r, after, hread', -⟩ := Reference.text?_eq_none_of_beginsLong hlong
        rw [hread] at hread'
        exact nomatch hread'
      rw [Option.map_eq_none_iff, ih, hasLongReference_cons_iff]
      simp [hhead]
  | case4 c rest hc ih =>
      rw [Option.map_eq_none_iff, ih, hasLongReference_cons_iff]
      simp [hc]

end Liquid.Html
