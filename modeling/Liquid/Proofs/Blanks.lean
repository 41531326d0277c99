import Liquid.Text.Basic

/-!
# Blanks around a text

A text is taken without the blanks at its ends.  What is left begins and ends with other characters, and the blanks
that were taken away stood before and behind it.

## Main definitions

* `Text.Padded` — a text of a certain kind with blanks around it.

## Main statements

* `Text.strip_append_blanks` — the blanks around a text are taken away.
* `Text.exists_strip` — a text is what is left of it, with blanks around that.
* `Text.padded_iff` — what is left decides whether a text is of a certain kind with blanks around it.
-/

namespace Liquid.Text

variable {t : Text}

theorem strip_of_forall (h : ∀ c ∈ t, isBlank c = false) : strip t = t :=
  strip_eq_self (fun c hc => h c (List.mem_of_mem_head? hc)) (fun c hc => h c (List.mem_of_getLast? hc))

/-- **The blanks around a text are taken away.** -/
theorem strip_append_blanks {before after : Text} (hbefore : ∀ c ∈ before, isBlank c = true)
    (hafter : ∀ c ∈ after, isBlank c = true) (hne : t ≠ []) (hfirst : ∀ c ∈ t.head?, isBlank c = false)
    (hlast : ∀ c ∈ t.getLast?, isBlank c = false) : strip (before ++ (t ++ after)) = t := by
  have hfront : dropBlanks (before ++ (t ++ after)) = t ++ after := by
    rw [dropBlanks, List.dropWhile_append_of_pos hbefore]
    refine dropBlanks_eq_self ?_
    rwa [List.head?_append, Option.or_of_isSome (by simpa using hne)]
  have hback : dropBlanks (t ++ after).reverse = t.reverse := by
    have hblanks : ∀ c ∈ after.reverse, isBlank c = true := fun c hc => hafter c (List.mem_reverse.1 hc)
    rw [List.reverse_append, dropBlanks, List.dropWhile_append_of_pos hblanks]
    refine dropBlanks_eq_self ?_
    rwa [List.head?_reverse]
  rw [strip, hfront, hback, List.reverse_reverse]

/-! ## What is left of a text -/

/-- The leading blanks are taken away, and no others. -/
theorem exists_dropBlanks (t : Text) : ∃ before, (∀ c ∈ before, isBlank c = true) ∧ t = before ++ dropBlanks t :=
  ⟨t.takeWhile isBlank, List.all_eq_true.1 List.all_takeWhile, List.takeWhile_append_dropWhile.symm⟩

theorem head?_dropBlanks (t : Text) : ∀ c ∈ (dropBlanks t).head?, isBlank c = false := by
  intro c hc
  have hnot := List.head?_dropWhile_not isBlank t
  rw [← dropBlanks, Option.mem_def.1 hc] at hnot
  simpa using hnot

/-- The blanks at the end are taken away after those at the beginning. -/
theorem exists_dropBlanks_eq (t : Text) :
    ∃ after, (∀ c ∈ after, isBlank c = true) ∧ dropBlanks t = strip t ++ after := by
  obtain ⟨blanks, hblanks, hreverse⟩ := exists_dropBlanks (dropBlanks t).reverse
  refine ⟨blanks.reverse, fun c hc => hblanks c (List.mem_reverse.1 hc), ?_⟩
  rw [strip, ← List.reverse_append, ← hreverse, List.reverse_reverse]

/-- **A text is what is left of it, with blanks around that.** -/
theorem exists_strip (t : Text) : ∃ before after, (∀ c ∈ before, isBlank c = true) ∧
    (∀ c ∈ after, isBlank c = true) ∧ t = before ++ (strip t ++ after) := by
  obtain ⟨before, hbefore, ht⟩ := exists_dropBlanks t
  obtain ⟨after, hafter, hrest⟩ := exists_dropBlanks_eq t
  exact ⟨before, after, hbefore, hafter, hrest ▸ ht⟩

theorem head?_strip (t : Text) : ∀ c ∈ (strip t).head?, isBlank c = false := by
  intro c hc
  obtain ⟨after, -, hrest⟩ := exists_dropBlanks_eq t
  refine head?_dropBlanks t c ?_
  rw [hrest, List.head?_append, Option.or_of_isSome (Option.isSome_of_mem hc)]
  exact hc

theorem getLast?_strip (t : Text) : ∀ c ∈ (strip t).getLast?, isBlank c = false := by
  rw [strip, List.getLast?_reverse]
  exact head?_dropBlanks _

/-! ## Texts with blanks around them -/

/-- A text of a certain kind with blanks around it, or without any. -/
inductive Padded (kind : Text → Prop) : Text → Prop
  | intro {before t after : Text} (hbefore : ∀ c ∈ before, isBlank c = true) (h : kind t)
      (hafter : ∀ c ∈ after, isBlank c = true) : Padded kind (before ++ (t ++ after))

/-- **What is left of a text decides** whether it is of a certain kind with blanks around it, if the texts of this kind
hold no blanks. -/
theorem padded_iff {kind : Text → Prop} (hne : ¬ kind []) (hkind : ∀ t, kind t → ∀ c ∈ t, isBlank c = false) :
    Padded kind t ↔ kind (strip t) := by
  constructor
  · rintro @⟨before, t, after, hbefore, h, hafter⟩
    have hinner := hkind t h
    rw [strip_append_blanks hbefore hafter]
    · exact h
    · rintro rfl
      exact hne h
    · exact fun c hc => hinner c (List.mem_of_mem_head? hc)
    · exact fun c hc => hinner c (List.mem_of_getLast? hc)
  · intro h
    obtain ⟨before, after, hbefore, hafter, ht⟩ := exists_strip t
    rw [ht]
    exact .intro hbefore h hafter

end Liquid.Text
