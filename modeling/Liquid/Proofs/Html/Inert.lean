import Liquid.Html.Escape
import Liquid.Value.Printed

/-!
# Texts that HTML leaves alone

Escaping replaces five characters.  A text without any of them is inert: it is its own escaped form, and in
particular no angle bracket and no quote stands in it.  Whatever the library writes by itself is inert, with few
exceptions: numbers, moments, time zones and lengths of time are.

## Main definitions

* `Html.Inert` — a text without the characters that escaping replaces.
* `Html.Safe` — a text without angle brackets and quotes.

## Main statements

* `Html.escape_eq_self` — an inert text is its own escaped form.
* `Binary64.inert_text`, `Binary64.inert_grouped` — both written forms of a double precision number are inert.
* `Moment.inert_isoText`, `Moment.safe_call_iff` — one written form of a moment is inert, the other one is safe but for
  the zone.
-/

namespace Liquid

namespace Html

/-- The characters that escaping replaces. -/
def specials : List Char := ['&', '<', '>', '"', '\'']

/-- A text without the characters that escaping replaces. -/
def Inert (t : Text) : Prop := ∀ c ∈ t, c ∉ specials

/-- A text without angle brackets and quotes. -/
def Safe (t : Text) : Prop := ∀ c ∈ t, isUnsafe c = false

instance (t : Text) : Decidable (Inert t) := List.decidableBAll (· ∉ specials) t

instance (t : Text) : Decidable (Safe t) := List.decidableBAll (isUnsafe · = false) t

@[simp] theorem safe_nil : Safe [] := List.forall_mem_nil _

@[simp] theorem safe_cons_iff {c : Char} {t : Text} : Safe (c :: t) ↔ isUnsafe c = false ∧ Safe t :=
  List.forall_mem_cons

@[simp] theorem safe_append_iff {s t : Text} : Safe (s ++ t) ↔ Safe s ∧ Safe t := List.forall_mem_append

@[simp] theorem inert_nil : Inert [] := List.forall_mem_nil _

@[simp] theorem inert_cons_iff {c : Char} {t : Text} : Inert (c :: t) ↔ c ∉ specials ∧ Inert t :=
  List.forall_mem_cons

@[simp] theorem inert_append_iff {s t : Text} : Inert (s ++ t) ↔ Inert s ∧ Inert t := List.forall_mem_append

theorem Inert.safe {t : Text} (h : Inert t) : Safe t := by
  intro c hc
  have hspecial := h c hc
  simp only [specials, List.mem_cons, List.not_mem_nil, or_false, not_or] at hspecial
  simp [isUnsafe, hspecial]

theorem escapeChar_eq_self {c : Char} (h : c ∉ specials) : escapeChar c = [c] := by
  simp only [specials, List.mem_cons, List.not_mem_nil, or_false, not_or] at h
  simp [escapeChar, h]

/-- An inert text is its own escaped form. -/
theorem escape_eq_self {t : Text} (h : Inert t) : escape t = t := by
  induction t with
  | nil => rfl
  | cons c t ih =>
      rw [inert_cons_iff] at h
      rw [escape, List.flatMap_cons, escapeChar_eq_self h.1, List.singleton_append, ← escape, ih h.2]

theorem Inert.of_subset {s t : Text} (h : Inert t) (hst : s ⊆ t) : Inert s := fun c hc => h c (hst hc)

theorem inert_replicate {c : Char} (h : c ∉ specials) (n : Nat) : Inert (List.replicate n c) := by
  intro d hd
  rw [List.eq_of_mem_replicate hd]
  exact h

end Html

open Html

/-! ## Whole numbers -/

namespace Text

theorem not_mem_specials_of_isDigit {c : Char} (h : c.isDigit = true) : c ∉ specials := by
  intro hc
  simp only [specials, List.mem_cons, List.not_mem_nil, or_false] at hc
  rcases hc with rfl | rfl | rfl | rfl | rfl <;> simp [Char.isDigit] at h

@[simp] theorem inert_ofNat (n : Nat) : Inert (ofNat n) :=
  fun _ hc => not_mem_specials_of_isDigit (Nat.isDigit_of_mem_toDigits (by decide) (by decide) hc)

@[simp] theorem inert_ofInt (n : Int) : Inert (ofInt n) := by
  cases n with
  | ofNat n => exact inert_ofNat n
  | negSucc n => exact inert_cons_iff.2 ⟨by decide, inert_ofNat (n + 1)⟩

@[simp] theorem inert_padLeft {t : Text} (width : Nat) (h : Inert t) : Inert (padLeft width '0' t) :=
  inert_append_iff.2 ⟨inert_replicate (by decide) _, h⟩

theorem inert_join {glue : Text} {ts : List Text} (hglue : Inert glue) (h : ∀ t ∈ ts, Inert t) :
    Inert (join glue ts) := by
  induction ts with
  | nil => exact inert_nil
  | cons t rest ih =>
      rw [List.forall_mem_cons] at h
      cases rest with
      | nil => exact h.1
      | cons u rest => exact inert_append_iff.2 ⟨inert_append_iff.2 ⟨h.1, hglue⟩, ih h.2⟩

end Text

/-! ## Double precision numbers -/

namespace Binary64

theorem inert_dropTrailingZeros {t : Text} (h : Inert t) : Inert (dropTrailingZeros t) := by
  refine h.of_subset fun c hc => ?_
  rw [dropTrailingZeros, List.mem_reverse] at hc
  exact List.mem_reverse.1 ((List.dropWhile_sublist _).subset hc)

/-- Digits with a point and perhaps an exponent are inert. -/
theorem inert_layout {digits : Text} (h : Inert digits) (point : Int) : Inert (layout digits point) := by
  have hzeros : ∀ n, Inert (List.replicate n '0') := inert_replicate (by decide)
  unfold layout
  split
  · split
    · simp only [inert_append_iff]
      exact ⟨⟨by decide, hzeros _⟩, h⟩
    · simp only [inert_append_iff]
      refine ⟨⟨⟨h.of_subset (List.take_subset _ _), hzeros _⟩, by decide⟩, ?_⟩
      split
      · decide
      · exact h.of_subset (List.drop_subset _ _)
  · have hexponent : Inert ['e', if point - 1 < 0 then '-' else '+'] := by
      split <;> decide
    simp only [inert_append_iff]
    refine ⟨⟨?_, hexponent⟩, by simp⟩
    cases digits with
    | nil => exact inert_nil
    | cons d rest =>
        cases rest with
        | nil => exact h
        | cons d' rest =>
            rw [inert_cons_iff] at h
            exact inert_cons_iff.2 ⟨h.1, inert_cons_iff.2 ⟨by decide, h.2⟩⟩

theorem inert_sign (negative : Bool) : Inert (if negative then ['-'] else []) := by
  cases negative <;> decide

/-- The shortest written form of a number is inert. -/
theorem inert_text (x : Binary64) : Inert x.text := by
  cases x with
  | notANumber tag => exact (by decide : Inert "nan".toList)
  | infinite negative => cases negative <;> decide
  | finite negative m e =>
      refine inert_append_iff.2 ⟨inert_sign negative, ?_⟩
      unfold magnitudeText
      split
      · decide
      · exact inert_layout (inert_dropTrailingZeros (Text.inert_ofNat _)) _

theorem inert_groupReversed {t : Text} (h : Inert t) : Inert (groupReversed t) := by
  fun_induction groupReversed t with
  | case1 a b c d rest ih =>
      simp only [inert_cons_iff] at h ih ⊢
      exact ⟨h.1, h.2.1, h.2.2.1, by decide, ih h.2.2.2⟩
  | case2 => exact h

theorem inert_groupDigits {t : Text} (h : Inert t) : Inert (groupDigits t) := by
  have hreversed : Inert t.reverse := h.of_subset fun c hc => List.mem_reverse.1 hc
  exact (inert_groupReversed hreversed).of_subset fun c hc => List.mem_reverse.1 hc

/-- The written form of a whole number with grouped digits is inert. -/
theorem inert_grouped (negative : Bool) (n : Nat) : Inert (grouped negative n) := by
  simp only [grouped, inert_append_iff]
  exact ⟨⟨inert_sign negative, inert_groupDigits (Text.inert_ofNat n)⟩, by decide⟩

end Binary64

/-! ## Moments -/

namespace Zone

theorem inert_offsetText {separator : Text} (h : Inert separator) (offset : Int) :
    Inert (offsetText separator offset) := by
  have hsign : (if offset < 0 then '-' else '+') ∉ specials := by
    split <;> decide
  simp only [offsetText, inert_cons_iff, inert_append_iff]
  refine ⟨hsign, ⟨⟨by simp, h⟩, by simp⟩, ?_⟩
  split
  · exact inert_nil
  · exact inert_append_iff.2 ⟨h, by simp⟩

theorem inert_fixedName (offset : Int) : Inert (fixedName offset) := by
  unfold fixedName
  split
  · decide
  · exact inert_append_iff.2 ⟨by decide, inert_offsetText (by decide) offset⟩

end Zone

namespace Facet

theorem inert_durationText (microseconds : Int) : Inert (durationText microseconds) := by
  unfold durationText
  simp only [inert_append_iff]
  refine ⟨⟨⟨⟨⟨⟨?_, by simp⟩, by decide⟩, by simp⟩, by decide⟩, by simp⟩, ?_⟩
  · split
    · exact inert_nil
    · refine inert_append_iff.2 ⟨by simp, ?_⟩
      split <;> decide
  · split
    · exact inert_nil
    · exact inert_cons_iff.2 ⟨by decide, by simp⟩

theorem inert_durationCall (microseconds : Int) : Inert (durationCall microseconds) := by
  have hpart : ∀ (name : Text) (n : Int) (t : Text), Inert name →
      t ∈ (if n = 0 then [] else [name ++ Text.ofInt n]) → Inert t := by
    intro name n t hname ht
    split at ht
    · simp at ht
    · rw [List.mem_singleton.1 ht]
      exact inert_append_iff.2 ⟨hname, by simp⟩
  have hcall : ∀ parts : List Text, (∀ t ∈ parts, Inert t) →
      Inert (if parts.isEmpty then ['0'] else Text.join ", ".toList parts) := by
    intro parts hparts
    split
    · decide
    · exact Text.inert_join (by decide) hparts
  unfold durationCall
  simp only [inert_append_iff]
  refine ⟨⟨by decide, hcall _ fun t ht => ?_⟩, by decide⟩
  simp only [List.mem_append] at ht
  rcases ht with (ht | ht) | ht
  · exact hpart "days=".toList _ t (by decide) ht
  · exact hpart "seconds=".toList _ t (by decide) ht
  · exact hpart "microseconds=".toList _ t (by decide) ht

theorem inert_zoneCall (offset : Int) : Inert (zoneCall offset) := by
  unfold zoneCall
  split
  · decide
  · simp only [inert_append_iff]
    exact ⟨⟨by decide, inert_durationCall _⟩, by decide⟩

end Facet

namespace Moment

theorem inert_isoText {separator : Char} (h : separator ∉ specials) (m : Moment) : Inert (m.isoText separator) := by
  have hpoint : '.' ∉ specials := by decide
  have hdash : Inert ['-'] := by decide
  have hcolon : Inert [':'] := by decide
  have hfraction : Inert (if m.microsecond = 0 then [] else
      '.' :: Text.padLeft 6 '0' (Text.ofNat m.microsecond)) := by
    split
    · exact inert_nil
    · exact inert_cons_iff.2 ⟨hpoint, by simp⟩
  unfold isoText
  simp only [inert_append_iff]
  refine ⟨⟨?_, hfraction⟩, ?_⟩
  · simp [hdash, hcolon, h]
  · split
    · exact inert_nil
    · exact Zone.inert_offsetText hcolon _

/-- Besides the zone nothing in a call is special. -/
theorem safe_call_iff (m : Moment) : Safe m.call ↔ ∀ r ∈ m.region?, Safe r.self.shown := by
  have hparts : ∀ time : List Nat, Safe (Text.join ", ".toList (time.map Text.ofNat)) := by
    intro time
    refine (Text.inert_join (by decide) fun t ht => ?_).safe
    obtain ⟨n, -, rfl⟩ := List.mem_map.1 ht
    exact Text.inert_ofNat n
  have hfold : Safe (if m.region?.any Region.isLater then ", fold=1".toList else []) := by
    split <;> decide
  have hcall : Safe "datetime.datetime(".toList := by decide
  have hclose : Safe [')'] := by decide
  unfold call
  simp only [safe_append_iff, hparts, hfold, hcall, hclose, true_and, and_true]
  rcases hz : m.zone with _ | z
  · simp [region?, hz]
  · rcases hr : z.region with _ | r
    · simp [region?, hz, hr, Zone.shown, isUnsafe, (Facet.inert_zoneCall z.offset).safe]
    · simp [region?, hz, hr, Zone.shown, isUnsafe]

end Moment

/-! ## Ranges -/

theorem Value.inert_rangeText (start stop : Int) : Inert (rangeText start stop) := by
  unfold rangeText
  simp only [inert_append_iff]
  exact ⟨⟨⟨⟨by decide, by simp⟩, by decide⟩, by simp⟩, by decide⟩

end Liquid
