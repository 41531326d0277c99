import Liquid.Proofs.Html.Inert
import Liquid.Value.Conversion

/-!
# Values that are emitted without markup

A template emits a text as it is, and a list or a tuple as its items one after the other.  Every other value is
emitted in its written form.  What this library writes has no quote and no angle bracket but those of a text or a
method: texts inside collections are quoted, and methods are written in angle brackets.  How an object is written, or
the region of a time zone, is up to the object.

## Main definitions

* `Value.isShownSafely` — no text or method stands in a value, and no object that is shown with an angle bracket or a
  quote.
* `Value.isEmittedSafely` — nothing that a value emits is an angle bracket or a quote.

## Main statements

* `Value.safe_shown_iff`, `Value.safe_emitted_iff` — both conditions are exact.
-/

namespace Liquid

open Html

namespace Value

mutual

/-- Whether no text or method stands in a value, and no object or region that is shown with an angle bracket or a
quote. -/
def isShownSafely : Value → Bool
  | .text _ | .facet (.method _) => false
  | .object o _ => decide (Safe o.shown)
  | .moment m => m.region?.all fun r => decide (Safe r.self.shown)
  | .list xs | .tuple xs | .set xs | .frozenSet xs => areShownSafely xs
  | .mapping es => areEntriesShownSafely es
  | _ => true

/-- Whether all of the values are shown without angle brackets and quotes. -/
def areShownSafely : List Value → Bool
  | [] => true
  | x :: xs => isShownSafely x && areShownSafely xs

/-- Whether all keys and values are shown without angle brackets and quotes. -/
def areEntriesShownSafely : List (Value × Value) → Bool
  | [] => true
  | (k, v) :: es => isShownSafely k && isShownSafely v && areEntriesShownSafely es

end

mutual

/-- Whether nothing that a template emits for a value is an angle bracket or a quote: a text has none, nor has the plain
form of an object, a list has only items without any, and another collection is shown without any. -/
def isEmittedSafely : Value → Bool
  | .text t => decide (Safe t)
  | .object o _ => decide (Safe o.text)
  | .moment _ => true
  | .list xs => areEmittedSafely xs
  | .tuple xs => areEmittedSafely xs
  | v => v.isShownSafely

/-- Whether nothing that a template emits for the values is an angle bracket or a quote. -/
def areEmittedSafely : List Value → Bool
  | [] => true
  | x :: xs => isEmittedSafely x && areEmittedSafely xs

end

end Value

/-! ## The written forms of scalars -/

theorem Text.not_safe_quote (t : Text) : ¬ Safe (Text.quote t) := by
  rw [Text.quote_eq, safe_cons_iff, Text.quoteMark]
  split <;> simp [isUnsafe]

theorem Facet.safe_shown_iff (f : Facet) : Safe f.shown ↔ (Value.facet f).isShownSafely = true := by
  unfold shown
  cases f with
  | method name => simp [Value.isShownSafely, isUnsafe]
  | zone offset => simp [Value.isShownSafely, (inert_zoneCall offset).safe]
  | duration n => simp [Value.isShownSafely, (inert_durationCall n).safe]

theorem Facet.safe_plain_iff (f : Facet) : Safe f.plain ↔ (Value.facet f).isShownSafely = true := by
  unfold plain
  cases f with
  | method name => simp [Value.isShownSafely, isUnsafe]
  | zone offset => simp [Value.isShownSafely, (Zone.inert_fixedName offset).safe]
  | duration n => simp [Value.isShownSafely, (inert_durationText n).safe]

namespace Value

theorem safe_boolText (b : Bool) : Safe (boolText b) := by
  cases b <;> decide

/-! ## Shown values -/

mutual

/-- The shown form of a value is safe exactly under this condition. -/
theorem safe_shown_iff (v : Value) : Safe v.shown ↔ v.isShownSafely = true := by
  rw [shown.eq_def]
  cases v with
  | nil => simp [isShownSafely, isUnsafe]
  | bool b => simp [isShownSafely, safe_boolText]
  | int n => simp [isShownSafely, (Text.inert_ofInt n).safe]
  | double x => simp [isShownSafely, x.inert_text.safe]
  | text t => simp [isShownSafely, Text.not_safe_quote]
  | list xs => simp [isShownSafely, isUnsafe, safe_shownItems_iff xs]
  | tuple xs =>
      -- A tuple of one item is written with a comma behind it.
      match xs with
      | [] => simp [isShownSafely, isUnsafe, safe_shownItems_iff []]
      | [x] => simp [isShownSafely, areShownSafely, isUnsafe, safe_shown_iff x]
      | x :: y :: rest => simp [isShownSafely, isUnsafe, safe_shownItems_iff (x :: y :: rest)]
  | set xs =>
      cases xs with
      | nil => simp [isShownSafely, areShownSafely, isUnsafe]
      | cons x rest => simp [isShownSafely, isUnsafe, safe_shownItems_iff (x :: rest)]
  | frozenSet xs =>
      cases xs with
      | nil => simp [isShownSafely, areShownSafely, isUnsafe]
      | cons x rest => simp [isShownSafely, isUnsafe, safe_shownItems_iff (x :: rest)]
  | mapping es => simp [isShownSafely, isUnsafe, safe_shownEntries_iff es]
  | range a b => simp [isShownSafely, (inert_rangeText a b).safe]
  | moment m => cases hr : m.region? <;> simp [isShownSafely, m.safe_call_iff, hr]
  | object o attributes => simp [isShownSafely]
  | facet f => exact f.safe_shown_iff

theorem safe_shownItems_iff (xs : List Value) : Safe (shownItems xs) ↔ areShownSafely xs = true := by
  unfold shownItems
  split
  · simp [areShownSafely]
  · next x => simp [areShownSafely, safe_shown_iff x]
  · next x rest _ =>
      simp [areShownSafely, safe_shown_iff x, safe_shownItems_iff rest, isUnsafe]

theorem safe_shownEntries_iff (es : List (Value × Value)) :
    Safe (shownEntries es) ↔ areEntriesShownSafely es = true := by
  unfold shownEntries
  split
  · simp [areEntriesShownSafely]
  · next k v => simp [areEntriesShownSafely, isUnsafe, safe_shown_iff k, safe_shown_iff v]
  · next k v rest _ =>
      simp [areEntriesShownSafely, isUnsafe, safe_shown_iff k, safe_shown_iff v, safe_shownEntries_iff rest,
        and_assoc]

end

/-! ## Emitted values -/

mutual

/-- What a template emits for a value is safe exactly under this condition. -/
theorem safe_emitted_iff (v : Value) : Safe v.emitted ↔ v.isEmittedSafely = true := by
  cases v with
  | nil => simp [emitted, isEmittedSafely, isShownSafely]
  | bool b => cases b <;> simp [emitted, isEmittedSafely, isShownSafely, isUnsafe]
  | text t => simp [emitted, plain, isEmittedSafely]
  | list xs => simp [emitted, isEmittedSafely, safe_emittedItems_iff xs]
  | tuple xs => simp [emitted, isEmittedSafely, safe_emittedItems_iff xs]
  | moment m =>
      have hiso : Safe (m.isoText ' ') := (Moment.inert_isoText (by decide) m).safe
      simp [emitted, plain, isEmittedSafely, hiso]
  | object o attributes => simp [emitted, plain, isEmittedSafely]
  | facet f => exact f.safe_plain_iff
  | int _ | double _ | set _ | frozenSet _ | mapping _ | range _ _ => exact safe_shown_iff _

theorem safe_emittedItems_iff (xs : List Value) : Safe (emittedItems xs) ↔ areEmittedSafely xs = true := by
  match xs with
  | [] => simp [emittedItems, areEmittedSafely]
  | x :: rest =>
      simp [emittedItems, areEmittedSafely, safe_emitted_iff x, safe_emittedItems_iff rest]

end

end Value
end Liquid
