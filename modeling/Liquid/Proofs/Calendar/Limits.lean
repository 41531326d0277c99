import Liquid.Calendar.Pattern
import Liquid.Proofs.Outcome

/-!
# The limits of the calendar

A number of seconds has a moment if the local clock shows a year of the calendar then and a day before, which is so for
a bit less than ten thousand years.  A moment is written by every pattern, unless its zone is a day or more away from
universal time and the pattern asks for this distance.

## Main definitions

* `Moment.InCalendar`, `Moment.TimestampInCalendar` — seconds and timestamps that have a moment.
* `Moment.AsksOffset` — a pattern that asks for the distance from universal time.

## Main statements

* `Moment.ofSeconds_eq_error_iff`, `Moment.ofTimestamp_eq_error_iff` — seconds and timestamps without a moment.
* `Moment.format_eq_error_iff` — moments that are not written by a pattern.
-/

namespace Liquid

namespace Moment

/-- The seconds since the beginning of 1970 that have a moment in local time: they fit into 64 bits, and the local clock
shows a year of the calendar then and a day before. -/
structure InCalendar (l : LocalZone) (seconds : Int) : Prop where
  fits : -9223372036854775808 ≤ seconds ∧ seconds < 9223372036854775808
  clock : isInCalendar (l.clockSeconds seconds) = true
  clockBefore : isInCalendar (l.clockSeconds (seconds - 86400)) = true

theorem isInCalendar_iff {clock : Int} :
    isInCalendar clock = true ↔ -62135596800 ≤ clock ∧ clock ≤ 253402300799 := by
  simp [isInCalendar]

/-- In universal time these are the years 1 to 9999, but for the first day. -/
theorem inCalendar_universal_iff {seconds : Int} :
    InCalendar .universal seconds ↔ -62135510400 ≤ seconds ∧ seconds ≤ 253402300799 := by
  have huniversal : ∀ s, LocalZone.universal.clockSeconds s = s := fun s => Int.add_zero s
  constructor
  · rintro ⟨-, hclock, hbefore⟩
    rw [huniversal, isInCalendar_iff] at hclock hbefore
    omega
  · intro h
    refine ⟨by omega, ?_, ?_⟩ <;> rw [huniversal, isInCalendar_iff] <;> omega

variable {l : LocalZone}

theorem ofSeconds_eq_error_iff {seconds : Int} {microsecond : Nat} :
    (∃ e, ofSeconds l seconds microsecond = .error e) ↔ ¬ InCalendar l seconds := by
  unfold ofSeconds
  dsimp only
  split
  · exact iff_of_true ⟨_, rfl⟩ fun h => by have := h.fits; omega
  · split
    · refine iff_of_true ⟨_, rfl⟩ fun h => ?_
      have := isInCalendar_iff.1 h.clock
      omega
    · split
      · next h =>
          rw [Bool.and_eq_true] at h
          exact iff_of_false nofun (not_not_intro ⟨by omega, h.1, h.2⟩)
      · next h =>
          rw [Bool.and_eq_true] at h
          exact iff_of_true ⟨_, rfl⟩ fun hin => h ⟨hin.clock, hin.clockBefore⟩

/-- A timestamp whose seconds, after rounding to microseconds, lie in the calendar. -/
def TimestampInCalendar (l : LocalZone) (t : Binary64) : Prop :=
  ∃ seconds microsecond, secondsAndMicroseconds? t = some (seconds, microsecond) ∧ InCalendar l seconds

theorem ofTimestamp_eq_error_iff {t : Binary64} :
    (∃ e, ofTimestamp l t = .error e) ↔ ¬ TimestampInCalendar l t := by
  unfold ofTimestamp TimestampInCalendar
  split
  · simp [secondsAndMicroseconds?]
  · cases secondsAndMicroseconds? t with
    | none => simp
    | some parts =>
        rw [ofSeconds_eq_error_iff]
        simp [Prod.ext_iff]

/-! ## Patterns -/

/-- A pattern in which the distance from universal time is asked for, before a null character. -/
inductive AsksOffset : Text → Prop
  | here (rest : Text) : AsksOffset ('%' :: 'z' :: rest)
  | directive {c : Char} {rest : Text} (hc : c.toNat ≠ 0) (h : AsksOffset rest) : AsksOffset ('%' :: c :: rest)
  | character {c : Char} {rest : Text} (hmark : c ≠ '%') (hc : c.toNat ≠ 0) (h : AsksOffset rest) :
      AsksOffset (c :: rest)

theorem not_asksOffset_nil : ¬ AsksOffset [] := nofun

theorem not_asksOffset_percent : ¬ AsksOffset ['%'] := by
  rintro (_ | _ | ⟨hmark, -, -⟩)
  exact hmark rfl

theorem asksOffset_directive_iff {c : Char} {rest : Text} :
    AsksOffset ('%' :: c :: rest) ↔ c = 'z' ∨ c.toNat ≠ 0 ∧ AsksOffset rest := by
  constructor
  · rintro (_ | ⟨hc, h⟩ | ⟨hmark, -, -⟩)
    · exact .inl rfl
    · exact .inr ⟨hc, h⟩
    · exact absurd rfl hmark
  · rintro (rfl | ⟨hc, h⟩)
    · exact .here rest
    · exact .directive hc h

theorem asksOffset_cons_iff {c : Char} {rest : Text} (hmark : c ≠ '%') :
    AsksOffset (c :: rest) ↔ c.toNat ≠ 0 ∧ AsksOffset rest := by
  constructor
  · rintro (_ | _ | ⟨-, hc, h⟩)
    · exact absurd rfl hmark
    · exact absurd rfl hmark
    · exact ⟨hc, h⟩
  · rintro ⟨hc, h⟩
    exact .character hmark hc h

theorem zoneOffsetText_eq_error_iff {m : Moment} :
    (∃ e, m.zoneOffsetText = .error e) ↔ ∃ z, m.zone = some z ∧ z.isProper = false := by
  unfold zoneOffsetText
  cases m.zone with
  | none => simp
  | some z => cases hz : z.isProper <;> simp [hz]

/-- The first pass over a pattern fails when it comes to the distance of an improper zone. -/
theorem fillZone_eq_error_iff {m : Moment} {p : Text} :
    (∃ e, m.fillZone p = .error e) ↔ (∃ z, m.zone = some z ∧ z.isProper = false) ∧ AsksOffset p := by
  fun_induction fillZone m p with
  | case1 => simp [not_asksOffset_nil]
  | case2 c =>
      have hnot : ¬ AsksOffset [c] := by
        by_cases hmark : c = '%'
        · subst hmark
          exact not_asksOffset_percent
        · simp [asksOffset_cons_iff hmark, not_asksOffset_nil]
      simp [hnot]
  | case3 c rest hc =>
      have hz : c ≠ 'z' := by
        rintro rfl
        exact absurd hc (by decide)
      simp [asksOffset_directive_iff, hz, hc]
  | case4 rest _ hc ih =>
      rw [← zoneOffsetText_eq_error_iff] at ih ⊢
      cases hz : m.zoneOffsetText with
      | error e => simp [asksOffset_directive_iff, bind, Except.bind]
      | ok t =>
          rw [hz] at ih
          refine (Outcome.exists_error_bind_pure_iff.trans ih).trans ?_
          simp
  | case5 rest _ hc hz ih =>
      refine (Outcome.exists_error_bind_pure_iff.trans ih).trans ?_
      simp [asksOffset_directive_iff]
  | case6 rest _ hc hz _ ih =>
      refine (Outcome.exists_error_bind_pure_iff.trans ih).trans ?_
      simp [asksOffset_directive_iff]
  | case7 c rest hc _ hz _ _ ih =>
      refine (Outcome.exists_error_bind_pure_iff.trans ih).trans ?_
      simp [asksOffset_directive_iff, hz, hc]
  | case8 c rest _ hmark hc =>
      have hmark : c ≠ '%' := by
        rintro rfl
        exact absurd hc (by decide)
      simp [asksOffset_cons_iff hmark, hc]
  | case9 c rest hrest hnot hc ih =>
      have hmark : c ≠ '%' := by
        intro hmark
        cases rest with
        | nil => exact hrest rfl
        | cons d rest => exact hnot d rest hmark rfl
      rw [Outcome.exists_error_bind_pure_iff, ih, asksOffset_cons_iff hmark]
      simp [hc]

/-- **A moment is not written by a pattern** exactly when the pattern asks for the distance of an improper zone. -/
theorem format_eq_error_iff {m : Moment} {p : Text} :
    (∃ e, m.format l p = .error e) ↔ (∃ z, m.zone = some z ∧ z.isProper = false) ∧ AsksOffset p := by
  rw [← fillZone_eq_error_iff]
  simp only [format, Outcome.map_eq_error_iff]

end Moment

end Liquid
