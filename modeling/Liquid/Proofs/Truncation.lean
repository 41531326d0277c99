import Liquid.Proofs.FilterLimits

/-!
# Truncation

The filter `truncate` cuts a text of more characters than are asked for, and puts an ending behind what it keeps.  It
keeps as many characters as are asked for, and none if a number is asked for that is as far below zero as the text is
long.  Between these a negative number leaves out as many characters at the end, so more is kept than was asked for.

## Main statements

* `Standard.firstChars_eq_take_max`, `Standard.firstChars_of_neg` — what is kept of a text.
* `Standard.truncate_of_requests` — a text is left as it is or cut.
* `Registry.truncate_keeps_requested` — a call of the filter with any arguments that ask for a number of characters.
* `Registry.truncate_keeps_more` — a call that keeps more than was asked for.
-/

namespace Liquid

namespace Standard

variable {t : Text} {n : Int}

/-- As many characters are kept as are asked for, unless a number between zero and the negative length of the text is
asked for. -/
theorem firstChars_eq_take_max (h : 0 ≤ n ∨ n + t.length ≤ 0) : firstChars n t = t.take (max n 0).toNat := by
  unfold firstChars
  congr 1
  split <;> omega

/-- A negative number leaves out as many characters at the end. -/
theorem firstChars_of_neg (h : n < 0) : firstChars n t = t.take (n + t.length).toNat := by
  rw [firstChars, if_pos h]

/-- A text is cut if it has more characters than are asked for. -/
theorem truncate_of_requests {length ending : Value} (h : Requests length n) :
    truncate (.text t) length ending =
      if n < t.length then ending.orEmpty.map fun e => .text (firstChars n t ++ e) else .ok (.text t) := by
  have hcut : truncate (.text t) length ending = (do
      if n < t.length then return .text (firstChars n t ++ (← ending.orEmpty)) else return .text t) := by
    rcases h with ⟨rfl, rfl⟩ | hcount
    · rfl
    · have hnil : length ≠ .nil := by
        rintro rfl
        exact nomatch hcount
      unfold truncate
      dsimp only
      split
      · exact absurd rfl hnil
      · rw [hcount]
        rfl
  rw [hcut]
  split
  · cases ending.orEmpty <;> rfl
  · rfl

end Standard

namespace Registry

open Standard

/-- The filter `truncate` takes a length and an ending; 50 and three points stand for them where they are left out. -/
theorem invoke_truncate (now : Moment) (almanac : Almanac) (v : Value) {args : List Value} (hargs : args.length ≤ 2) :
    (standard now almanac).invoke "truncate".toList v args =
      truncate v (args[0]?.getD (.int 50)) (args[1]?.getD (.text "...".toList)) := by
  match args, hargs with
  | [], _ => rfl
  | [_], _ => rfl
  | [_, _], _ => rfl

/-- **A text is cut to the number of characters that is asked for**, and to none if the number is as far below zero as
the text is long: a text of no more characters is left as it is, and any other is cut and followed by the ending.  If
the ending is not written, neither is the text.  For the numbers between, which are below zero, more is kept: as many
characters are left out at the end. -/
theorem truncate_keeps_requested (now : Moment) (almanac : Almanac) (t : Text) {args : List Value}
    (hargs : args.length ≤ 2) {n : Int} (h : Requests (args[0]?.getD (.int 50)) n) :
    let result := (standard now almanac).invoke "truncate".toList (.text t) args
    let ending := (args[1]?.getD (Value.text "...".toList)).orEmpty
    (0 ≤ n ∨ n + t.length ≤ 0 →
      (t.length ≤ n → result = .ok (.text t)) ∧
      (n < t.length → result = ending.map fun e => Value.text (t.take (max n 0).toNat ++ e)) ∧
      ∀ v, result = .ok v → v = Value.text t ∧ t.length ≤ n ∨
        ∃ e r, ending = .ok e ∧ v = Value.text r ∧ r.length ≤ (max n 0).toNat + e.length) ∧
    (n < 0 → 0 < n + t.length → result = ending.map fun e => Value.text (t.take (n + t.length).toNat ++ e)) := by
  intro result ending
  have hresult : result =
      if n < t.length then ending.map fun e => Value.text (firstChars n t ++ e) else .ok (.text t) :=
    (invoke_truncate now almanac (.text t) hargs).trans (truncate_of_requests h)
  constructor
  · intro hn
    rw [firstChars_eq_take_max hn] at hresult
    refine ⟨fun hle => ?_, fun hlt => ?_, fun v hv => ?_⟩
    · rw [hresult, if_neg (Int.not_lt.2 hle)]
    · rw [hresult, if_pos hlt]
    · rw [hresult] at hv
      split at hv
      · obtain ⟨e, he, rfl⟩ := Outcome.map_eq_ok_iff.1 hv
        refine .inr ⟨e, _, he, rfl, ?_⟩
        rw [List.length_append]
        exact Nat.add_le_add_right (List.length_take_le _ t) e.length
      · next hle => exact .inl ⟨(Except.ok.inj hv).symm, Int.not_lt.1 hle⟩
  · intro hneg hpos
    have hlt : n < t.length := by omega
    rw [hresult, if_pos hlt, firstChars_of_neg hneg]

/-- A numeral asks for two characters, and `nil` is no ending. -/
theorem truncate_keeps_requested_numeral :
    let args : List Value := [.text " 2".toList, .nil]
    args.length ≤ 2 ∧ Requests (args[0]?.getD (.int 50)) 2 ∧
      (standard ⟨2024, 2, 29, 12, 0, 0, 0, none⟩).invoke "truncate".toList (.text "hello".toList) args =
        .ok (.text "he".toList) := by
  intro args
  have hrequests : Requests (args[0]?.getD (.int 50)) 2 := .inr (Outcome.eq_ok_of_toOption (by decide +kernel))
  have hargs : args.length ≤ 2 := Nat.le_refl 2
  have hkeeps := truncate_keeps_requested ⟨2024, 2, 29, 12, 0, 0, 0, none⟩ .standard "hello".toList hargs hrequests
  exact ⟨hargs, hrequests, (hkeeps.1 (.inl (by decide))).2.1 (by decide)⟩

/-- Asked for one character less than none, the filter keeps four of five. -/
theorem truncate_keeps_more :
    Requests (.int (-1)) (-1) ∧
      (standard ⟨2024, 2, 29, 12, 0, 0, 0, none⟩).invoke "truncate".toList (.text "hello".toList)
        [.int (-1), .text []] = .ok (.text "hell".toList) ∧
      "hell".toList ≠ "hello".toList.take (max (-1 : Int) 0).toNat ++ [] := by
  exact ⟨.inr rfl, rfl, by decide⟩

end Registry
end Liquid
