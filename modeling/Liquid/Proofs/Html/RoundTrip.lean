import Liquid.Filter.Standard
import Liquid.Proofs.Html.Unescape

/-!
# Escaping and resolving references

Escaping writes five characters as references.  Resolving the references of an escaped text gives the text back,
whatever it looks like itself: the ampersand of every reference in it is written as a reference too.  So a text that is
resolved before it is escaped is escaped once, however often this is done, and means what it meant.

## Main definitions

* `Html.writtenReferences` — the references that escaping writes.
* `Html.referenced` — one replacement after the other.

## Main statements

* `Html.escape_eq_referenced` — escaping is one replacement after the other.
* `Html.unescape?_escape_append` — resolving undoes escaping, whatever follows.
* `Html.exists_written_prefix` — an ampersand in an escaped text begins a reference.
* `Registry.escape_round_trip` — what this means for the filters `escape` and `escape_once`.
* `Registry.escape_once_long_reference` — a text that `escape_once` fails for.
-/

namespace Liquid

namespace Html

/-- The characters that are escaped and the references that are written for them, without the ampersand. -/
def writtenReferences : List (Char × Text) :=
  [('&', "amp;".toList), ('<', "lt;".toList), ('>', "gt;".toList), ('"', "quot;".toList), ('\'', "#x27;".toList)]

theorem escapeChar_of_mem {c : Char} {name : Text} (h : (c, name) ∈ writtenReferences) :
    escapeChar c = '&' :: name := by
  simp only [writtenReferences, List.mem_cons, List.not_mem_nil, or_false, Prod.mk.injEq] at h
  rcases h with ⟨rfl, rfl⟩ | ⟨rfl, rfl⟩ | ⟨rfl, rfl⟩ | ⟨rfl, rfl⟩ | ⟨rfl, rfl⟩ <;> rfl

/-- A character is written as a reference or left as it is. -/
theorem escapeChar_cases (c : Char) :
    (∃ name, (c, name) ∈ writtenReferences ∧ escapeChar c = '&' :: name) ∨
      c ∉ writtenReferences.map Prod.fst ∧ escapeChar c = [c] := by
  by_cases hc : c ∈ writtenReferences.map Prod.fst
  · obtain ⟨⟨d, name⟩, hmem, rfl⟩ := List.mem_map.1 hc
    exact .inl ⟨name, hmem, escapeChar_of_mem hmem⟩
  · refine .inr ⟨hc, ?_⟩
    simp only [writtenReferences, List.map_cons, List.map_nil, List.mem_cons, List.not_mem_nil, or_false, not_or] at hc
    obtain ⟨hamp, hlt, hgt, hquot, hapostrophe⟩ := hc
    rw [escapeChar, if_neg hamp, if_neg hlt, if_neg hgt, if_neg hquot, if_neg hapostrophe]

/-! ## One replacement after the other -/

/-- A text with every occurrence of a character replaced. -/
def replaced (c : Char) (replacement t : Text) : Text := t.flatMap fun d => if d = c then replacement else [d]

/-- A text with references for characters, written for one character after the other. -/
def referenced (written : List (Char × Text)) (t : Text) : Text :=
  written.foldl (fun t reference => replaced reference.1 ('&' :: reference.2) t) t

/-- Replacements work character by character. -/
theorem referenced_eq_flatMap (written : List (Char × Text)) (t : Text) :
    referenced written t = t.flatMap fun c => referenced written [c] := by
  induction written generalizing t with
  | nil => exact t.flatMap_singleton'.symm
  | cons reference written ih =>
      have hstep : ∀ t, referenced (reference :: written) t =
          (replaced reference.1 ('&' :: reference.2) t).flatMap fun c => referenced written [c] := fun t => ih _
      rw [hstep, replaced, List.flatMap_assoc]
      congr 1
      funext c
      rw [hstep, replaced, List.flatMap_singleton]

theorem referenced_of_not_mem {written : List (Char × Text)} {c : Char} (h : c ∉ written.map Prod.fst) :
    referenced written [c] = [c] := by
  induction written with
  | nil => rfl
  | cons reference written ih =>
      rw [List.map_cons, List.mem_cons, not_or] at h
      have hstep : replaced reference.1 ('&' :: reference.2) [c] = [c] := by
        rw [replaced, List.flatMap_singleton, if_neg h.1]
      rw [referenced, List.foldl_cons, hstep]
      exact ih h.2

/-- **Escaping is one replacement after the other**, that of the ampersand first. -/
theorem escape_eq_referenced (t : Text) : escape t = referenced writtenReferences t := by
  rw [referenced_eq_flatMap, escape]
  congr 1
  funext c
  rcases escapeChar_cases c with ⟨name, hmem, -⟩ | ⟨hc, hplain⟩
  · -- None of the later replacements touches a reference.
    have hall : ∀ reference ∈ writtenReferences,
        escapeChar reference.1 = referenced writtenReferences [reference.1] := by decide +kernel
    exact hall _ hmem
  · rw [hplain, referenced_of_not_mem hc]

/-! ## References that were written -/

namespace Reference

/-- A name is read up to its semicolon. -/
theorem read?_name {name : Text} (hne : name ≠ []) (hname : name.all isNameChar = true) (hlen : name.length ≤ 32)
    (t : Text) : read? (name ++ ';' :: t) = some (.named (name ++ [';']), t) := by
  have hchars : ∀ c ∈ name, isNameChar c = true := List.all_eq_true.1 hname
  have hrun : (name ++ ';' :: t).takeWhile isNameChar = name := by
    rw [List.takeWhile_append_of_pos hchars, List.takeWhile_cons_of_neg (by decide), List.append_nil]
  unfold read?
  split
  · next rest h =>
      obtain ⟨c, name, rfl⟩ := List.exists_cons_of_ne_nil hne
      rw [List.cons_append, List.cons.injEq] at h
      obtain ⟨rfl, -⟩ := h
      exact absurd (hchars '#' List.mem_cons_self) (by decide)
  · simp only [hrun, List.take_of_length_le hlen, List.drop_left, semicolon, hne, ne_eq, not_false_eq_true, if_true]

theorem read?_apostrophe (t : Text) : read? ("#x27;".toList ++ t) = some (.hexadecimal "27".toList, t) := rfl

theorem text?_named {name t : Text} (h : lookupName name = some t) : text? (.named name) = some t := by
  rw [text?, h]

/-- A reference that was written is read as the character that it was written for. -/
theorem exists_read?_written {c : Char} {name : Text} (h : (c, name) ∈ writtenReferences) (t : Text) :
    ∃ r, read? (name ++ t) = some (r, t) ∧ r.text? = some [c] := by
  simp only [writtenReferences, List.mem_cons, List.not_mem_nil, or_false, Prod.mk.injEq] at h
  rcases h with ⟨rfl, rfl⟩ | ⟨rfl, rfl⟩ | ⟨rfl, rfl⟩ | ⟨rfl, rfl⟩ | ⟨rfl, rfl⟩
  · exact ⟨_, @read?_name "amp".toList (by decide) (by decide) (by decide) t, text?_named lookup_amp⟩
  · exact ⟨_, @read?_name "lt".toList (by decide) (by decide) (by decide) t, text?_named lookup_lt⟩
  · exact ⟨_, @read?_name "gt".toList (by decide) (by decide) (by decide) t, text?_named lookup_gt⟩
  · exact ⟨_, @read?_name "quot".toList (by decide) (by decide) (by decide) t, text?_named lookup_quot⟩
  · exact ⟨_, read?_apostrophe t, rfl⟩

end Reference

theorem unescape?_cons_of_ne {c : Char} (h : c ≠ '&') (t : Text) :
    unescape? (c :: t) = (unescape? t).map (c :: ·) := by
  rw [unescape?, if_neg h]

theorem unescape?_reference {r : Reference} {t after s : Text} (hread : Reference.read? t = some (r, after))
    (hr : r.text? = some s) : unescape? ('&' :: t) = (unescape? after).map (s ++ ·) := by
  rw [unescape?, if_pos rfl]
  split
  · next r' after' hread' =>
      rw [hread, Option.some.injEq, Prod.mk.injEq] at hread'
      obtain ⟨rfl, rfl⟩ := hread'
      rw [hr]
      cases unescape? after <;> rfl
  · next hread' => exact absurd (hread.symm.trans hread') (Option.some_ne_none _)

/-- **Resolving undoes escaping**, whatever follows the escaped text. -/
theorem unescape?_escape_append (s t : Text) : unescape? (escape s ++ t) = (unescape? t).map (s ++ ·) := by
  induction s with
  | nil => simp
  | cons c s ih =>
      have hsplit : escape (c :: s) ++ t = escapeChar c ++ (escape s ++ t) := by
        rw [← List.append_assoc]
        rfl
      rw [hsplit]
      rcases escapeChar_cases c with ⟨name, hmem, hc⟩ | ⟨hc, hplain⟩
      · obtain ⟨r, hread, hr⟩ := Reference.exists_read?_written hmem (escape s ++ t)
        rw [hc, List.cons_append, unescape?_reference hread hr, ih, Option.map_map]
        rfl
      · have hamp : c ≠ '&' := by
          rintro rfl
          exact hc (by decide)
        rw [hplain, List.singleton_append, unescape?_cons_of_ne hamp, ih, Option.map_map]
        rfl

theorem unescape?_escape (s : Text) : unescape? (escape s) = some s := by
  have happend := unescape?_escape_append s []
  rwa [List.append_nil, unescape?, Option.map_some, List.append_nil] at happend

/-- What is written for a character has no other ampersand than the one that it may begin with. -/
theorem written_of_escapeChar_eq {c : Char} {before after : Text} (h : escapeChar c = before ++ '&' :: after) :
    before = [] ∧ (c, after) ∈ writtenReferences := by
  rcases escapeChar_cases c with ⟨name, hmem, hc⟩ | ⟨hc, hplain⟩
  · rw [hc] at h
    cases before with
    | nil =>
        rw [List.nil_append, List.cons.injEq] at h
        exact ⟨rfl, h.2 ▸ hmem⟩
    | cons b before =>
        rw [List.cons_append, List.cons.injEq] at h
        have hnone : ∀ written ∈ writtenReferences, '&' ∉ written.2 := by decide
        exact absurd (h.2 ▸ List.mem_append_right before List.mem_cons_self) (hnone _ hmem)
  · have hamp : '&' ∈ [c] := hplain ▸ h ▸ List.mem_append_right before List.mem_cons_self
    obtain rfl := List.mem_singleton.1 hamp
    exact absurd (by decide) hc

/-- **An ampersand in an escaped text begins a reference** that was written. -/
theorem exists_written_prefix {s before after : Text} (h : escape s = before ++ '&' :: after) :
    ∃ name ∈ writtenReferences.map Prod.snd, name <+: after := by
  induction s generalizing before with
  | nil => simp at h
  | cons c s ih =>
      have hsplit : escapeChar c ++ escape s = before ++ '&' :: after := h
      -- The ampersand is in the rest, or in what is written for the first character.
      rcases List.append_eq_append_iff.1 hsplit with ⟨middle, -, hrest⟩ | ⟨middle, hfirst, hrest⟩
      · exact ih hrest
      · cases middle with
        | nil => exact @ih [] hrest.symm
        | cons d middle =>
            rw [List.cons_append, List.cons.injEq] at hrest
            obtain ⟨rfl, rfl⟩ := hrest
            have hmem := (written_of_escapeChar_eq hfirst).2
            exact ⟨middle, List.mem_map_of_mem hmem, List.prefix_append middle _⟩

end Html

namespace Standard

theorem escapeOnce_of_unescape? {s t : Text} (h : Html.unescape? s = some t) :
    escapeOnce (.text s) = .ok (.text (Html.escape t)) := by
  rw [escapeOnce, h]

theorem escapeOnce_of_unescape?_eq_none {s : Text} (h : Html.unescape? s = none) :
    escapeOnce (.text s) = .error (.fault .tooManyDigits) := by
  rw [escapeOnce, h]

/-- What is escaped is not escaped again. -/
theorem escapeOnce_escape (s : Text) : escapeOnce (.text (Html.escape s)) = .ok (.text (Html.escape s)) :=
  escapeOnce_of_unescape? (Html.unescape?_escape s)

end Standard

namespace Registry

theorem invoke_escape_once (now : Moment) (almanac : Almanac) (v : Value) :
    (standard now almanac).invoke "escape_once".toList v [] = Standard.escapeOnce v := rfl

/-- **Escaping is undone by resolving, and `escape_once` escapes once.**  The escaped text is made by one replacement
after the other; it has no angle bracket and no quote, and every ampersand in it begins a reference that was written.
Resolved, it is the text that was escaped.  So `escape_once` leaves it as it is.  Of a text in which no decimal
reference has too many digits, `escape_once` makes one that it leaves as it is and that means the same when it is
resolved. -/
theorem escape_round_trip (now : Moment) (almanac : Almanac) (s : Text) :
    (∃ e, (standard now almanac).invoke "escape".toList (.text s) [] = .ok (.text e) ∧
      e = Html.referenced Html.writtenReferences s ∧
      (∀ c ∈ e, c ∉ ['<', '>', '"', '\'']) ∧
      (∀ before after, e = before ++ '&' :: after →
        ∃ name ∈ ["amp;".toList, "lt;".toList, "gt;".toList, "quot;".toList, "#x27;".toList], name <+: after) ∧
      Html.unescape? e = some s ∧
      (standard now almanac).invoke "escape_once".toList (.text e) [] = .ok (.text e)) ∧
    (¬ Html.HasLongReference s →
      ∃ r t, (standard now almanac).invoke "escape_once".toList (.text s) [] = .ok (.text r) ∧
        (standard now almanac).invoke "escape_once".toList (.text r) [] = .ok (.text r) ∧
        Html.unescape? s = some t ∧ Html.unescape? r = some t) := by
  simp only [invoke_escape_once]
  constructor
  · refine ⟨Html.escape s, rfl, Html.escape_eq_referenced s, ?_, fun _ _ => Html.exists_written_prefix,
      Html.unescape?_escape s, Standard.escapeOnce_escape s⟩
    intro c hc
    have hsafe := Html.safe_escape s c hc
    simpa [Html.isUnsafe, and_assoc] using hsafe
  · intro hshort
    rw [← Html.unescape?_eq_none_iff] at hshort
    obtain ⟨t, ht⟩ := Option.ne_none_iff_exists'.1 hshort
    exact ⟨Html.escape t, t, Standard.escapeOnce_of_unescape? ht, Standard.escapeOnce_escape t, ht,
      Html.unescape?_escape t⟩

/-- A reference among characters that are no reference. -/
theorem escape_round_trip_reference :
    ¬ Html.HasLongReference "a&lt;b & <c>".toList ∧
      ∃ r t, (standard ⟨2024, 2, 29, 0, 0, 0, 0, none⟩).invoke "escape_once".toList (.text "a&lt;b & <c>".toList) [] =
          .ok (.text r) ∧
        (standard ⟨2024, 2, 29, 0, 0, 0, 0, none⟩).invoke "escape_once".toList (.text r) [] = .ok (.text r) ∧
        Html.unescape? "a&lt;b & <c>".toList = some t ∧ Html.unescape? r = some t := by
  have hshort : ¬ Html.HasLongReference "a&lt;b & <c>".toList := by
    rintro ⟨before, after, h, digits, rest, rfl, -, hlong⟩
    have hlength := congrArg List.length h
    simp only [List.length_append, List.length_cons] at hlength
    have hmax : Numeral.maxDigits = 4300 := rfl
    rw [hmax] at hlong
    have htext : "a&lt;b & <c>".toList.length = 12 := rfl
    omega
  exact ⟨hshort, (escape_round_trip ⟨2024, 2, 29, 0, 0, 0, 0, none⟩ .standard "a&lt;b & <c>".toList).2 hshort⟩

/-- **A text that `escape_once` fails for**: a decimal reference of more digits than are read as a number. -/
theorem escape_once_long_reference :
    let s : Text := '&' :: '#' :: (List.replicate 4301 '1' ++ [';'])
    (standard ⟨2024, 2, 29, 0, 0, 0, 0, none⟩).invoke "escape_once".toList (.text s) [] =
        .error (.fault .tooManyDigits) ∧
      Html.unescape? s = none ∧
      ¬ ∃ r t, (standard ⟨2024, 2, 29, 0, 0, 0, 0, none⟩).invoke "escape_once".toList (.text s) [] = .ok (.text r) ∧
        (standard ⟨2024, 2, 29, 0, 0, 0, 0, none⟩).invoke "escape_once".toList (.text r) [] = .ok (.text r) ∧
        Html.unescape? s = some t ∧ Html.unescape? r = some t := by
  intro s
  have hlong : Html.HasLongReference s := by
    refine ⟨[], '#' :: (List.replicate 4301 '1' ++ [';']), rfl, List.replicate 4301 '1', [';'], rfl, ?_, ?_⟩
    · intro c hc
      rw [List.eq_of_mem_replicate hc]
      decide
    · rw [List.length_replicate]
      decide
  have hnone := Html.unescape?_eq_none_iff.2 hlong
  refine ⟨Standard.escapeOnce_of_unescape?_eq_none hnone, hnone, ?_⟩
  rintro ⟨r, t, -, -, ht, -⟩
  exact Option.some_ne_none t (ht.symm.trans hnone)

end Registry
end Liquid
