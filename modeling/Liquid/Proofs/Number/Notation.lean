import Liquid.Proofs.Blanks
import Liquid.Proofs.Number.Decimal

/-!
# How numbers are written

Digits may belong to any script, and single underscores may stand between them.  A whole number is written as digits,
perhaps with a sign before them.  A number in general is a sign and a magnitude: a word, for an infinity or for what is
no number, or digits, perhaps with a point among them and an exponent behind them.  This notation is laid down here as a
grammar, and what is read as a number is what the grammar generates.

## Main definitions

* `Numeral.Digits` — digits, and the numbers from zero to nine that they are.
* `Numeral.Spells` — the whole number that a text spells.
* `Numeral.IsNumber` — the texts that are numbers.

## Main statements

* `Numeral.integer?_eq_some_iff` — a whole number is read from a text that spells it.
* `Numeral.isSome_double?_iff` — a number is read from a text that is one.
* `Numeral.Spells.isNumber` — a whole number is a number.
* `Numeral.spells_ofInt` — a whole number in decimal.
-/

namespace Liquid

namespace Text

variable {c : Char} {d : Nat}

/-- No digit is among the blanks. -/
theorem decimalZeros_apart : (decimalZeros.all fun low =>
    [(0, 0x20), (0x85, 0xA0), (0x1680, 0x1680), (0x2000, 0x200A), (0x2028, 0x202F), (0x205F, 0x205F),
      (0x3000, 0x3000)].all fun gap => Nat.ble (low + 10) gap.1 || Nat.blt gap.2 low) = true := by
  decide +kernel

theorem isBlank_of_decimalValue? (h : decimalValue? c = some d) : isBlank c = false := by
  by_cases hascii : '0' ≤ c ∧ c ≤ '9'
  · exact isBlank_of_isDigit (by simpa [Char.isDigit, Char.le_def] using hascii)
  · rw [decimalValue?, if_neg hascii] at h
    obtain ⟨low, hlow, -⟩ := Option.map_eq_some_iff.1 h
    have hrange := List.find?_some hlow
    have hapart := List.all_eq_true.1 decimalZeros_apart low (List.mem_of_find?_eq_some hlow)
    simp only [Bool.decide_and, Bool.and_eq_true, decide_eq_true_eq] at hrange
    simp only [List.all_cons, List.all_nil, Bool.and_true, Bool.and_eq_true, Bool.or_eq_true, Nat.ble_eq,
      Nat.blt_eq] at hapart
    simp only [isBlank, Bool.or_eq_false_iff, Bool.and_eq_false_iff, decide_eq_false_iff_not, beq_eq_false_iff_ne]
    omega

theorem decimalValue?_underscore : decimalValue? '_' = none := by
  decide

end Text

namespace Numeral

variable {s t w f e m rest : Text} {c : Char} {d : Nat} {ds whole places : List Nat} {negative : Bool} {n : Int}

/-! ## The notation -/

/-- Decimal digits with single underscores between them, and what they are. -/
inductive Digits : Text → List Nat → Prop
  | single {c : Char} {d : Nat} (h : Text.decimalValue? c = some d) : Digits [c] [d]
  | digit {c : Char} {d : Nat} {t : Text} {ds : List Nat} (h : Text.decimalValue? c = some d) (ht : Digits t ds) :
      Digits (c :: t) (d :: ds)
  | underscore {c : Char} {d : Nat} {t : Text} {ds : List Nat} (h : Text.decimalValue? c = some d)
      (ht : Digits t ds) : Digits (c :: '_' :: t) (d :: ds)

/-- Digits, or nothing. -/
inductive Run : Text → List Nat → Prop
  | nothing : Run [] []
  | digits {t : Text} {ds : List Nat} (h : Digits t ds) : Run t ds

/-- A sign, or nothing; and whether it is a minus sign. -/
inductive Sign : Text → Bool → Prop
  | nothing : Sign [] false
  | plus : Sign ['+'] false
  | minus : Sign ['-'] true

/-- Digits, perhaps with a sign before them. -/
inductive SignedDigits : Text → Bool → List Nat → Prop
  | intro {s t : Text} {negative : Bool} {ds : List Nat} (hs : Sign s negative) (ht : Digits t ds) :
      SignedDigits (s ++ t) negative ds

/-- The whole number that a text spells, with no more digits than are read. -/
inductive Spells : Text → Int → Prop
  | intro {t : Text} {negative : Bool} {ds : List Nat} (h : SignedDigits t negative ds)
      (hlen : ds.length ≤ maxDigits) : Spells t (Binary64.signed negative (ofDigits ds))

/-- A point and the digits behind it, or nothing. -/
inductive Fraction : Text → List Nat → Prop
  | nothing : Fraction [] []
  | point {t : Text} {ds : List Nat} (h : Run t ds) : Fraction ('.' :: t) ds

/-- An exponent, or nothing. -/
inductive Exponent : Text → Prop
  | nothing : Exponent []
  | signed {c : Char} {t : Text} {negative : Bool} {ds : List Nat} (hc : c = 'e' ∨ c = 'E')
      (h : SignedDigits t negative ds) : Exponent (c :: t)

/-- The words that stand for magnitudes, in letters of either case. -/
def words : List Text := ["inf".toList, "infinity".toList, "nan".toList]

/-- A number without its sign: a word, or digits before or behind a point. -/
inductive Magnitude : Text → Prop
  | word {t : Text} (h : lowerAscii t ∈ words) : Magnitude t
  | decimal {w f e : Text} {whole places : List Nat} (hw : Run w whole) (hf : Fraction f places) (he : Exponent e)
      (hne : whole ≠ [] ∨ places ≠ []) : Magnitude (w ++ (f ++ e))

/-- A number. -/
inductive IsNumber : Text → Prop
  | intro {s m : Text} {negative : Bool} (hs : Sign s negative) (hm : Magnitude m) : IsNumber (s ++ m)

/-! ## Reading digits -/

theorem Digits.head (h : Digits t ds) : ∃ c d u, t = c :: u ∧ Text.decimalValue? c = some d := by
  cases h with
  | single h | digit h _ | underscore h _ => exact ⟨_, _, _, rfl, h⟩

theorem Digits.ne_nil (h : Digits t ds) : ds ≠ [] := by
  cases h <;> exact List.cons_ne_nil _ _

theorem digitRun_of_head (h : ∀ c ∈ t.head?, Text.decimalValue? c = none) : digitRun t = ([], t) := by
  match t with
  | [] => rfl
  | [c] => simp [digitRun, h c rfl]
  | c :: c' :: t => simp [digitRun, h c rfl]

/-- Behind a digit, what does not begin with an underscore is read as it is read by itself. -/
theorem digitRun_cons (h : Text.decimalValue? c = some d) (ht : ∀ c' ∈ t.head?, c' ≠ '_') :
    digitRun (c :: t) = (d :: (digitRun t).1, (digitRun t).2) := by
  cases t with
  | nil => simp [digitRun, h]
  | cons c' t => simp [digitRun, h, ht c' rfl]

/-- An underscore between digits is left out. -/
theorem digitRun_underscore {c' : Char} {d' : Nat} (h : Text.decimalValue? c = some d)
    (h' : Text.decimalValue? c' = some d') :
    digitRun (c :: '_' :: c' :: t) = (d :: (digitRun (c' :: t)).1, (digitRun (c' :: t)).2) := by
  simp [digitRun, h, h', Text.isDecimal]

/-- **Digits are read to their end**, if they are not continued. -/
theorem digitRun_append (h : Digits t ds) (hrest : ∀ c ∈ rest.head?, Text.decimalValue? c = none ∧ c ≠ '_') :
    digitRun (t ++ rest) = (ds, rest) := by
  induction h with
  | single h =>
      have hstop := digitRun_of_head fun c hc => (hrest c hc).1
      rw [List.singleton_append, digitRun_cons h fun c hc => (hrest c hc).2, hstop]
  | @digit c d t ds h ht ih =>
      obtain ⟨c', d', u, rfl, h'⟩ := ht.head
      have hne : c' ≠ '_' := by
        rintro rfl
        rw [Text.decimalValue?_underscore] at h'
        exact nomatch h'
      rw [List.cons_append, digitRun_cons h (by simpa using hne), ih]
  | @underscore c d t ds h ht ih =>
      obtain ⟨c', d', u, rfl, h'⟩ := ht.head
      have hread := digitRun_underscore (t := u ++ rest) h h'
      rw [← List.cons_append, ih] at hread
      exact hread

/-- An underscore that no digit follows is not read. -/
theorem digitRun_stray (h : Text.decimalValue? c = some d) (ht : ∀ c' ∈ t.head?, Text.decimalValue? c' = none) :
    digitRun (c :: '_' :: t) = ([d], '_' :: t) := by
  cases t with
  | nil => simp [digitRun, h]
  | cons c' t => simp [digitRun, h, Text.isDecimal, ht c' rfl]

/-- A text begins with a digit, or does not. -/
theorem head_cases (t : Text) :
    (∀ c ∈ t.head?, Text.decimalValue? c = none) ∨ ∃ c d u, t = c :: u ∧ Text.decimalValue? c = some d := by
  cases t with
  | nil => exact .inl nofun
  | cons c t =>
      cases h : Text.decimalValue? c with
      | none =>
          refine .inl fun c' hc => ?_
          obtain rfl : c = c' := Option.some.inj hc
          exact h
      | some d => exact .inr ⟨c, d, t, rfl, h⟩

/-- From a digit on, digits are read. -/
theorem digits_digitRun (h : Text.decimalValue? c = some d) (t : Text) :
    ∃ w, Digits w (digitRun (c :: t)).1 ∧ c :: t = w ++ (digitRun (c :: t)).2 := by
  induction hlen : t.length using Nat.strongRecOn generalizing c d t with
  | ind k ih =>
      subst hlen
      by_cases hscore : ∀ c' ∈ t.head?, c' ≠ '_'
      · rw [digitRun_cons h hscore]
        rcases head_cases t with hstop | ⟨c', d', u, rfl, h'⟩
        · rw [digitRun_of_head hstop]
          exact ⟨[c], .single h, rfl⟩
        · obtain ⟨w, hw, heq⟩ := ih u.length (Nat.lt_succ_self _) h' u rfl
          exact ⟨c :: w, .digit h hw, by rw [List.cons_append, ← heq]⟩
      · obtain ⟨c', hc', rfl⟩ : ∃ c' ∈ t.head?, c' = '_' := by simpa using hscore
        obtain ⟨t, rfl⟩ := List.head?_eq_some_iff.1 hc'
        rcases head_cases t with hstop | ⟨c', d', u, rfl, h'⟩
        · rw [digitRun_stray h hstop]
          exact ⟨[c], .single h, rfl⟩
        · obtain ⟨w, hw, heq⟩ := ih u.length (by simp only [List.length_cons]; omega) h' u rfl
          rw [digitRun_underscore h h']
          exact ⟨c :: '_' :: w, .underscore h hw, by rw [List.cons_append, List.cons_append, ← heq]⟩

/-- **What is read as digits are digits**, or nothing. -/
theorem run_digitRun (t : Text) : ∃ w, Run w (digitRun t).1 ∧ t = w ++ (digitRun t).2 := by
  rcases head_cases t with hstop | ⟨c, d, t, rfl, h⟩
  · rw [digitRun_of_head hstop]
    exact ⟨[], .nothing, rfl⟩
  · obtain ⟨w, hw, heq⟩ := digits_digitRun h t
    exact ⟨w, .digits hw, heq⟩

theorem Run.digits_of_ne_nil (h : Run t ds) (hne : ds ≠ []) : Digits t ds := by
  cases h with
  | nothing => exact absurd rfl hne
  | digits h => exact h

/-- Digits, or nothing, are read to their end, if they are not continued. -/
theorem Run.digitRun_append (h : Run t ds) (hrest : ∀ c ∈ rest.head?, Text.decimalValue? c = none ∧ c ≠ '_') :
    digitRun (t ++ rest) = (ds, rest) := by
  cases h with
  | nothing => exact digitRun_of_head fun c hc => (hrest c hc).1
  | digits h => exact Numeral.digitRun_append h hrest

/-- A whole text is read as digits if it is digits. -/
theorem digits_iff : Digits t ds ↔ digitRun t = (ds, []) ∧ ds ≠ [] := by
  constructor
  · intro h
    have hread : digitRun (t ++ []) = (ds, []) := digitRun_append h nofun
    rw [List.append_nil] at hread
    exact ⟨hread, h.ne_nil⟩
  · rintro ⟨hread, hne⟩
    obtain ⟨w, hw, heq⟩ := run_digitRun t
    rw [hread, List.append_nil] at heq
    rw [hread] at hw
    rw [heq]
    exact hw.digits_of_ne_nil hne

/-- Something is read off a whole text if the text is digits. -/
theorem match_digitRun_eq_some_iff {g : List Nat → Option Int} :
    (match digitRun t with
      | ([], _) => none
      | (ds, []) => g ds
      | _ => none) = some n ↔ ∃ ds, Digits t ds ∧ g ds = some n := by
  simp only [digits_iff]
  rcases digitRun t with ⟨ds, rest⟩
  cases ds <;> cases rest <;> simp [and_assoc]

/-! ## Reading signs -/

theorem exists_sign (t : Text) : ∃ s, Sign s (sign t).1 ∧ t = s ++ (sign t).2 := by
  unfold sign
  split
  · exact ⟨['-'], .minus, rfl⟩
  · exact ⟨['+'], .plus, rfl⟩
  · exact ⟨[], .nothing, rfl⟩

/-- A sign is read, if no other one follows it. -/
theorem sign_append (h : Sign s negative) (ht : ∀ c ∈ t.head?, c ≠ '-' ∧ c ≠ '+') : sign (s ++ t) = (negative, t) := by
  cases h with
  | plus | minus => rfl
  | nothing =>
      rw [List.nil_append]
      unfold sign
      split
      · exact absurd rfl (ht '-' rfl).1
      · exact absurd rfl (ht '+' rfl).2
      · rfl

theorem ne_sign_of_decimalValue? (h : Text.decimalValue? c = some d) : c ≠ '-' ∧ c ≠ '+' := by
  have hminus : Text.decimalValue? '-' = none := by decide
  have hplus : Text.decimalValue? '+' = none := by decide
  constructor
  · rintro rfl
    exact nomatch h.symm.trans hminus
  · rintro rfl
    exact nomatch h.symm.trans hplus

/-- Digits behind a sign are what stands behind the sign that is read. -/
theorem signedDigits_iff : SignedDigits t negative ds ↔ (sign t).1 = negative ∧ Digits (sign t).2 ds := by
  constructor
  · rintro ⟨hs, ht⟩
    obtain ⟨c, d, u, rfl, h⟩ := ht.head
    rw [sign_append hs]
    · exact ⟨rfl, ht⟩
    · intro c' hc
      obtain rfl : c = c' := Option.some.inj hc
      exact ne_sign_of_decimalValue? h
  · rintro ⟨rfl, ht⟩
    obtain ⟨s, hs, heq⟩ := exists_sign t
    have h := SignedDigits.intro hs ht
    rwa [← heq] at h

/-! ## Whole numbers -/

/-- **A whole number is read from a text that spells it**, and from no other text without blanks around it. -/
theorem integer?_eq_some_iff (ht : trim t = t) : integer? t = some n ↔ Spells t n := by
  rw [integer?, ht]
  refine match_digitRun_eq_some_iff.trans ?_
  constructor
  · rintro ⟨ds, hds, hvalue⟩
    split at hvalue
    · cases hvalue
    · next hlen =>
        obtain rfl := Option.some.inj hvalue
        exact .intro (signedDigits_iff.2 ⟨rfl, hds⟩) (Nat.not_lt.1 hlen)
  · rintro ⟨h, hlen⟩
    obtain ⟨rfl, hds⟩ := signedDigits_iff.1 h
    exact ⟨_, hds, if_neg (Nat.not_lt.2 hlen)⟩

/-! ## Numbers -/

theorem isSome_exponent?_iff : (exponent? e).isSome = true ↔ Exponent e := by
  rw [Option.isSome_iff_exists]
  cases e with
  | nil => exact iff_of_true ⟨0, rfl⟩ .nothing
  | cons c t =>
      simp only [exponent?]
      by_cases hc : c = 'e' ∨ c = 'E'
      · rw [if_pos (by simpa using hc)]
        constructor
        · rintro ⟨n, hn⟩
          obtain ⟨ds, hds, -⟩ := match_digitRun_eq_some_iff.1 hn
          exact .signed hc (signedDigits_iff.2 ⟨rfl, hds⟩)
        · rintro (_ | ⟨-, h⟩)
          obtain ⟨rfl, hds⟩ := signedDigits_iff.1 h
          exact ⟨_, match_digitRun_eq_some_iff.2 ⟨_, hds, rfl⟩⟩
      · rw [if_neg (by simpa using hc)]
        refine iff_of_false (by simp) ?_
        rintro (_ | ⟨hexponent, -⟩)
        exact hc hexponent

theorem exists_fraction (t : Text) : ∃ f, Fraction f (fraction t).1 ∧ t = f ++ (fraction t).2 := by
  unfold fraction
  split
  · next t =>
      obtain ⟨w, hw, heq⟩ := run_digitRun t
      exact ⟨'.' :: w, .point hw, by rw [List.cons_append, ← heq]⟩
  · exact ⟨[], .nothing, rfl⟩

/-- A character that continues neither digits nor a fraction. -/
def Ends (c : Char) : Prop := Text.decimalValue? c = none ∧ c ≠ '_' ∧ c ≠ '.'

theorem fraction_append (h : Fraction f ds) (hrest : ∀ c ∈ rest.head?, Ends c) :
    fraction (f ++ rest) = (ds, rest) := by
  cases h with
  | nothing =>
      rw [List.nil_append]
      unfold fraction
      split
      · exact absurd rfl (hrest '.' rfl).2.2
      · rfl
  | point h => exact h.digitRun_append fun c hc => ⟨(hrest c hc).1, (hrest c hc).2.1⟩

theorem Exponent.ends (h : Exponent e) : ∀ c ∈ e.head?, Ends c := by
  cases h with
  | nothing => exact nofun
  | signed hc _ =>
      intro c' hc'
      obtain rfl := Option.some.inj hc'
      rcases hc with rfl | rfl <;> exact ⟨by decide, by decide, by decide⟩

/-- Digits are not continued by a fraction and an exponent. -/
theorem stops_fraction (hf : Fraction f ds) (he : ∀ c ∈ rest.head?, Ends c) :
    ∀ c ∈ (f ++ rest).head?, Text.decimalValue? c = none ∧ c ≠ '_' := by
  cases hf with
  | nothing => exact fun c hc => ⟨(he c hc).1, (he c hc).2.1⟩
  | point _ =>
      intro c hc
      obtain rfl := Option.some.inj hc
      exact ⟨by decide, by decide⟩

/-- A magnitude is a word, or is read as digits, a fraction and an exponent. -/
theorem magnitude_iff {r : Text} (hwhole : digitRun m = (whole, r)) (hplaces : fraction r = (places, rest)) :
    Magnitude m ↔ lowerAscii m ∈ words ∨ (whole ≠ [] ∨ places ≠ []) ∧ Exponent rest := by
  constructor
  · rintro (h | ⟨hw, hf, he, hne⟩)
    · exact .inl h
    · rw [hw.digitRun_append (stops_fraction hf he.ends)] at hwhole
      obtain ⟨rfl, rfl⟩ := Prod.mk.inj hwhole
      rw [fraction_append hf he.ends] at hplaces
      obtain ⟨rfl, rfl⟩ := Prod.mk.inj hplaces
      exact .inr ⟨hne, he⟩
  · rintro (h | ⟨hne, he⟩)
    · exact .word h
    · obtain ⟨w, hw, hm⟩ := run_digitRun m
      obtain ⟨f, hf, hr⟩ := exists_fraction r
      rw [hwhole] at hw hm
      rw [hplaces] at hf hr
      rw [hm, hr]
      exact .decimal hw hf he hne

/-- A letter in either case is a letter. -/
theorem isAlpha_of_toLower (h : c.toLower.isAlpha = true) : c.isAlpha = true := by
  unfold Char.toLower at h
  split at h
  · next hupper =>
      have hcase : c.isUpper = true := decide_eq_true hupper
      exact (Bool.or_eq_true _ _).mpr (.inl hcase)
  · exact h

theorem words_letters : (words.all fun word => !word.isEmpty && word.all Char.isAlpha) = true := by
  decide

/-- A word has letters only, and at least one. -/
theorem letters_of_word (h : lowerAscii t ∈ words) : t ≠ [] ∧ ∀ c ∈ t, c.isAlpha = true := by
  have hword := List.all_eq_true.1 words_letters _ h
  rw [Bool.and_eq_true, List.all_eq_true] at hword
  refine ⟨?_, fun c hc => isAlpha_of_toLower (hword.2 _ (List.mem_map_of_mem hc))⟩
  rintro rfl
  exact Bool.false_ne_true hword.1

/-- No magnitude is empty or begins with a sign. -/
theorem Magnitude.head (h : Magnitude m) : m ≠ [] ∧ ∀ c ∈ m.head?, c ≠ '-' ∧ c ≠ '+' := by
  cases h with
  | word h =>
      obtain ⟨hne, hletters⟩ := letters_of_word h
      refine ⟨hne, fun c hc => ?_⟩
      have hc := hletters c (List.mem_of_mem_head? hc)
      constructor <;> (rintro rfl; exact absurd hc (by decide))
  | decimal hw hf he hne =>
      cases hw with
      | digits hw =>
          obtain ⟨c, d, u, rfl, h⟩ := hw.head
          refine ⟨List.cons_ne_nil _ _, fun c' hc => ?_⟩
          obtain rfl : c = c' := Option.some.inj hc
          exact ne_sign_of_decimalValue? h
      | nothing =>
          cases hf with
          | nothing => exact absurd rfl (hne.resolve_left fun h => h rfl)
          | point _ =>
              refine ⟨List.cons_ne_nil _ _, fun c hc => ?_⟩
              obtain rfl := Option.some.inj hc
              exact ⟨by decide, by decide⟩

theorem isNumber_iff : IsNumber t ↔ Magnitude (sign t).2 := by
  constructor
  · rintro ⟨hs, hm⟩
    rwa [sign_append hs hm.head.2]
  · intro hm
    obtain ⟨s, hs, ht⟩ := exists_sign t
    rw [ht]
    exact .intro hs hm

/-- **A number is read from a text that is one**, and from no other text without blanks around it. -/
theorem isSome_double?_iff (ht : trim t = t) : (double? t).isSome = true ↔ IsNumber t := by
  rw [isNumber_iff, double?, ht]
  rcases sign t with ⟨negative, m⟩
  rcases hwhole : digitRun m with ⟨whole, r⟩
  rcases hplaces : fraction r with ⟨places, rest⟩
  rw [magnitude_iff hwhole hplaces]
  simp only [hwhole, hplaces, words, List.mem_cons, List.not_mem_nil, or_false]
  split
  · next hword =>
      simp only [Bool.or_eq_true, decide_eq_true_eq] at hword
      exact iff_of_true rfl (.inl (hword.elim .inl fun h => .inr (.inl h)))
  · next hinfinite =>
      split
      · next hword => exact iff_of_true rfl (.inl (.inr (.inr hword)))
      · next hnan =>
          have hword : ¬ (lowerAscii m = "inf".toList ∨ lowerAscii m = "infinity".toList ∨
              lowerAscii m = "nan".toList) := by
            rw [← or_assoc]
            exact not_or.2 ⟨by simpa only [Bool.or_eq_true, decide_eq_true_eq] using hinfinite, hnan⟩
          rw [or_iff_right hword]
          split
          · next hempty =>
              rw [Bool.and_eq_true, List.isEmpty_iff, List.isEmpty_iff] at hempty
              exact iff_of_false Bool.false_ne_true fun h => h.1.elim (· hempty.1) (· hempty.2)
          · next hempty =>
              rw [Bool.and_eq_true, List.isEmpty_iff, List.isEmpty_iff, Classical.not_and_iff_not_or_not] at hempty
              rw [Option.isSome_map, isSome_exponent?_iff, and_iff_right hempty]

/-- A whole number is a number. -/
theorem Spells.isNumber (h : Spells t n) : IsNumber t := by
  obtain ⟨⟨hs, ht⟩, -⟩ := h
  have hm := Magnitude.decimal (.digits ht) .nothing .nothing (.inl ht.ne_nil)
  rw [List.append_nil, List.append_nil] at hm
  exact .intro hs hm

/-! ## The characters of numbers -/

theorem Digits.isBlank (h : Digits t ds) : ∀ c ∈ t, Text.isBlank c = false := by
  have hscore : Text.isBlank '_' = false := by decide
  induction h with
  | single h => exact List.forall_mem_singleton.2 (Text.isBlank_of_decimalValue? h)
  | digit h _ ih => exact List.forall_mem_cons.2 ⟨Text.isBlank_of_decimalValue? h, ih⟩
  | underscore h _ ih =>
      exact List.forall_mem_cons.2 ⟨Text.isBlank_of_decimalValue? h, List.forall_mem_cons.2 ⟨hscore, ih⟩⟩

theorem Run.isBlank (h : Run t ds) : ∀ c ∈ t, Text.isBlank c = false := by
  cases h with
  | nothing => exact List.forall_mem_nil _
  | digits h => exact h.isBlank

theorem Sign.isBlank (h : Sign t negative) : ∀ c ∈ t, Text.isBlank c = false := by
  cases h with
  | nothing => exact List.forall_mem_nil _
  | plus | minus => exact List.forall_mem_singleton.2 (by decide)

theorem SignedDigits.isBlank (h : SignedDigits t negative ds) : ∀ c ∈ t, Text.isBlank c = false := by
  obtain ⟨hs, ht⟩ := h
  exact List.forall_mem_append.2 ⟨hs.isBlank, ht.isBlank⟩

theorem Fraction.isBlank (h : Fraction t ds) : ∀ c ∈ t, Text.isBlank c = false := by
  cases h with
  | nothing => exact List.forall_mem_nil _
  | point h => exact List.forall_mem_cons.2 ⟨by decide, h.isBlank⟩

theorem Exponent.isBlank (h : Exponent t) : ∀ c ∈ t, Text.isBlank c = false := by
  cases h with
  | nothing => exact List.forall_mem_nil _
  | signed hc h =>
      refine List.forall_mem_cons.2 ⟨?_, h.isBlank⟩
      rcases hc with rfl | rfl <;> decide

theorem Magnitude.isBlank (h : Magnitude t) : ∀ c ∈ t, Text.isBlank c = false := by
  cases h with
  | word h =>
      intro c hc
      have halpha := (letters_of_word h).2 c hc
      have hstart : Text.isIdentifierStart c = true := by
        have hrange := Text.toNat_of_isAlpha halpha
        rw [Text.isIdentifierStart, if_pos (by omega), halpha, Bool.true_or]
      exact Text.isBlank_of_identifierPart (Text.isIdentifierPart_of_start hstart)
  | decimal hw hf he _ =>
      exact List.forall_mem_append.2 ⟨hw.isBlank, List.forall_mem_append.2 ⟨hf.isBlank, he.isBlank⟩⟩

/-- **No blank is in a number.** -/
theorem IsNumber.isBlank (h : IsNumber t) : ∀ c ∈ t, Text.isBlank c = false := by
  obtain ⟨hs, hm⟩ := h
  exact List.forall_mem_append.2 ⟨hs.isBlank, hm.isBlank⟩

theorem not_isNumber_nil : ¬ IsNumber [] := by
  intro h
  exact (isNumber_iff.1 h).head.1 rfl


/-! ## Numbers with blanks around them -/

theorem trim_strip (t : Text) : trim (Text.strip t) = Text.strip t :=
  trim_eq_self (Text.head?_strip t) (Text.getLast?_strip t)

/-- A whole number is read from what is left of a text that spells it between blanks. -/
theorem integer?_strip_eq_some_iff : integer? (Text.strip t) = some n ↔ Text.Padded (Spells · n) t := by
  rw [integer?_eq_some_iff (trim_strip t)]
  have hne : ¬ Spells [] n := fun h => not_isNumber_nil h.isNumber
  have hblank : ∀ t, Spells t n → ∀ c ∈ t, Text.isBlank c = false := fun _ h => h.isNumber.isBlank
  exact (Text.padded_iff hne hblank).symm

/-- A number is read from what is left of a text that is one between blanks. -/
theorem isSome_double?_strip_iff : (double? (Text.strip t)).isSome = true ↔ Text.Padded IsNumber t := by
  rw [isSome_double?_iff (trim_strip t)]
  exact (Text.padded_iff not_isNumber_nil fun _ h => h.isBlank).symm

/-- A whole number in decimal spells itself, if it has no more digits than are read. -/
theorem spells_ofInt (h : (Text.ofNat n.natAbs).length ≤ maxDigits) : Spells (Text.ofInt n) n := by
  have hblank : ∀ c ∈ Text.ofInt n, Text.isBlank c = false := fun _ => Text.isBlank_of_mem_ofInt
  have htrim : trim (Text.ofInt n) = Text.ofInt n := by
    rw [← Text.strip_of_forall hblank]
    exact trim_strip _
  exact (integer?_eq_some_iff htrim).1 (integer?_ofInt h)

end Numeral

end Liquid
