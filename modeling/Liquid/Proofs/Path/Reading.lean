import Liquid.Proofs.Outcome
import Liquid.Proofs.Path.Step

/-!
# Reading written paths

A root and steps from it are read into a selector for each step, one step inside the other from the left, unless one of
the steps is a name that the notation of paths does not have, or a number with too many digits; then the path is
refused.

## Main definitions

* `Path.Step.selector?` — what a step selects by.
* `Path.resume` — the reading of the rest of a path; `Path.Reads` — the states in which steps leave it.

## Main statements

* `Path.Reads.step` — one more step is read.
* `Path.resume_eq_error` — a step without a selector ends the reading.
* `Path.parse?_steps`, `Path.parse?_steps_eq_error` — the path that a root and steps are read into.
-/

namespace Liquid

namespace Path

/-- What a step selects by; nothing if it cannot be read. -/
def Step.selector? : Step → Option Path
  | name t => if isPlainName t = true then some (.fields [t]) else none
  | index t => (Numeral.integer? t).map fun n => .index [n]
  | key t => some (.fields [t])


/-! ## Characters -/

section Characters

variable {c : Char}

theorem isDecimal_of_isDigit (h : c.isDigit = true) : Text.isDecimal c = true := by
  have hrange : '0' ≤ c ∧ c ≤ '9' := by simpa [Char.isDigit, Char.le_def] using h
  simp [Text.isDecimal, Text.decimalValue?, hrange]

theorem toNat_of_isNameStart (h : Symbol.isNameStart c = true) : 64 ≤ c.toNat ∧ c.toNat < 128 := by
  simp only [Symbol.isNameStart, Bool.or_eq_true, beq_iff_eq] at h
  rcases h with (h | rfl) | rfl
  · have := Text.toNat_of_isAlpha h
    omega
  · decide
  · decide

theorem isNameStart_of_isDigit (h : c.isDigit = true) : Symbol.isNameStart c = false := by
  have hdigit := Text.toNat_of_isDigit h
  cases hstart : Symbol.isNameStart c with
  | false => rfl
  | true =>
      have := toNat_of_isNameStart hstart
      omega

theorem toNat_of_isNamePart (h : Symbol.isNamePart c = true) : c.toNat < 128 := by
  simp only [Symbol.isNamePart, Bool.or_eq_true, beq_iff_eq] at h
  rcases h with (h | h) | rfl
  · exact (toNat_of_isNameStart h).2
  · have := Text.toNat_of_isDigit h
    omega
  · decide

theorem isNameStart_of_identifierStart (h : Text.isIdentifierStart c = true) (hascii : c.toNat < 128) :
    Symbol.isNameStart c = true := by
  rw [Text.isIdentifierStart, if_pos hascii] at h
  rw [Symbol.isNameStart, h, Bool.true_or]

theorem isNamePart_of_identifierPart (h : Text.isIdentifierPart c = true) (hascii : c.toNat < 128) :
    Symbol.isNamePart c = true := by
  rw [Text.isIdentifierPart, Bool.or_eq_true, if_pos hascii] at h
  rcases h with h | h
  · simp [Symbol.isNamePart, isNameStart_of_identifierStart h hascii]
  · simp [Symbol.isNamePart, h]

theorem ofChar?_eq_none (h : 128 ≤ c.toNat) : Symbol.ofChar? c = none := by
  unfold Symbol.ofChar?
  split <;> first | rfl | exact absurd h (by decide)

/-- A character behind the ASCII digits and outside the digits of all scripts is no decimal digit. -/
theorem isDecimal_eq_false (hnine : 57 < c.toNat)
    (h : ∀ low ∈ Text.decimalZeros, c.toNat < low ∨ low + 10 ≤ c.toNat) : Text.isDecimal c = false := by
  have hascii : ¬ c ≤ '9' := by
    intro hle
    have : c.toNat ≤ 57 := hle
    omega
  have hnone : (Text.decimalZeros.find? fun low => low ≤ c.toNat ∧ c.toNat < low + 10) = none := by
    rw [List.find?_eq_none]
    intro low hlow
    have := h low hlow
    simp only [Bool.decide_and, Bool.and_eq_true, decide_eq_true_eq]
    omega
  rw [Text.isDecimal, Text.decimalValue?, if_neg (by simp [hascii]), hnone]
  rfl

theorem isDecimal_of_isNameStart (h : Symbol.isNameStart c = true) : Text.isDecimal c = false := by
  have hrange := toNat_of_isNameStart h
  have hzeros : ∀ low ∈ Text.decimalZeros, low + 10 ≤ 64 ∨ 128 ≤ low := by decide
  refine isDecimal_eq_false (by omega) ?_
  intro low hlow
  have := hzeros low hlow
  omega

/-- The characters that begin identifiers and the decimal digits are in different ranges. -/
theorem identifierStarts_apart : (Text.identifierStarts.all fun range => Text.decimalZeros.all fun low =>
    Nat.blt range.2 low || Nat.ble (low + 10) range.1) = true := by
  decide +kernel

/-- No decimal digit outside ASCII begins an identifier. -/
theorem isDecimal_of_identifierStart (h : Text.isIdentifierStart c = true) (hc : 128 ≤ c.toNat) :
    Text.isDecimal c = false := by
  rw [Text.isIdentifierStart, if_neg (by omega), Text.CharSet.contains_eq_true_iff] at h
  obtain ⟨range, hrange, hfirst, hlast⟩ := h
  refine isDecimal_eq_false (by omega) ?_
  intro low hlow
  have hapart := List.all_eq_true.1 (List.all_eq_true.1 identifierStarts_apart range hrange) low hlow
  simp only [Bool.or_eq_true, Nat.blt_eq, Nat.ble_eq] at hapart
  omega

end Characters

/-! ## Symbols -/

theorem Stops.isNamePart {rest : Text} (h : Stops rest) : ∀ c ∈ rest.head?, Symbol.isNamePart c = false := by
  intro c hc
  rcases h c hc with rfl | rfl <;> decide

theorem ofName_cases (t : Text) : (∃ o, Symbol.ofName t = .operator o) ∨
    (Symbol.ofName t = .name t ∧ t ≠ "where".toList ∧ t ≠ "wherenot".toList) := by
  unfold Symbol.ofName
  split
  · exact .inl ⟨_, rfl⟩
  · split
    · exact .inl ⟨_, rfl⟩
    · next hwhere hwherenot => exact .inr ⟨rfl, hwhere, hwherenot⟩

theorem plainName_parts {c : Char} {t : Text} (h : Text.isIdentifier (c :: t) = true)
    (hplain : isPlainName (c :: t) = true) :
    Symbol.isNameStart c = true ∧ (∀ d ∈ t, Symbol.isNamePart d = true) ∧ Symbol.ofName (c :: t) = .name (c :: t) := by
  simp only [Text.isIdentifier, Bool.and_eq_true, List.all_eq_true] at h
  simp only [isPlainName, Bool.and_eq_true, bne_iff_ne, List.all_eq_true, List.mem_cons, decide_eq_true_eq] at hplain
  obtain ⟨⟨hascii, hwhere⟩, hwherenot⟩ := hplain
  refine ⟨isNameStart_of_identifierStart h.1 (hascii c (.inl rfl)), ?_, ?_⟩
  · intro d hd
    exact isNamePart_of_identifierPart (h.2 d hd) (hascii d (.inr hd))
  · rw [Symbol.ofName, if_neg hwhere, if_neg hwherenot]

namespace Symbol

variable {c : Char} {t rest after : Text} {s : Symbol}

theorem not_gap (hc : 33 ≤ c.toNat) : ¬ (c = ' ' || c = '\t' || c = '\n') = true := by
  simp only [Bool.or_eq_true, decide_eq_true_eq]
  rintro ((rfl | rfl) | rfl) <;> exact absurd hc (by decide)

theorem scan?_cons (hc : 33 ≤ c.toNat) (h : next? c rest = .ok (s, after)) :
    scan? (c :: rest) = (scan? after).map (s :: ·) := by
  rw [scan?, if_neg (not_gap hc)]
  split
  · next he => simp [h] at he
  · next he =>
      simp only [h, Except.ok.injEq, Prod.mk.injEq] at he
      obtain ⟨rfl, rfl⟩ := he
      rfl

theorem scan?_cons_eq_error {e : ReadError} (hc : 33 ≤ c.toNat) (h : next? c rest = .error e) :
    scan? (c :: rest) = .error e := by
  rw [scan?, if_neg (not_gap hc)]
  split
  · next he =>
      rw [h, Except.error.injEq] at he
      rw [he]
  · next he => simp [h] at he

/-- A character that is a symbol is read by itself, unless it is one of two points. -/
theorem scan?_single (h : ofChar? c = some s) (hdot : c = '.' → rest.head? ≠ some '.') :
    scan? (c :: rest) = (scan? rest).map (s :: ·) := by
  have hc : isNameStart c = false ∧ Text.isDecimal c = false ∧ 33 ≤ c.toNat ∧ c ≠ '-' ∧ c ≠ '\'' ∧ c ≠ '"' ∧
      c ≠ '`' := by
    unfold ofChar? at h
    split at h <;> first | decide | simp at h
  obtain ⟨hstart, hdecimal, hlow, hminus, hsingle, hdouble, hback⟩ := hc
  have htwo : ¬ (c = '.' ∧ rest.head? = some '.') := fun hboth => hdot hboth.1 hboth.2
  refine scan?_cons hlow ?_
  simp [next?, hstart, hdecimal, hminus, hsingle, hdouble, hback, htwo, h]

theorem scan?_openBracket : scan? ('[' :: rest) = (scan? rest).map (.openBracket :: ·) :=
  scan?_single rfl fun he => absurd he (by decide)

theorem scan?_closeBracket : scan? (']' :: rest) = (scan? rest).map (.closeBracket :: ·) :=
  scan?_single rfl fun he => absurd he (by decide)

theorem takeWhile_append_stop {p : Char → Bool} (ht : ∀ d ∈ t, p d = true) (hrest : ∀ d ∈ rest.head?, p d = false) :
    (t ++ rest).takeWhile p = t ∧ (t ++ rest).dropWhile p = rest := by
  rw [List.takeWhile_append_of_pos ht, List.dropWhile_append_of_pos ht]
  cases rest with
  | nil => simp
  | cons d rest =>
      have hd : p d = false := hrest d rfl
      simp [hd]

/-- A name is read up to the first character that cannot continue it. -/
theorem scan?_name (hc : isNameStart c = true) (ht : ∀ d ∈ t, isNamePart d = true)
    (hrest : ∀ d ∈ rest.head?, isNamePart d = false) :
    scan? (c :: (t ++ rest)) = (scan? rest).map (ofName (c :: t) :: ·) := by
  have hlow := (toNat_of_isNameStart hc).1
  obtain ⟨htake, hdrop⟩ := takeWhile_append_stop ht hrest
  refine scan?_cons (by omega) ?_
  rw [next?, if_pos hc, htake, hdrop]

theorem quoted?_append {quote : Char} (hquote : quote ∉ t) (hescape : '\\' ∉ t) :
    quoted? quote (t ++ quote :: rest) = some (t, rest) := by
  induction t with
  | nil =>
      rw [List.nil_append, quoted?.eq_def]
      simp
  | cons d t ih =>
      simp only [List.mem_cons, not_or] at hquote hescape
      rw [List.cons_append, quoted?.eq_def]
      simp [Ne.symm hquote.1, Ne.symm hescape.1, ih hquote.2 hescape.2]

/-- A quoted key is read as it stands. -/
theorem scan?_quoted (hquote : '\'' ∉ t) (hescape : '\\' ∉ t) :
    scan? ('\'' :: (t ++ '\'' :: rest)) = (scan? rest).map (.name t :: ·) := by
  refine scan?_cons (by decide) ?_
  have hstart : isNameStart '\'' = false := by decide
  have hdecimal : Text.isDecimal '\'' = false := by decide
  simp [next?, hstart, hdecimal, quoted?_append hquote hescape]

theorem next?_number {n : Int} (hc : isNameStart c = false)
    (hfirst : (Text.isDecimal c || (c = '-' && rest.head?.any Text.isDecimal)) = true)
    (hn : Numeral.integer? (c :: (digits rest).1) = some n) : next? c rest = .ok (.number n, (digits rest).2) := by
  rw [next?, if_neg (by simp [hc]), if_pos hfirst]
  simp only [hn]

theorem next?_overlong (hc : isNameStart c = false)
    (hfirst : (Text.isDecimal c || (c = '-' && rest.head?.any Text.isDecimal)) = true)
    (hn : Numeral.integer? (c :: (digits rest).1) = none) : next? c rest = .error .tooManyDigits := by
  rw [next?, if_neg (by simp [hc]), if_pos hfirst]
  simp only [hn]

/-- A numeral before a closing bracket begins as numbers do, and its digits end at the bracket. -/
theorem numeral_begins (h : isNumeral (c :: t) = true) (rest : Text) : 33 ≤ c.toNat ∧ isNameStart c = false ∧
    (Text.isDecimal c || (c = '-' && (t ++ ']' :: rest).head?.any Text.isDecimal)) = true ∧
    digits (t ++ ']' :: rest) = (t, ']' :: rest) := by
  have hclose : ∀ d ∈ (']' :: rest).head?, Text.isDecimal d = false := by
    intro d hd
    obtain rfl : ']' = d := by simpa using hd
    decide
  rw [isNumeral] at h
  by_cases hminus : c = '-'
  · subst hminus
    rw [if_pos rfl, Bool.and_eq_true, List.all_eq_true] at h
    obtain ⟨hne, hdigits⟩ := h
    obtain ⟨htake, hdrop⟩ := takeWhile_append_stop (fun d hd => isDecimal_of_isDigit (hdigits d hd)) hclose
    cases t with
    | nil => simp at hne
    | cons d t =>
        have hd : Text.isDecimal d = true := isDecimal_of_isDigit (hdigits d (by simp))
        refine ⟨by decide, by decide, by simp [hd], ?_⟩
        rw [digits, htake, hdrop]
  · rw [if_neg hminus, Bool.and_eq_true, List.all_eq_true] at h
    obtain ⟨hc, hdigits⟩ := h
    obtain ⟨htake, hdrop⟩ := takeWhile_append_stop (fun d hd => isDecimal_of_isDigit (hdigits d hd)) hclose
    have hlow := (Text.toNat_of_isDigit hc).1
    refine ⟨by omega, isNameStart_of_isDigit hc, by simp [isDecimal_of_isDigit hc], ?_⟩
    rw [digits, htake, hdrop]

/-- A number in brackets is three symbols. -/
theorem scan?_indexStep {n : Int} (h : isNumeral t = true) (hn : Numeral.integer? t = some n) :
    scan? ((Step.index t).text ++ rest) = (scan? rest).map ([.openBracket, .number n, .closeBracket] ++ ·) := by
  have htext : (Step.index t).text ++ rest = '[' :: (t ++ ']' :: rest) := by simp [Step.text]
  rw [htext]
  cases t with
  | nil => simp [isNumeral] at h
  | cons c t =>
      obtain ⟨hlow, hstart, hfirst, hdigits⟩ := numeral_begins h rest
      have hnext := @next?_number c _ n hstart hfirst (by rw [hdigits, hn])
      rw [hdigits] at hnext
      rw [scan?_openBracket, List.cons_append, scan?_cons hlow hnext, scan?_closeBracket]
      cases scan? rest <;> rfl

/-- A quoted key in brackets is three symbols. -/
theorem scan?_keyStep (hquote : '\'' ∉ t) (hescape : '\\' ∉ t) :
    scan? ((Step.key t).text ++ rest) = (scan? rest).map ([.openBracket, .name t, .closeBracket] ++ ·) := by
  have htext : (Step.key t).text ++ rest = '[' :: '\'' :: (t ++ '\'' :: ']' :: rest) := by simp [Step.text]
  rw [htext, scan?_openBracket, scan?_quoted hquote hescape, scan?_closeBracket]
  cases scan? rest <;> rfl

/-- A point and a name behind it, up to the first character that cannot continue it, are two symbols. -/
theorem scan?_nameStep (hc : isNameStart c = true) (ht : ∀ d ∈ t, isNamePart d = true)
    (hrest : ∀ d ∈ rest.head?, isNamePart d = false) :
    scan? ('.' :: c :: (t ++ rest)) = (scan? rest).map ([.operator .child, ofName (c :: t)] ++ ·) := by
  have hdot : c ≠ '.' := by
    rintro rfl
    exact absurd hc (by decide)
  rw [scan?_single rfl (by simp [hdot]), scan?_name hc ht hrest]
  cases scan? rest <;> rfl

/-- What stands outside ASCII and outside quotes is refused, or it is a number. -/
theorem scan?_beyondAscii (h : 128 ≤ c.toNat) : (∃ e, scan? (c :: rest) = .error e) ∨
    (Text.isDecimal c = true ∧ ∃ n after, scan? (c :: rest) = (scan? after).map (.number n :: ·)) := by
  have hstart : isNameStart c = false := by
    cases hname : isNameStart c with
    | false => rfl
    | true =>
        have := toNat_of_isNameStart hname
        omega
  have hne : ∀ d : Char, d.toNat < 128 → c ≠ d := by
    rintro d hd rfl
    omega
  by_cases hdecimal : Text.isDecimal c = true
  · cases hn : Numeral.integer? (c :: (digits rest).1) with
    | none => exact .inl ⟨_, scan?_cons_eq_error (by omega) (next?_overlong hstart (by simp [hdecimal]) hn)⟩
    | some n => exact .inr ⟨hdecimal, n, _, scan?_cons (by omega) (next?_number hstart (by simp [hdecimal]) hn)⟩
  · refine .inl ⟨.malformed, scan?_cons_eq_error (by omega) ?_⟩
    have hminus := hne '-' (by decide)
    have hsingle := hne '\'' (by decide)
    have hdouble := hne '"' (by decide)
    have hback := hne '`' (by decide)
    have hdot := hne '.' (by decide)
    simp [next?, hstart, hdecimal, hminus, hsingle, hdouble, hback, hdot, ofChar?_eq_none h]

/-- Behind a step there is no comma. -/
theorem head?_ne_comma_of_stops {symbols : List Symbol} (h : Stops rest) (hscan : scan? rest = .ok symbols) :
    symbols.head? ≠ some .comma := by
  have hcons : ∀ {s : Symbol} {after : Text}, scan? rest = (scan? after).map (s :: ·) → s ≠ .comma →
      symbols.head? ≠ some .comma := by
    intro s after hrest hs
    obtain ⟨others, -, rfl⟩ := Outcome.map_eq_ok_iff.1 (hrest.symm.trans hscan)
    simpa using hs
  cases rest with
  | nil =>
      rw [scan?, Except.ok.injEq] at hscan
      simp [← hscan]
  | cons c rest =>
      rcases h c rfl with rfl | rfl
      · by_cases hdot : rest.head? = some '.'
        · have hnext : next? '.' rest = .ok (.operator .descendants, rest.drop 1) := by
            have hstart : isNameStart '.' = false := by decide
            have hdecimal : Text.isDecimal '.' = false := by decide
            simp [next?, hstart, hdecimal, hdot]
          exact hcons (scan?_cons (by decide) hnext) (by simp)
        · exact hcons (scan?_single rfl fun _ => hdot) (by simp)
      · exact hcons scan?_openBracket (by simp)

end Symbol

/-! ## Operands and operators -/

theorem items?_cons {s : Symbol} {rest after : List Symbol} {i : Item} (h : item? s rest = some (i, after)) :
    items? (s :: rest) = (items? after).map (i :: ·) := by
  rw [items?]
  split
  · next he => simp [h] at he
  · next he =>
      simp only [h, Option.some.injEq, Prod.mk.injEq] at he
      obtain ⟨rfl, rfl⟩ := he
      rfl

theorem moreNames_eq {symbols : List Symbol} (h : symbols.head? ≠ some .comma) : moreNames symbols = ([], symbols) := by
  unfold moreNames
  split
  · simp at h
  · rfl

theorem items?_name {symbols : List Symbol} (t : Text) (h : symbols.head? ≠ some .comma) :
    items? (.name t :: symbols) = (items? symbols).map (.operand (.fields [t]) :: ·) := by
  refine items?_cons ?_
  rw [item?, moreNames_eq h]

theorem items?_operator (o : Operator) (symbols : List Symbol) :
    items? (.operator o :: symbols) = (items? symbols).map (.operator o :: ·) := items?_cons rfl

theorem items?_bracket {symbols after : List Symbol} {p : Path} (h : bracket? symbols = some (p, after)) :
    items? (.openBracket :: symbols) = (items? after).map (.bracket p :: ·) := by
  refine items?_cons ?_
  rw [item?, h]
  rfl

/-! ## Steps -/

/-- What reading makes of the rest of a text, with the operands that wait and the operand that was read last. -/
def resume (pending : Pending) (current : Path) (rest : Text) : Except ReadError Path := do
  let symbols ← Symbol.scan? rest
  match (items? symbols).bind (assemble? [] pending (some current)) with
  | some p => .ok p
  | none => .error .malformed

/-- The state of the reading when the path `p` has been read: `p` itself, or its last selector behind an operand that
waits for it. -/
inductive Reads : Pending → Path → Path → Prop
  | whole (p : Path) : Reads [] p p
  | member (left last : Path) : Reads [(left, .child)] last (.child left last)

namespace Reads

variable {pending : Pending} {current p : Path} {rest : Text}

theorem closeAll_eq (h : Reads pending current p) : closeAll pending current = p := by
  cases h <;> rfl

theorem close_eq (h : Reads pending current p) : close Operator.child.rank pending current = ([], p) := by
  cases h <;> rfl

theorem resume_nil (h : Reads pending current p) : resume pending current [] = .ok p := by
  rw [resume, Symbol.scan?]
  simp [bind, Except.bind, items?, assemble?, h.closeAll_eq]

theorem assemble?_name (h : Reads pending current p) (selector : Path) (items : List Item) :
    assemble? [] pending (some current) (.operator .child :: .operand selector :: items) =
      assemble? [] [(p, .child)] (some selector) items := by
  simp [assemble?, h.close_eq]

theorem assemble?_bracket (h : Reads pending current p) (selector : Path) (items : List Item) :
    assemble? [] pending (some current) (.bracket selector :: items) =
      assemble? [] [] (some (.child p selector)) items := by
  simp [assemble?, h.closeAll_eq]

end Reads

section Resume

variable {pending : Pending} {current : Path} {rest : Text}

theorem resume_of_scan? (front : List Symbol) (inner : List Item) {t : Text} {pending' : Pending} {current' : Path}
    (hscan : Symbol.scan? (t ++ rest) = (Symbol.scan? rest).map (front ++ ·))
    (hitems : ∀ symbols, Symbol.scan? rest = .ok symbols →
      items? (front ++ symbols) = (items? symbols).map (inner ++ ·))
    (hassemble : ∀ items, assemble? [] pending (some current) (inner ++ items) =
      assemble? [] pending' (some current') items) :
    resume pending current (t ++ rest) = resume pending' current' rest := by
  rw [resume, resume, hscan]
  cases hsymbols : Symbol.scan? rest with
  | error e => rfl
  | ok symbols =>
      simp only [Except.map, bind, Except.bind, hitems symbols hsymbols]
      cases items? symbols with
      | none => rfl
      | some items => simp [hassemble items]

theorem resume_of_scan?_error {t : Text} {e : ReadError} (h : Symbol.scan? t = .error e) :
    resume pending current t = .error e := by
  rw [resume, h]
  rfl

theorem resume_of_assemble?_none (front : List Symbol) (inner : List Item) {t : Text}
    (hscan : Symbol.scan? t = (Symbol.scan? rest).map (front ++ ·))
    (hitems : ∀ symbols, items? (front ++ symbols) = (items? symbols).map (inner ++ ·))
    (hassemble : ∀ items, assemble? [] pending (some current) (inner ++ items) = none) :
    ∃ e, resume pending current t = .error e := by
  rw [resume, hscan]
  cases Symbol.scan? rest with
  | error e => exact ⟨e, rfl⟩
  | ok symbols =>
      refine ⟨.malformed, ?_⟩
      simp only [Except.map, bind, Except.bind, hitems symbols]
      cases items? symbols with
      | none => rfl
      | some items => simp [hassemble items]

/-- **One more step is read** into one more selector. -/
theorem Reads.step {p selector : Path} {s : Step} (h : Reads pending current p) (hs : s.WellFormed)
    (hselector : s.selector? = some selector) (hrest : Stops rest) :
    ∃ pending' current', Reads pending' current' (.child p selector) ∧
      resume pending current (s.text ++ rest) = resume pending' current' rest := by
  cases s with
  | name t =>
      by_cases hplain : isPlainName t = true
      · simp only [Step.selector?, if_pos hplain, Option.some.injEq] at hselector
        subst hselector
        cases t with
        | nil => simp [Step.WellFormed] at hs
        | cons c t =>
            obtain ⟨hc, ht, hname⟩ := plainName_parts hs hplain
            have hscan := Symbol.scan?_nameStep hc ht hrest.isNamePart
            rw [hname] at hscan
            refine ⟨[(p, .child)], _, .member p _, ?_⟩
            refine resume_of_scan? _ [.operator .child, .operand (.fields [c :: t])] hscan ?_ ?_
            · intro symbols hsymbols
              have hcomma := Symbol.head?_ne_comma_of_stops hrest hsymbols
              rw [List.cons_append, items?_operator, List.singleton_append, items?_name _ hcomma]
              cases items? symbols <;> rfl
            · intro items
              exact h.assemble?_name _ _
      · simp [Step.selector?, hplain] at hselector
  | index t =>
      obtain ⟨n, hn, rfl⟩ := Option.map_eq_some_iff.1 hselector
      refine ⟨[], _, .whole _, resume_of_scan? _ [.bracket (.index [n])] (Symbol.scan?_indexStep hs hn) ?_ ?_⟩
      · intro symbols _
        exact items?_bracket rfl
      · intro items
        exact h.assemble?_bracket _ _
  | key t =>
      obtain ⟨hquote, hescape, -⟩ := hs
      simp only [Step.selector?, Option.some.injEq] at hselector
      subst hselector
      refine ⟨[], _, .whole _, resume_of_scan? _ [.bracket (.fields [t])] (Symbol.scan?_keyStep hquote hescape) ?_ ?_⟩
      · intro symbols _
        exact items?_bracket rfl
      · intro items
        exact h.assemble?_bracket _ _

theorem resume_index_eq_error {t : Text} (ht : isNumeral t = true) (hn : Numeral.integer? t = none) (rest : Text) :
    resume pending current ((Step.index t).text ++ rest) = .error .tooManyDigits := by
  cases t with
  | nil => simp [isNumeral] at ht
  | cons c t =>
      obtain ⟨hlow, hstart, hfirst, hdigits⟩ := Symbol.numeral_begins ht rest
      have hnext := @Symbol.next?_overlong c _ hstart hfirst (by rw [hdigits, hn])
      have htext : (Step.index (c :: t)).text ++ rest = '[' :: c :: (t ++ ']' :: rest) := by simp [Step.text]
      refine resume_of_scan?_error ?_
      rw [htext, Symbol.scan?_openBracket, Symbol.scan?_cons_eq_error hlow hnext]
      rfl

/-- A name that begins outside ASCII is refused. -/
theorem resume_start_eq_error {c : Char} {t : Text} (hc : Text.isIdentifierStart c = true) (hlow : 128 ≤ c.toNat) :
    ∃ e, resume pending current ('.' :: c :: t) = .error e := by
  have hdot : c ≠ '.' := by
    rintro rfl
    exact absurd hlow (by decide)
  rcases @Symbol.scan?_beyondAscii c t hlow with ⟨e, he⟩ | ⟨hdecimal, -⟩
  · refine ⟨e, resume_of_scan?_error ?_⟩
    rw [Symbol.scan?_single rfl (by simp [hdot]), he]
    rfl
  · simp [isDecimal_of_identifierStart hc hlow] at hdecimal

/-- A name that goes on outside ASCII is refused: what follows its beginning is no symbol, or another operand. -/
theorem resume_continuation_eq_error {c d : Char} {t : Text} (hc : Symbol.isNameStart c = true)
    (ht : ∀ x ∈ t, Symbol.isNamePart x = true) (hname : Symbol.ofName (c :: t) = .name (c :: t))
    (hd : Symbol.isNamePart d = false) (hlow : 128 ≤ d.toNat) :
    ∃ e, resume pending current ('.' :: c :: (t ++ d :: rest)) = .error e := by
  have hscan := @Symbol.scan?_nameStep c t (d :: rest) hc ht (by simpa using hd)
  rw [hname] at hscan
  rcases @Symbol.scan?_beyondAscii d rest hlow with ⟨e, he⟩ | ⟨-, n, after, hnumber⟩
  · refine ⟨e, resume_of_scan?_error ?_⟩
    rw [hscan, he]
    rfl
  · refine @resume_of_assemble?_none _ _ after [.operator .child, .name (c :: t), .number n]
      [.operator .child, .operand (.fields [c :: t]), .operand (.fields ((Text.ofInt n).map ([·])))] _ ?_ ?_ ?_
    · rw [hscan, hnumber]
      cases Symbol.scan? after <;> rfl
    · intro symbols
      have hnumeral : items? (.number n :: symbols) = _ := items?_cons rfl
      simp only [List.cons_append, List.nil_append]
      rw [items?_operator, items?_name _ (by simp), hnumeral]
      cases items? symbols <;> rfl
    · intro items
      simp [assemble?]

/-- A name that is an operator is refused. -/
theorem resume_operator_eq_error {c : Char} {t : Text} {o : Operator} (hc : Symbol.isNameStart c = true)
    (ht : ∀ x ∈ t, Symbol.isNamePart x = true) (ho : Symbol.ofName (c :: t) = .operator o)
    (hrest : ∀ x ∈ rest.head?, Symbol.isNamePart x = false) :
    ∃ e, resume pending current ('.' :: c :: (t ++ rest)) = .error e := by
  have hscan := Symbol.scan?_nameStep hc ht hrest
  rw [ho] at hscan
  refine resume_of_assemble?_none _ [.operator .child, .operator o] hscan ?_ ?_
  · intro symbols
    simp only [List.cons_append, List.nil_append]
    rw [items?_operator, items?_operator]
    cases items? symbols <;> rfl
  · intro items
    simp [assemble?]

/-- A name that is not plain is refused. -/
theorem resume_name_eq_error {c : Char} {t : Text} (hc : Text.isIdentifierStart c = true)
    (hparts : ∀ d ∈ t, Text.isIdentifierPart d = true) (hplain : ¬ isPlainName (c :: t) = true) (hrest : Stops rest) :
    ∃ e, resume pending current ('.' :: c :: (t ++ rest)) = .error e := by
  by_cases hascii : c.toNat < 128
  · -- The beginning of the name is one symbol; what is left of the name, if anything, begins outside ASCII.
    have hstart := isNameStart_of_identifierStart hc hascii
    have htake : ∀ x ∈ t.takeWhile Symbol.isNamePart, Symbol.isNamePart x = true :=
      List.all_eq_true.1 List.all_takeWhile
    have hsplit := @List.takeWhile_append_dropWhile _ Symbol.isNamePart t
    have hhead := List.head?_dropWhile_not Symbol.isNamePart t
    cases hleft : t.dropWhile Symbol.isNamePart with
    | nil =>
        rw [hleft, List.append_nil] at hsplit
        rw [hsplit] at htake
        rcases ofName_cases (c :: t) with ⟨o, ho⟩ | ⟨-, hwhere, hwherenot⟩
        · exact resume_operator_eq_error hstart htake ho hrest.isNamePart
        · refine absurd ?_ hplain
          simp only [isPlainName, Bool.and_eq_true, bne_iff_ne, List.all_eq_true, decide_eq_true_eq]
          refine ⟨⟨?_, hwhere⟩, hwherenot⟩
          intro x hx
          rcases List.mem_cons.1 hx with rfl | hx
          · exact hascii
          · exact toNat_of_isNamePart (htake x hx)
    | cons d left =>
        rw [hleft] at hhead hsplit
        have hd : Symbol.isNamePart d = false := by simpa using hhead
        have hlow : 128 ≤ d.toNat := by
          refine Nat.le_of_not_lt fun hsmall => ?_
          have hpart := isNamePart_of_identifierPart (hparts d (by rw [← hsplit]; simp)) hsmall
          simp [hpart] at hd
        rw [← hsplit, List.append_assoc, List.cons_append]
        rcases ofName_cases (c :: t.takeWhile Symbol.isNamePart) with ⟨o, ho⟩ | ⟨hname, -⟩
        · exact resume_operator_eq_error hstart htake ho (by simpa using hd)
        · exact resume_continuation_eq_error hstart htake hname hd hlow
  · exact resume_start_eq_error hc (by omega)

/-- **A step without a selector ends the reading**, whatever stands behind it. -/
theorem resume_eq_error {s : Step} (hs : s.WellFormed) (hselector : s.selector? = none) (hrest : Stops rest) :
    ∃ e, resume pending current (s.text ++ rest) = .error e := by
  cases s with
  | key t => simp [Step.selector?] at hselector
  | index t =>
      rw [Step.selector?, Option.map_eq_none_iff] at hselector
      exact ⟨_, resume_index_eq_error hs hselector rest⟩
  | name t =>
      have hplain : ¬ isPlainName t = true := by
        intro hplain
        simp [Step.selector?, hplain] at hselector
      cases t with
      | nil => simp [Step.WellFormed] at hs
      | cons c t =>
          simp only [Step.WellFormed, Text.isIdentifier, Bool.and_eq_true, List.all_eq_true] at hs
          exact resume_name_eq_error hs.1 hs.2 hplain hrest

end Resume

/-! ## Whole paths -/

/-- The path that begins at `p` and goes on by selectors, one after the other. -/
def along (p : Path) (selectors : List Path) : Path := selectors.foldl Path.child p

theorem parse?_root (rest : Text) : parse? ('$' :: rest) = resume [] .root rest := by
  rw [parse?, resume, Symbol.scan?_single rfl fun he => absurd he (by decide)]
  cases Symbol.scan? rest with
  | error e => rfl
  | ok symbols =>
      have hroot : items? (.root :: symbols) = _ := items?_cons rfl
      simp only [Except.map, bind, Except.bind, hroot]
      cases items? symbols with
      | none => rfl
      | some items => cases h : assemble? [] [] (some .root) items <;> simp [assemble?, h]

/-- **Steps are read** into their selectors, one inside the other from the left. -/
theorem Reads.steps {pending : Pending} {current p : Path} {steps : List Step} {selectors : List Path}
    (h : Reads pending current p) (hsteps : ∀ s ∈ steps, s.WellFormed)
    (hselectors : steps.mapM Step.selector? = some selectors) :
    resume pending current (Step.texts steps) = .ok (p.along selectors) := by
  -- The state changes with each step; that it is one of `Reads` is what the steps preserve.
  induction steps generalizing pending current p selectors with
  | nil =>
      obtain rfl : [] = selectors := by simpa using hselectors
      exact h.resume_nil
  | cons s steps ih =>
      rw [List.forall_mem_cons] at hsteps
      simp only [List.mapM_cons, Option.bind_eq_bind, Option.pure_def, Option.bind_eq_some_iff,
        Option.some.injEq] at hselectors
      obtain ⟨selector, hselector, others, hothers, rfl⟩ := hselectors
      obtain ⟨pending', current', h', hresume⟩ := h.step hsteps.1 hselector (Step.stops_texts steps)
      have hrest := ih h' hsteps.2 hothers
      rw [Step.texts_cons, hresume, hrest]
      rfl

/-- Steps of which one has no selector are refused. -/
theorem Reads.steps_eq_error {pending : Pending} {current p : Path} {steps : List Step}
    (h : Reads pending current p) (hsteps : ∀ s ∈ steps, s.WellFormed)
    (hselectors : steps.mapM Step.selector? = none) :
    ∃ e, resume pending current (Step.texts steps) = .error e := by
  induction steps generalizing pending current p with
  | nil => simp at hselectors
  | cons s steps ih =>
      rw [List.forall_mem_cons] at hsteps
      rw [Step.texts_cons]
      cases hselector : s.selector? with
      | none => exact resume_eq_error hsteps.1 hselector (Step.stops_texts steps)
      | some selector =>
          obtain ⟨pending', current', h', hresume⟩ := h.step hsteps.1 hselector (Step.stops_texts steps)
          rw [hresume]
          refine ih h' hsteps.2 ?_
          cases hothers : steps.mapM Step.selector? with
          | none => rfl
          | some others => simp [hselector, hothers] at hselectors

/-- **A path is read** into the selectors of its steps. -/
theorem parse?_steps {steps : List Step} {selectors : List Path} (hsteps : ∀ s ∈ steps, s.WellFormed)
    (hselectors : steps.mapM Step.selector? = some selectors) :
    parse? ('$' :: Step.texts steps) = .ok (Path.root.along selectors) := by
  rw [parse?_root]
  exact (Reads.whole _).steps hsteps hselectors

/-- A path of which one step has no selector is refused. -/
theorem parse?_steps_eq_error {steps : List Step} (hsteps : ∀ s ∈ steps, s.WellFormed)
    (hselectors : steps.mapM Step.selector? = none) : ∃ e, parse? ('$' :: Step.texts steps) = .error e := by
  rw [parse?_root]
  exact (Reads.whole _).steps_eq_error hsteps hselectors

end Path

end Liquid
