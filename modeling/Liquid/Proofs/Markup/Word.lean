import Liquid.Proofs.Markup.Scan

/-!
# Words

A word is a sequence of plain characters and bracket groups.  In a group, quoted texts and further groups stand as
wholes and every other character stands for itself.  The scan of a word sees one character at a time and keeps the
depth of the brackets; it takes exactly such a sequence.  Where it fails, a quote or a bracket is open to the end
of the text.

## Main definitions

* `Token.Inside` — what can stand between the brackets of a group.
* `Token.WordParts` — plain characters and bracket groups.
* `Token.Completes` — what leads the scan of a word from a state to the end of the word.
* `Token.Unclosed` — the text behind a bracket that is never closed.

## Main statements

* `Token.scanWord_eq_ok_iff` — the scan of a word takes what completes its state.
* `Token.scanWord_plain_eq_error` — where the scan of a word fails.
-/

namespace Liquid.Token

/-! ## Plain characters and groups -/

/-- What can stand between the brackets of a group: quoted texts, groups, and any other character. -/
inductive Inside : Text → Prop
  | nil : Inside []
  | character {c : Char} {t : Text} : isQuote c = false → c ≠ '[' → c ≠ ']' → Inside t → Inside (c :: t)
  | quoted {quote : Char} {body t : Text} : isQuote quote = true → quote ∉ body → Inside t →
      Inside (quote :: (body ++ quote :: t))
  | group {inner t : Text} : Inside inner → Inside t → Inside ('[' :: (inner ++ ']' :: t))

/-- Plain characters and bracket groups, one after the other. -/
inductive WordParts : Text → Prop
  | nil : WordParts []
  | character {c : Char} {t : Text} : endsWord c = false → c ≠ '[' → WordParts t → WordParts (c :: t)
  | group {inner t : Text} : Inside inner → WordParts t → WordParts ('[' :: (inner ++ ']' :: t))

/-- The text behind a bracket that no later one closes. -/
def Unclosed (t : Text) : Prop := ∀ inner after, Inside inner → t ≠ inner ++ ']' :: after

theorem endsWord_openBracket : endsWord '[' = false := by decide

theorem WordParts.head_endsWord {c : Char} {t : Text} (h : WordParts (c :: t)) : endsWord c = false := by
  cases h with
  | character hc _ _ => exact hc
  | group _ _ => exact endsWord_openBracket

theorem WordParts.of_forall {w : Text} (h : ∀ c ∈ w, endsWord c = false ∧ c ≠ '[') : WordParts w := by
  induction w with
  | nil => exact .nil
  | cons c w ih =>
      rw [List.forall_mem_cons] at h
      exact .character h.1.1 h.1.2 (ih h.2)

/-! ## The states of the scan -/

/-- The state of the scan of a word behind a character with the offset `pos` that does not end it. -/
def WordState.next (pos : Nat) : WordState → Char → WordState
  | .plain, c => if c = '[' then .bracket 0 pos else .plain
  | .bracket depth opened, c =>
    if isQuote c then .quoted c pos depth opened
    else if c = '[' then .bracket (depth + 1) opened
    else if c = ']' then
      match depth with
      | 0 => .plain
      | depth + 1 => .bracket depth opened
    else .bracket depth opened
  | .quoted quote start depth opened, c =>
    if c = quote then .bracket depth opened else .quoted quote start depth opened

/-- `Continues state c`: the character `c` is part of a word whose scan is in this state. -/
def Continues (state : WordState) (c : Char) : Prop := state = .plain → endsWord c = false

theorem continues_bracket (depth opened : Nat) (c : Char) : Continues (.bracket depth opened) c := nofun

theorem continues_quoted (quote : Char) (start depth opened : Nat) (c : Char) :
    Continues (.quoted quote start depth opened) c := nofun

theorem scanWord_cons {state : WordState} {c : Char} (pos : Nat) (rest : Text) (h : Continues state c) :
    scanWord pos state (c :: rest) = prepend c (scanWord (pos + 1) (state.next pos c) rest) := by
  cases state with
  | plain =>
      have hc : (Text.isBlank c || isDelimiter c) = false := h rfl
      simp [scanWord, WordState.next, hc]
  | bracket depth opened => cases depth <;> simp [scanWord, WordState.next]
  | quoted quote start depth opened => simp [scanWord, WordState.next]

/-- What leads the scan of a word from a state to the end of the word. -/
inductive Completes : WordState → Text → Prop
  | plain {w : Text} : WordParts w → Completes .plain w
  | outermost {opened : Nat} {inner w : Text} : Inside inner → WordParts w →
      Completes (.bracket 0 opened) (inner ++ ']' :: w)
  | nested {depth opened : Nat} {inner w : Text} : Inside inner → Completes (.bracket depth opened) w →
      Completes (.bracket (depth + 1) opened) (inner ++ ']' :: w)
  | quoted {quote : Char} {start depth opened : Nat} {body w : Text} : quote ∉ body →
      Completes (.bracket depth opened) w → Completes (.quoted quote start depth opened) (body ++ quote :: w)

namespace Completes

variable {state : WordState} {depth opened : Nat} {w : Text}

theorem wordParts (h : Completes .plain w) : WordParts w := by
  cases h with
  | plain h => exact h

/-- What may stand in a group before other contents may stand before its end. -/
theorem extend (front : Text) (h : Completes (.bracket depth opened) w)
    (hfront : ∀ inner, Inside inner → Inside (front ++ inner)) : Completes (.bracket depth opened) (front ++ w) := by
  cases h with
  | outermost hinner hw =>
      rw [← List.append_assoc]
      exact .outermost (hfront _ hinner) hw
  | nested hinner hw =>
      rw [← List.append_assoc]
      exact .nested (hfront _ hinner) hw

theorem step_bracket {pos : Nat} {c : Char} (h : Completes ((WordState.bracket depth opened).next pos c) w) :
    Completes (.bracket depth opened) (c :: w) := by
  simp only [WordState.next] at h
  split at h
  · next hq =>
      cases h with
      | @quoted _ _ _ _ body w hbody hw =>
          have hextended := hw.extend (c :: (body ++ [c])) fun inner hinner => by
            simpa using Inside.quoted hq hbody hinner
          simpa using hextended
  · next hq =>
      split at h
      · next hc =>
          subst hc
          cases h with
          | @nested _ _ inner w hinner hw =>
              have hextended := hw.extend ('[' :: (inner ++ [']'])) fun inner' hinner' => by
                simpa using Inside.group hinner hinner'
              simpa using hextended
      · next hopen =>
          split at h
          · next hc =>
              subst hc
              cases depth with
              | zero => exact .outermost .nil h.wordParts
              | succ depth => exact .nested .nil h
          · next hclose =>
              exact h.extend [c] fun inner hinner =>
                .character (by simpa using hq) hopen hclose hinner

/-- A character that leads to a state goes before what completes it. -/
theorem step {pos : Nat} {c : Char} (hc : Continues state c) (h : Completes (state.next pos c) w) :
    Completes state (c :: w) := by
  cases state with
  | plain =>
      simp only [WordState.next] at h
      split at h
      · next hopen =>
          subst hopen
          cases h with
          | outermost hinner hw => exact .plain (.group hinner hw)
      · next hopen => exact .plain (.character (hc rfl) hopen h.wordParts)
  | bracket depth opened => exact h.step_bracket
  | quoted quote start depth opened =>
      simp only [WordState.next] at h
      split at h
      · next hquote =>
          subst hquote
          have hw : Completes (.quoted c start depth opened) ([] ++ c :: w) := .quoted List.not_mem_nil h
          exact hw
      · next hquote =>
          cases h with
          | @quoted _ _ _ _ body w hbody hw =>
              have hlonger : quote ∉ c :: body := by
                simp only [List.mem_cons, not_or]
                exact ⟨Ne.symm hquote, hbody⟩
              exact .quoted hlonger hw

theorem replicate_closing (depth opened : Nat) :
    Completes (.bracket depth opened) (List.replicate (depth + 1) ']') := by
  induction depth with
  | zero => exact .outermost .nil .nil
  | succ depth ih => exact .nested .nil ih

end Completes

/-! ## What the scan takes -/

/-- A text cut in two, with more text in front of the first part. -/
def prefixed (front : Text) (parts : Except ScanFailure (Text × Text)) : Except ScanFailure (Text × Text) :=
  parts.map fun p => (front ++ p.1, p.2)

theorem prefixed_nil (parts : Except ScanFailure (Text × Text)) : prefixed [] parts = parts := by
  cases parts <;> rfl

theorem prepend_prefixed (c : Char) (front : Text) (parts : Except ScanFailure (Text × Text)) :
    prepend c (prefixed front parts) = prefixed (c :: front) parts := by
  cases parts <;> rfl

theorem prefixed_prefixed (front back : Text) (parts : Except ScanFailure (Text × Text)) :
    prefixed front (prefixed back parts) = prefixed (front ++ back) parts := by
  cases parts <;> simp [prefixed, Except.map]

theorem scanWord_closing (pos depth opened : Nat) (rest : Text) :
    scanWord pos (.bracket (depth + 1) opened) (']' :: rest) =
      prepend ']' (scanWord (pos + 1) (.bracket depth opened) rest) := by
  rw [scanWord_cons pos rest (continues_bracket _ _ _)]
  rfl

theorem scanWord_lastClosing (pos opened : Nat) (rest : Text) :
    scanWord pos (.bracket 0 opened) (']' :: rest) = prepend ']' (scanWord (pos + 1) .plain rest) := by
  rw [scanWord_cons pos rest (continues_bracket _ _ _)]
  rfl

theorem scanWord_quotedBody {quote : Char} {body : Text} (h : quote ∉ body) (pos start depth opened : Nat)
    (rest : Text) : scanWord pos (.quoted quote start depth opened) (body ++ quote :: rest) =
      prefixed (body ++ [quote]) (scanWord (pos + (body.length + 1)) (.bracket depth opened) rest) := by
  induction body generalizing pos with
  | nil =>
      rw [List.nil_append, scanWord_cons pos rest (continues_quoted _ _ _ _ _), List.nil_append,
        ← prepend_prefixed, prefixed_nil]
      simp [WordState.next]
  | cons c body ih =>
      simp only [List.mem_cons, not_or] at h
      rw [List.cons_append, scanWord_cons pos _ (continues_quoted _ _ _ _ _)]
      simp only [WordState.next, if_neg (Ne.symm h.1)]
      rw [ih h.2, prepend_prefixed, List.cons_append, List.length_cons]
      congr 2
      omega

/-- The scan passes over the contents of a group and stands in the same group behind them. -/
theorem Inside.scanWord_append {inner : Text} (h : Inside inner) (pos depth opened : Nat) (rest : Text) :
    scanWord pos (.bracket depth opened) (inner ++ rest) =
      prefixed inner (scanWord (pos + inner.length) (.bracket depth opened) rest) := by
  induction h generalizing pos depth rest with
  | nil => rw [List.nil_append, prefixed_nil, List.length_nil, Nat.add_zero]
  | @character c t hq hopen hclose _ ih =>
      rw [List.cons_append, scanWord_cons pos _ (continues_bracket _ _ _)]
      simp only [WordState.next, hq, hopen, hclose, if_false, Bool.false_eq_true]
      rw [ih, prepend_prefixed, List.length_cons]
      congr 2
      omega
  | @quoted quote body t hq hbody _ ih =>
      rw [List.cons_append, List.append_assoc, List.cons_append,
        scanWord_cons pos _ (continues_bracket _ _ _)]
      simp only [WordState.next, hq, if_true]
      rw [scanWord_quotedBody hbody, ih, prefixed_prefixed, prepend_prefixed]
      simp only [List.append_assoc, List.singleton_append, List.length_cons, List.length_append]
      congr 2
      omega
  | @group inner t _ _ ihinner iht =>
      rw [List.cons_append, List.append_assoc, List.cons_append,
        scanWord_cons pos _ (continues_bracket _ _ _)]
      have hstate : (WordState.bracket depth opened).next pos '[' = .bracket (depth + 1) opened := rfl
      rw [hstate, ihinner, scanWord_closing, iht, prepend_prefixed, prepend_prefixed, prefixed_prefixed]
      simp only [List.length_cons, List.length_append]
      congr 2
      omega

/-- The scan passes over a group and stands outside brackets behind it. -/
theorem scanWord_group {inner : Text} (h : Inside inner) (pos opened : Nat) (rest : Text) :
    scanWord pos (.bracket 0 opened) (inner ++ ']' :: rest) =
      prefixed (inner ++ [']']) (scanWord (pos + (inner.length + 1)) .plain rest) := by
  rw [h.scanWord_append, scanWord_lastClosing, ← prefixed_nil (scanWord _ .plain rest), prepend_prefixed,
    prefixed_prefixed, Nat.add_assoc]

/-- The scan takes plain characters and groups up to a character that ends a word. -/
theorem WordParts.scanWord_append {w after : Text} (h : WordParts w) (pos : Nat)
    (hafter : ∀ d ∈ after.head?, endsWord d = true) : scanWord pos .plain (w ++ after) = .ok (w, after) := by
  induction h generalizing pos with
  | nil => exact scanWord_plain_of_endsWord pos hafter
  | @character c t hc hopen _ ih =>
      rw [List.cons_append, scanWord_cons pos _ fun _ => hc]
      simp [WordState.next, hopen, ih, prepend, Except.map]
  | @group inner t hinner _ ih =>
      rw [List.cons_append, List.append_assoc, List.cons_append,
        scanWord_cons pos _ fun _ => endsWord_openBracket]
      have hstate : WordState.plain.next pos '[' = .bracket 0 pos := rfl
      rw [hstate, scanWord_group hinner, ih]
      simp [prefixed, prepend, Except.map]

theorem completes_of_scanWord {pos : Nat} {state : WordState} {t w after : Text}
    (h : scanWord pos state t = .ok (w, after)) : Completes state w := by
  induction t generalizing pos state w with
  | nil =>
      cases state with
      | plain =>
          simp only [scanWord, Except.ok.injEq, Prod.mk.injEq] at h
          obtain ⟨rfl, -⟩ := h
          exact .plain .nil
      | bracket depth opened => simp [scanWord] at h
      | quoted quote start depth opened => simp [scanWord] at h
  | cons c rest ih =>
      by_cases hc : Continues state c
      · rw [scanWord_cons pos rest hc] at h
        obtain ⟨w', rfl, hw⟩ := prepend_eq_ok h
        exact (ih hw).step hc
      · obtain ⟨rfl, hends⟩ := Classical.not_imp.1 hc
        rw [Bool.not_eq_false] at hends
        unfold endsWord at hends
        simp only [scanWord, hends, if_true, Except.ok.injEq, Prod.mk.injEq] at h
        obtain ⟨rfl, -⟩ := h
        exact .plain .nil

/-- **The scan of a word takes plain characters and groups**, as far as they go. -/
theorem scanWord_plain_eq_ok_iff {pos : Nat} {t w after : Text} :
    scanWord pos .plain t = .ok (w, after) ↔
      t = w ++ after ∧ WordParts w ∧ ∀ d ∈ after.head?, endsWord d = true := by
  constructor
  · intro h
    exact ⟨scanWord_eq h, (completes_of_scanWord h).wordParts, scanWord_boundary h⟩
  · rintro ⟨rfl, hw, hafter⟩
    exact hw.scanWord_append pos hafter

/-! ## Where the scan fails -/

/-- The quotes and brackets that are open in a state have offsets from `first` on. -/
def WordState.Since (first : Nat) : WordState → Prop
  | .plain => True
  | .bracket _ opened => first ≤ opened
  | .quoted _ start _ opened => first ≤ start ∧ first ≤ opened

theorem WordState.since_next {first pos : Nat} {state : WordState} (h : state.Since first) (hpos : first ≤ pos)
    (c : Char) : (state.next pos c).Since first := by
  cases state with
  | plain =>
      simp only [WordState.next]
      split
      · exact hpos
      · trivial
  | bracket depth opened =>
      simp only [WordState.next]
      split
      · exact ⟨hpos, h⟩
      · split
        · exact h
        · split
          · cases depth with
            | zero => trivial
            | succ depth => exact h
          · exact h
  | quoted quote start depth opened =>
      simp only [WordState.next]
      split
      · exact h.2
      · exact h

theorem prepend_eq_error {c : Char} {parts : Except ScanFailure (Text × Text)} {f : ScanFailure} :
    prepend c parts = .error f ↔ parts = .error f := by
  cases parts <;> simp [prepend, Except.map]

theorem prefixed_eq_error {front : Text} {parts : Except ScanFailure (Text × Text)} {f : ScanFailure} :
    prefixed front parts = .error f ↔ parts = .error f := by
  cases parts <;> simp [prefixed, Except.map]

theorem continues_of_scanWord_error {pos : Nat} {state : WordState} {c : Char} {rest : Text} {f : ScanFailure}
    (h : scanWord pos state (c :: rest) = .error f) : Continues state c := by
  rintro rfl
  cases hends : endsWord c with
  | false => rfl
  | true =>
      unfold endsWord at hends
      simp [scanWord, hends] at h

/-- A failure lies at or behind the place where the scan stands, or at what is open there. -/
theorem le_of_scanWord_error {first pos : Nat} {state : WordState} {t : Text} {f : ScanFailure}
    (hstate : WordState.Since first state) (hpos : first ≤ pos) (h : scanWord pos state t = .error f) : first ≤ f.2 := by
  induction t generalizing pos state with
  | nil =>
      cases state with
      | plain => simp [scanWord] at h
      | bracket depth opened =>
          simp only [scanWord, Except.error.injEq] at h
          subst h
          exact hstate
      | quoted quote start depth opened =>
          simp only [scanWord, Except.error.injEq] at h
          subst h
          exact hstate.1
  | cons c rest ih =>
      rw [scanWord_cons pos rest (continues_of_scanWord_error h), prepend_eq_error] at h
      exact ih (WordState.since_next hstate hpos c) (by omega) h

/-- A bracket that is reported is not closed. -/
theorem unclosed_of_scanWord_error {pos opened : Nat} {t : Text} {cause : SyntaxCause} (hopened : opened < pos)
    (h : scanWord pos (.bracket 0 opened) t = .error (cause, opened)) : Unclosed t := by
  rintro inner after hinner rfl
  rw [scanWord_group hinner, prefixed_eq_error] at h
  have hle : pos ≤ opened := by
    refine le_of_scanWord_error ?_ (Nat.le_add_right pos _) h
    trivial
  omega

/-- `FailsAt state c before rest cause`: in a word whose scan is in this state, `before` is read, and `c` opens a
quoted text or a group that `rest` does not close.  Quotes may be opened in a group; closing brackets then lead
from there to the end of a word. -/
inductive FailsAt (state : WordState) (c : Char) (before rest : Text) : SyntaxCause → Prop
  | quote {closing : Nat} : isQuote c = true → c ∉ rest →
      Completes state (before ++ List.replicate closing ']') → FailsAt state c before rest .unterminatedString
  | bracket : c = '[' → Unclosed rest → Completes state before → FailsAt state c before rest .unterminatedBracket

theorem FailsAt.step {pos : Nat} {state : WordState} {c d : Char} {before rest : Text} {cause : SyntaxCause}
    (hc : Continues state c) (h : FailsAt (state.next pos c) d before rest cause) :
    FailsAt state d (c :: before) rest cause := by
  cases h with
  | quote hq hrest hw => exact .quote hq hrest (hw.step hc)
  | bracket hd hrest hw => exact .bracket hd hrest (hw.step hc)

/-- What is open in a state is not closed by `t`, and reported as `f`. -/
def FailsBefore (state : WordState) (t : Text) (f : ScanFailure) : Prop :=
  match state with
  | .plain => False
  | .bracket _ opened => f = (.unterminatedBracket, opened)
  | .quoted quote start _ opened => f = (.unterminatedString, start) ∧ quote ∉ t ∨ f = (.unterminatedBracket, opened)

/-- What a character opens is closed, or reported at the character. -/
theorem failsAt_of_failsBefore {pos : Nat} {state : WordState} {c : Char} {rest : Text} {f : ScanFailure}
    (hf : FailsBefore (state.next pos c) rest f) (hscan : scanWord (pos + 1) (state.next pos c) rest = .error f) :
    FailsBefore state (c :: rest) f ∨ f.2 = pos ∧ FailsAt state c [] rest f.1 := by
  cases state with
  | plain =>
      simp only [WordState.next] at hf hscan
      split at hf
      · next hopen =>
          rw [if_pos hopen] at hscan
          obtain rfl : f = (.unterminatedBracket, pos) := hf
          exact .inr ⟨rfl, .bracket hopen (unclosed_of_scanWord_error (by omega) hscan) (.plain .nil)⟩
      · exact hf.elim
  | bracket depth opened =>
      simp only [WordState.next] at hf
      split at hf
      · next hq =>
          rcases hf with ⟨rfl, hrest⟩ | rfl
          · have hclosing := Completes.replicate_closing depth opened
            rw [← List.nil_append (List.replicate _ _)] at hclosing
            exact .inr ⟨rfl, .quote hq hrest hclosing⟩
          · exact .inl rfl
      · refine .inl ?_
        split at hf
        · exact hf
        · split at hf
          · cases depth with
            | zero => exact hf.elim
            | succ depth => exact hf
          · exact hf
  | quoted quote start depth opened =>
      refine .inl ?_
      simp only [WordState.next] at hf
      split at hf
      · exact .inr hf
      · next hquote =>
          rcases hf with ⟨rfl, hrest⟩ | rfl
          · refine .inl ⟨rfl, ?_⟩
            simp only [List.mem_cons, not_or]
            exact ⟨Ne.symm hquote, hrest⟩
          · exact .inr rfl

theorem scanWord_eq_error {pos : Nat} {state : WordState} {t : Text} {f : ScanFailure}
    (h : scanWord pos state t = .error f) :
    FailsBefore state t f ∨ ∃ before c rest, t = before ++ c :: rest ∧ f.2 = pos + before.length ∧
      FailsAt state c before rest f.1 := by
  induction t generalizing pos state with
  | nil =>
      left
      cases state with
      | plain => simp [scanWord] at h
      | bracket depth opened =>
          simp only [scanWord, Except.error.injEq] at h
          exact h.symm
      | quoted quote start depth opened =>
          simp only [scanWord, Except.error.injEq] at h
          exact .inl ⟨h.symm, List.not_mem_nil⟩
  | cons c rest ih =>
      have hc : Continues state c := continues_of_scanWord_error h
      rw [scanWord_cons pos rest hc, prepend_eq_error] at h
      rcases ih h with hbefore | ⟨before, d, rest', rfl, hpos, hfails⟩
      · rcases failsAt_of_failsBefore hbefore h with hbefore | ⟨hpos, hfails⟩
        · exact .inl hbefore
        · exact .inr ⟨[], c, rest, rfl, by simpa using hpos, hfails⟩
      · refine .inr ⟨c :: before, d, rest', rfl, ?_, hfails.step hc⟩
        rw [hpos, List.length_cons]
        omega

/-- **Where the scan of a word fails**, a quoted text or a group is opened and not closed. -/
theorem scanWord_plain_eq_error {pos : Nat} {t : Text} {f : ScanFailure} (h : scanWord pos .plain t = .error f) :
    ∃ before c rest, t = before ++ c :: rest ∧ f.2 = pos + before.length ∧ FailsAt .plain c before rest f.1 := by
  rcases scanWord_eq_error h with hbefore | hfails
  · exact hbefore.elim
  · exact hfails

end Liquid.Token
