import Liquid.Markup.Token

/-!
# Tokens in other surroundings

What a token is depends on its own characters and on the one character behind it, which tells a word or a
comparator that it is over.  So a run of tokens stays the same when the text behind it is replaced, as long as
its last token can stand before the new text.  In particular a run of tokens is scanned again from its source.

## Main definitions

* `Token.Next` — what the token at the head of a text can be.
* `Token.standsBefore` — whether a token can stand directly before a character.
* `Token.Scans` — tokens of the beginning of a text, and the text behind them.

## Main statements

* `Token.next?_eq_ok_iff` — the token at the head of a text is one of the five forms.
* `Token.Scans.replace` — the text behind a run of tokens may be another one.
* `Token.scan_source` — the source of a run of tokens has these tokens.
-/

namespace Liquid.Token

/-! ## The forms of a token -/

/-- The token that begins with `c`: its kind, its text, and the text after it. -/
inductive Next (c : Char) : Text → TokenKind → Text → Text → Prop
  | quoted {rest body after : Text} : isQuote c = true → scanQuoted c rest = some (body, after) →
      Next c rest .quoted (c :: body) after
  | separator {rest : Text} {kind : TokenKind} : separator? c = some kind → Next c rest kind [c] rest
  | wide {d : Char} {after : Text} : isWideComparator c d = true →
      Next c (d :: after) .comparator [c, d] after
  | narrow {rest : Text} : c = '<' ∨ c = '>' → (∀ d ∈ rest.head?, isWideComparator c d = false) →
      Next c rest .comparator [c] rest
  | word {rest text after : Text} : isDelimiter c = false → scanWord 0 .plain (c :: rest) = .ok (text, after) →
      Next c rest (if text = containsWord then .comparator else .word) text after

theorem separator?_eq_some_iff {c : Char} {kind : TokenKind} :
    separator? c = some kind ↔
      c = '|' ∧ kind = .pipe ∨ c = ',' ∧ kind = .comma ∨ c = ':' ∧ kind = .colon := by
  unfold separator?
  by_cases h₁ : c = '|'
  · subst h₁
    simp [eq_comm]
  by_cases h₂ : c = ','
  · subst h₂
    simp [eq_comm]
  by_cases h₃ : c = ':'
  · subst h₃
    simp [eq_comm]
  simp [h₁, h₂, h₃]

theorem isWideComparator_eq_true_iff {c d : Char} :
    isWideComparator c d = true ↔
      d = '=' ∧ (c = '=' ∨ c = '!' ∨ c = '<' ∨ c = '>') ∨ c = '<' ∧ d = '>' := by
  simp [isWideComparator, or_assoc]

/-- A character that ends no word is no quote and no separator. -/
theorem separator?_of_not_delimiter {c : Char} (h : isDelimiter c = false) :
    isQuote c = false ∧ separator? c = none := by
  simp only [isDelimiter, Bool.or_eq_false_iff, beq_eq_false_iff_ne] at h
  simp [separator?, h]

theorem isWideComparator_of_not_delimiter {c : Char} (h : isDelimiter c = false) (d : Char) :
    isWideComparator c d = false := by
  simp only [isDelimiter, Bool.or_eq_false_iff, beq_eq_false_iff_ne] at h
  simp [isWideComparator, h]

/-- What begins a token decides which of the five forms it has. -/
theorem next?_of_next {c : Char} {rest : Text} {kind : TokenKind} {text after : Text}
    (h : Next c rest kind text after) : next? c rest = .ok (kind, text, after) := by
  cases h with
  | quoted hq hs => simp [next?, hq, hs]
  | separator hs =>
      have hq : isQuote c = false := by
        rcases separator?_eq_some_iff.1 hs with ⟨rfl, -⟩ | ⟨rfl, -⟩ | ⟨rfl, -⟩ <;> rfl
      simp [next?, hq, hs]
  | wide hw =>
      have hq : isQuote c = false ∧ separator? c = none := by
        rcases isWideComparator_eq_true_iff.1 hw with ⟨-, rfl | rfl | rfl | rfl⟩ | ⟨rfl, -⟩ <;>
          exact ⟨rfl, rfl⟩
      simp [next?, hq.1, hq.2, hw]
  | narrow hc hw =>
      have hq : isQuote c = false ∧ separator? c = none := by
        rcases hc with rfl | rfl <;> exact ⟨rfl, rfl⟩
      have hany : rest.head?.any (isWideComparator c) = false := by
        cases hr : rest.head? with
        | none => rfl
        | some d => exact hw d hr
      simp [next?, hq.1, hq.2, hany, hc]
  | word hd hs =>
      have hq := separator?_of_not_delimiter hd
      have hany : rest.head?.any (isWideComparator c) = false := by
        cases hr : rest.head? with
        | none => rfl
        | some d => exact isWideComparator_of_not_delimiter hd d
      have hc : ¬ (c = '<' ∨ c = '>') := by
        rintro (rfl | rfl) <;> exact absurd hd (by decide)
      simp [next?, hq.1, hq.2, hany, hc, hd, hs, Except.map]

theorem next_of_next? {c : Char} {rest : Text} {kind : TokenKind} {text after : Text}
    (h : next? c rest = .ok (kind, text, after)) : Next c rest kind text after := by
  unfold next? at h
  by_cases hq : isQuote c = true
  · simp only [hq, if_true] at h
    cases hs : scanQuoted c rest with
    | none => simp [hs] at h
    | some p =>
        obtain ⟨body, after'⟩ := p
        simp only [hs, Except.ok.injEq, Prod.mk.injEq] at h
        obtain ⟨rfl, rfl, rfl⟩ := h
        exact .quoted hq hs
  simp only [hq, if_false, Bool.false_eq_true] at h
  cases hs : separator? c with
  | some kind' =>
      simp only [hs, Except.ok.injEq, Prod.mk.injEq] at h
      obtain ⟨rfl, rfl, rfl⟩ := h
      exact .separator hs
  | none =>
      simp only [hs] at h
      by_cases hw : rest.head?.any (isWideComparator c) = true
      · obtain ⟨d, hd, hwide⟩ := (Option.any_eq_true _ _).1 hw
        obtain ⟨rest', rfl⟩ := List.head?_eq_some_iff.1 hd
        simp only [hw, if_true, Except.ok.injEq, Prod.mk.injEq] at h
        obtain ⟨rfl, rfl, rfl⟩ := h
        exact .wide hwide
      simp only [hw, if_false, Bool.false_eq_true, Bool.or_eq_true, decide_eq_true_eq] at h
      by_cases hc : c = '<' ∨ c = '>'
      · simp only [hc, if_true, Except.ok.injEq, Prod.mk.injEq] at h
        obtain ⟨rfl, rfl, rfl⟩ := h
        refine .narrow hc ?_
        intro d hd
        rw [Option.mem_def] at hd
        simpa [hd] using hw
      simp only [hc, if_false] at h
      by_cases hd : isDelimiter c = true
      · simp [hd] at h
      simp only [hd, if_false, Bool.false_eq_true] at h
      cases hword : scanWord 0 .plain (c :: rest) with
      | error e => simp [hword, Except.map] at h
      | ok p =>
          simp only [hword, Except.map, Except.ok.injEq, Prod.mk.injEq] at h
          obtain ⟨rfl, rfl, rfl⟩ := h
          exact .word (by simpa using hd) hword

/-- The token at the head of a text has one of the five forms. -/
theorem next?_eq_ok_iff {c : Char} {rest : Text} {kind : TokenKind} {text after : Text} :
    next? c rest = .ok (kind, text, after) ↔ Next c rest kind text after :=
  ⟨next_of_next?, next?_of_next⟩

/-! ## The character behind a token -/

/-- A character that ends a word. -/
def endsWord (d : Char) : Bool := Text.isBlank d || isDelimiter d

/-- Whether a token can stand directly before a character, so that the character is no part of it. -/
def standsBefore (kind : TokenKind) (text : Text) (d : Char) : Bool :=
  match kind, text with
  | .word, _ => endsWord d
  | .comparator, [c] => !isWideComparator c d
  | .comparator, text => text != containsWord || endsWord d
  | _, _ => true

/-- `Allows kind text after`: what follows a token, if anything does, is no part of it. -/
def Allows (kind : TokenKind) (text after : Text) : Prop := ∀ d ∈ after.head?, standsBefore kind text d = true

theorem scanWord_boundary {pos : Nat} {state : WordState} {t w after : Text}
    (h : scanWord pos state t = .ok (w, after)) : ∀ d ∈ after.head?, endsWord d = true := by
  induction t generalizing pos state w with
  | nil => cases state <;> simp_all [scanWord]
  | cons c rest ih =>
      cases state with
      | plain =>
          by_cases hc : Text.isBlank c || isDelimiter c
          · simp only [scanWord, hc, if_true, Except.ok.injEq, Prod.mk.injEq] at h
            obtain ⟨-, rfl⟩ := h
            simpa [endsWord] using hc
          · simp only [scanWord, hc] at h
            obtain ⟨w', -, hw⟩ := prepend_eq_ok h
            exact ih hw
      | bracket depth opened =>
          simp only [scanWord] at h
          obtain ⟨w', -, hw⟩ := prepend_eq_ok h
          exact ih hw
      | quoted quote start depth opened =>
          simp only [scanWord] at h
          obtain ⟨w', -, hw⟩ := prepend_eq_ok h
          exact ih hw

theorem scanWord_plain_of_endsWord (pos : Nat) {after : Text} (hafter : ∀ d ∈ after.head?, endsWord d = true) :
    scanWord pos .plain after = .ok ([], after) := by
  cases after with
  | nil => rfl
  | cons d rest =>
      have hd : endsWord d = true := hafter d rfl
      unfold endsWord at hd
      simp [scanWord, hd]

/-- A word is the same before any text that ends it. -/
theorem scanWord_replace {pos : Nat} {state : WordState} {t w after after' : Text}
    (h : scanWord pos state t = .ok (w, after)) (hafter : ∀ d ∈ after'.head?, endsWord d = true) :
    scanWord pos state (w ++ after') = .ok (w, after') := by
  induction t generalizing pos state w with
  | nil =>
      cases state with
      | plain =>
          simp only [scanWord, Except.ok.injEq, Prod.mk.injEq] at h
          obtain ⟨rfl, -⟩ := h
          exact scanWord_plain_of_endsWord pos hafter
      | bracket depth opened => simp [scanWord] at h
      | quoted quote start depth opened => simp [scanWord] at h
  | cons c rest ih =>
      cases state with
      | plain =>
          by_cases hc : Text.isBlank c || isDelimiter c
          · simp only [scanWord, hc, if_true, Except.ok.injEq, Prod.mk.injEq] at h
            obtain ⟨rfl, -⟩ := h
            exact scanWord_plain_of_endsWord pos hafter
          · simp only [scanWord, hc] at h
            obtain ⟨w', rfl, hw⟩ := prepend_eq_ok h
            simp [scanWord, hc, ih hw, prepend, Except.map]
      | bracket depth opened =>
          simp only [scanWord] at h
          obtain ⟨w', rfl, hw⟩ := prepend_eq_ok h
          simp [scanWord, ih hw, prepend, Except.map]
      | quoted quote start depth opened =>
          simp only [scanWord] at h
          obtain ⟨w', rfl, hw⟩ := prepend_eq_ok h
          simp [scanWord, ih hw, prepend, Except.map]

theorem scanQuoted_replace {quote : Char} {t body after : Text} (h : scanQuoted quote t = some (body, after))
    (after' : Text) : scanQuoted quote (body ++ after') = some (body, after') := by
  induction t generalizing body with
  | nil => simp [scanQuoted] at h
  | cons c rest ih =>
      by_cases hc : c = quote
      · simp only [scanQuoted, hc, if_true, Option.some.injEq, Prod.mk.injEq] at h
        obtain ⟨rfl, -⟩ := h
        simp [scanQuoted]
      · simp only [scanQuoted, hc, if_false] at h
        obtain ⟨⟨b, a⟩, hp, he⟩ := Option.map_eq_some_iff.1 h
        simp only [Prod.mk.injEq] at he
        obtain ⟨rfl, rfl⟩ := he
        simp [scanQuoted, hc, ih hp]

theorem containsWord_eq : containsWord = ['c', 'o', 'n', 't', 'a', 'i', 'n', 's'] := rfl

theorem standsBefore_contains (d : Char) : standsBefore .comparator containsWord d = endsWord d := by
  simp [standsBefore, containsWord_eq]

theorem standsBefore_word (text : Text) (d : Char) : standsBefore .word text d = endsWord d := by
  simp [standsBefore]

/-- A scanned token allows what follows it: it is as long as it can be. -/
theorem Next.allows {c : Char} {rest : Text} {kind : TokenKind} {text after : Text}
    (h : Next c rest kind text after) : Allows kind text after := by
  intro d hd
  cases h with
  | quoted hq hs => rfl
  | separator hs =>
      rcases separator?_eq_some_iff.1 hs with ⟨-, rfl⟩ | ⟨-, rfl⟩ | ⟨-, rfl⟩ <;> rfl
  | wide hw => simp [standsBefore, containsWord_eq]
  | narrow hc hw => simpa [standsBefore] using hw d hd
  | word hdelim hs =>
      have hend : endsWord d = true := scanWord_boundary hs d hd
      by_cases ht : text = containsWord
      · subst ht
        simpa only [if_true, standsBefore_contains] using hend
      · simpa only [ht, if_false, standsBefore_word] using hend

/-- A token begins with its first character. -/
theorem Next.text_eq {c : Char} {rest : Text} {kind : TokenKind} {text after : Text}
    (hb : Text.isBlank c = false) (h : Next c rest kind text after) :
    ∃ body, text = c :: body ∧ rest = body ++ after := by
  have heq : c :: rest = text ++ after := next?_eq (next?_eq_ok_iff.2 h)
  have hne : text ≠ [] := next?_ne_nil hb (next?_eq_ok_iff.2 h)
  obtain ⟨c', body, rfl⟩ := List.exists_cons_of_ne_nil hne
  simp only [List.cons_append, List.cons.injEq] at heq
  obtain ⟨rfl, hrest⟩ := heq
  exact ⟨body, rfl, hrest⟩

/-- A token is the same before any text that it allows. -/
theorem Next.replace {c : Char} {rest body after after' : Text} {kind : TokenKind}
    (h : Next c rest kind (c :: body) after) (hafter : Allows kind (c :: body) after') :
    Next c (body ++ after') kind (c :: body) after' := by
  generalize htext : c :: body = text at h hafter
  cases h with
  | quoted hq hs =>
      simp only [List.cons.injEq, true_and] at htext
      subst htext
      exact .quoted hq (scanQuoted_replace hs after')
  | separator hs =>
      simp only [List.cons.injEq, true_and] at htext
      subst htext
      exact .separator hs
  | wide hw =>
      simp only [List.cons.injEq, true_and] at htext
      subst htext
      exact .wide hw
  | narrow hc hw =>
      simp only [List.cons.injEq, true_and] at htext
      subst htext
      refine .narrow hc ?_
      intro d hd
      simpa [standsBefore] using hafter d hd
  | word hd hs =>
      refine .word hd ?_
      subst htext
      refine scanWord_replace hs ?_
      intro d hd'
      have hstands := hafter d hd'
      by_cases ht : c :: body = containsWord
      · simpa only [ht, if_true, standsBefore_contains] using hstands
      · simpa only [ht, if_false, standsBefore_word] using hstands

/-! ## Runs of tokens -/

/-- `Scans pos t tokens rest`: reading `t`, whose first character has the offset `pos`, gives `tokens`, with
the text `rest` left behind them. -/
inductive Scans : Nat → Text → List Token → Text → Prop
  | done (pos : Nat) (rest : Text) : Scans pos rest [] rest
  | blank {pos : Nat} {c : Char} {t : Text} {tokens : List Token} {rest : Text} :
      Text.isBlank c = true → Scans (pos + 1) t tokens rest → Scans pos (c :: t) tokens rest
  | token {pos : Nat} {c : Char} {t text after : Text} {kind : TokenKind} {tokens : List Token} {rest : Text} :
      Text.isBlank c = false → Next c t kind text after → Scans (pos + text.length) after tokens rest →
      Scans pos (c :: t) (⟨kind, text, pos⟩ :: tokens) rest

theorem scanFrom_blank (pos : Nat) {c : Char} (t : Text) (hb : Text.isBlank c = true) :
    scanFrom pos (c :: t) = scanFrom (pos + 1) t := by
  rw [scanFrom, dif_pos hb]

theorem scanFrom_failure (pos : Nat) {c : Char} {t : Text} {e : ScanFailure} (hb : Text.isBlank c = false)
    (h : next? c t = .error e) : scanFrom pos (c :: t) = .error (e.1, pos + e.2) := by
  rw [scanFrom, dif_neg (by simp [hb])]
  split
  · next hn =>
      rw [h, Except.error.injEq] at hn
      subst hn
      rfl
  · next hn => simp [h] at hn

theorem scanFrom_token (pos : Nat) {c : Char} {t text after : Text} {kind : TokenKind}
    (hb : Text.isBlank c = false) (h : next? c t = .ok (kind, text, after)) :
    scanFrom pos (c :: t) = (scanFrom (pos + text.length) after).map (⟨kind, text, pos⟩ :: ·) := by
  rw [scanFrom, dif_neg (by simp [hb])]
  split
  · next hn => simp [h] at hn
  · next hn =>
      simp only [h, Except.ok.injEq, Prod.mk.injEq] at hn
      obtain ⟨rfl, rfl, rfl⟩ := hn
      rfl

theorem scanFrom_of_scans {pos : Nat} {t : Text} {tokens : List Token} (h : Scans pos t tokens []) :
    scanFrom pos t = .ok tokens := by
  generalize hrest : ([] : Text) = rest at h
  induction h with
  | done pos rest => subst hrest; rw [scanFrom]
  | blank hb _ ih => rw [scanFrom_blank _ _ hb, ih hrest]
  | token hb hn _ ih =>
      rw [scanFrom_token _ hb (next?_eq_ok_iff.2 hn), ih hrest]
      rfl

theorem scans_of_scanFrom {pos : Nat} {t : Text} {tokens : List Token} (h : scanFrom pos t = .ok tokens) :
    Scans pos t tokens [] := by
  induction pos, t using scanFrom.induct generalizing tokens with
  | case1 pos =>
      rw [scanFrom, Except.ok.injEq] at h
      subst h
      exact .done pos []
  | case2 pos c t hb ih =>
      rw [scanFrom_blank _ _ hb] at h
      exact .blank hb (ih h)
  | case3 pos c t hb cause offset hn =>
      rw [scanFrom_failure _ (by simpa using hb) hn] at h
      simp at h
  | case4 pos c t hb kind text after hn ih =>
      rw [Bool.not_eq_true] at hb
      rw [scanFrom_token _ hb hn] at h
      cases hs : scanFrom (pos + text.length) after with
      | error e => simp [hs, Except.map] at h
      | ok tokens' =>
          simp only [hs, Except.map, Except.ok.injEq] at h
          subst h
          exact .token hb (next?_eq_ok_iff.1 hn) (ih hs)

/-- Scanning gives the tokens that read a text to its end. -/
theorem scanFrom_eq_ok_iff {pos : Nat} {t : Text} {tokens : List Token} :
    scanFrom pos t = .ok tokens ↔ Scans pos t tokens [] :=
  ⟨scans_of_scanFrom, scanFrom_of_scans⟩

theorem scan_eq_ok_iff {t : Text} {tokens : List Token} : scan t = .ok tokens ↔ Scans 0 t tokens [] := by
  rw [← scanFrom_eq_ok_iff, scan]
  cases scanFrom 0 t with
  | error e => exact ⟨nofun, nofun⟩
  | ok tokens' =>
      change Except.ok tokens' = Except.ok tokens ↔ _
      rw [Except.ok.injEq, Except.ok.injEq]

/-- A token with its offset moved by `k`. -/
def shift (k : Nat) (token : Token) : Token := { token with position := token.position + k }

theorem tokenize_eq_ok_iff {t : Text} {tokens : List Token} :
    tokenize t = .ok (tokens ++ [atEnd t]) ↔ scan t = .ok tokens := by
  rw [tokenize]
  cases scan t <;> simp [Except.map]

theorem tokenize_eq_ok_iff_scan {t : Text} {tokens : List Token} :
    tokenize t = .ok tokens ↔ ∃ scanned, scan t = .ok scanned ∧ tokens = scanned ++ [atEnd t] := by
  rw [tokenize]
  cases scan t <;> simp [Except.map, eq_comm]

namespace Scans

variable {pos : Nat} {t rest : Text} {tokens : List Token}

/-- Each token takes at least one character. -/
theorem length_le (h : Scans pos t tokens rest) : rest.length + tokens.length ≤ t.length := by
  induction h with
  | done pos rest => simp
  | blank _ _ ih =>
      simp only [List.length_cons]
      omega
  | token hb hn _ ih =>
      have hlt := length_after_lt hb (next?_eq_ok_iff.2 hn)
      simp only [List.length_cons] at hlt ⊢
      omega

theorem eq_nil (h : Scans pos t tokens t) : tokens = [] := by
  have hle := h.length_le
  exact List.length_eq_zero_iff.1 (by omega)

/-- What is left behind the tokens is the end of the text. -/
theorem suffix (h : Scans pos t tokens rest) : ∃ read, t = read ++ rest := by
  induction h with
  | done pos rest => exact ⟨[], rfl⟩
  | @blank pos c t tokens rest hb hs ih =>
      obtain ⟨read, rfl⟩ := ih
      exact ⟨c :: read, rfl⟩
  | @token pos c t text after kind tokens rest hb hn hs ih =>
      obtain ⟨read, rfl⟩ := ih
      refine ⟨text ++ read, ?_⟩
      rw [next?_eq (next?_eq_ok_iff.2 hn), List.append_assoc]

/-- Each token was read at the head of some text. -/
theorem next_of_mem (h : Scans pos t tokens rest) : ∀ token ∈ tokens,
    ∃ c before after, Next c before token.kind token.text after := by
  induction h with
  | done pos rest => simp
  | blank hb hs ih => exact ih
  | token hb hn hs ih =>
      intro token htoken
      rcases List.mem_cons.1 htoken with rfl | htoken
      · exact ⟨_, _, _, hn⟩
      · exact ih token htoken

/-- The text behind the tokens may be another one that the last of them allows. -/
theorem replace {read : Text} (rest' : Text) (h : Scans pos t tokens rest) (ht : t = read ++ rest)
    (hlast : ∀ last ∈ tokens.getLast?, Allows last.kind last.text rest') :
    Scans pos (read ++ rest') tokens rest' := by
  induction h generalizing read with
  | done pos rest =>
      have hread : read = [] := by simpa using ht
      subst hread
      exact .done pos rest'
  | @blank pos c t tokens rest hb hs ih =>
      obtain ⟨read', rfl⟩ := hs.suffix
      have hread : c :: read' = read := List.append_cancel_right ht
      subst hread
      exact .blank hb (ih rfl hlast)
  | @token pos c t text after kind tokens rest hb hn hs ih =>
      obtain ⟨body, rfl, rfl⟩ := hn.text_eq hb
      obtain ⟨read', rfl⟩ := hs.suffix
      rw [← List.append_assoc, ← List.cons_append] at ht
      have hread : c :: (body ++ read') = read := List.append_cancel_right ht
      subst hread
      -- Inside the run the next character stays; only the last token meets the new text.
      have hnext : Allows kind (c :: body) (read' ++ rest') := by
        cases read' with
        | nil =>
            have hnil : tokens = [] := hs.eq_nil
            subst hnil
            exact hlast _ rfl
        | cons e read'' =>
            intro d hd
            exact hn.allows d hd
      have htail : ∀ last ∈ tokens.getLast?, Allows last.kind last.text rest' := by
        intro last hl
        refine hlast last ?_
        rw [Option.mem_def] at hl ⊢
        rw [List.getLast?_cons, hl]
        rfl
      rw [List.cons_append, List.append_assoc]
      exact .token hb (hn.replace hnext) (ih rfl htail)

/-- A run of tokens ends where its last token stops. -/
theorem split {xs ys : List Token} (h : Scans pos t (xs ++ ys) rest) :
    ∃ middle, Scans pos t xs middle ∧ Scans ((xs.getLast?.map stop).getD pos) middle ys rest ∧
      (xs.getLast?.map stop).getD pos + middle.length = pos + t.length := by
  generalize hxs : xs ++ ys = tokens at h
  induction h generalizing xs with
  | done pos rest =>
      obtain ⟨rfl, rfl⟩ := List.append_eq_nil_iff.1 hxs
      exact ⟨rest, .done pos rest, .done pos rest, rfl⟩
  | @blank pos c t tokens rest hb hs ih =>
      cases xs with
      | nil =>
          simp only [List.nil_append] at hxs
          subst hxs
          exact ⟨c :: t, .done pos _, .blank hb hs, rfl⟩
      | cons x xs =>
          obtain ⟨middle, hx, hy, hlen⟩ := ih hxs
          rw [List.getLast?_cons] at hy hlen ⊢
          refine ⟨middle, .blank hb hx, hy, ?_⟩
          simp only [Option.map_some, Option.getD_some, List.length_cons] at hlen ⊢
          omega
  | @token pos c t text after kind tokens rest hb hn hs ih =>
      cases xs with
      | nil =>
          simp only [List.nil_append] at hxs
          subst hxs
          exact ⟨c :: t, .done pos _, .token hb hn hs, rfl⟩
      | cons x xs =>
          simp only [List.cons_append, List.cons.injEq] at hxs
          obtain ⟨rfl, hxs⟩ := hxs
          obtain ⟨middle, hx, hy, hlen⟩ := ih hxs
          have hstop : ((⟨kind, text, pos⟩ :: xs).getLast?.map stop).getD pos =
              (xs.getLast?.map stop).getD (pos + text.length) := by
            rw [List.getLast?_cons]
            cases xs.getLast? <;> rfl
          rw [hstop]
          refine ⟨middle, .token hb hn hx, hy, ?_⟩
          have htext := congrArg List.length (next?_eq (next?_eq_ok_iff.2 hn))
          simp only [List.length_cons, List.length_append] at htext ⊢
          omega

/-- The blanks before the first token are left out. -/
theorem from_first {token : Token} (h : Scans pos t (token :: tokens) rest) :
    ∃ blanks t', t = blanks ++ t' ∧ token.position = pos + blanks.length ∧
      Scans token.position t' (token :: tokens) rest := by
  generalize hall : token :: tokens = all at h
  induction h with
  | done pos rest => simp at hall
  | @blank pos c t tokens' rest hb hs ih =>
      obtain ⟨blanks, t', rfl, hpos, hscans⟩ := ih hall
      refine ⟨c :: blanks, t', rfl, ?_, hscans⟩
      rw [hpos, List.length_cons]
      omega
  | @token pos c t text after kind tokens' rest hb hn hs ih =>
      simp only [List.cons.injEq] at hall
      obtain ⟨rfl, rfl⟩ := hall
      exact ⟨[], c :: t, rfl, rfl, .token hb hn hs⟩

/-- Offsets count from where they are made to. -/
theorem unshift {k : Nat} (h : Scans (pos + k) t tokens rest) :
    ∃ tokens', tokens = tokens'.map (shift k) ∧ Scans pos t tokens' rest := by
  generalize hstart : pos + k = start at h
  induction h generalizing pos with
  | done start rest => exact ⟨[], rfl, .done pos rest⟩
  | @blank start c t tokens rest hb hs ih =>
      have hnext : pos + 1 + k = start + 1 := by omega
      obtain ⟨tokens', rfl, hs'⟩ := ih hnext
      exact ⟨tokens', rfl, .blank hb hs'⟩
  | @token start c t text after kind tokens rest hb hn hs ih =>
      have hnext : pos + text.length + k = start + text.length := by omega
      obtain ⟨tokens', rfl, hs'⟩ := ih hnext
      refine ⟨⟨kind, text, pos⟩ :: tokens', ?_, .token hb hn hs'⟩
      rw [List.map_cons, shift, hstart]

end Scans

/-- **A run of tokens is scanned again from its source**, with its offsets counted from its first token. -/
theorem scan_source {t : Text} {before others after : List Token} {first : Token}
    (h : scan t = .ok (before ++ (first :: others ++ after))) :
    ∃ run, first :: others = run.map (shift first.position) ∧ scan (source t (first :: others)) = .ok run := by
  obtain ⟨middle, hbefore, hrun, hlen⟩ := (scan_eq_ok_iff.1 h).split
  obtain ⟨behind, hrun, -, hlen'⟩ := hrun.split
  obtain ⟨blanks, t', rfl, hpos, hrun⟩ := hrun.from_first
  obtain ⟨read, rfl⟩ := hrun.suffix
  obtain ⟨front, rfl⟩ := hbefore.suffix
  have hread : Scans first.position read (first :: others) [] := by
    have hreplaced := hrun.replace [] rfl (by intro last _ d hd; simp at hd)
    simpa using hreplaced
  have hsource : source (front ++ (blanks ++ (read ++ behind))) (first :: others) = read := by
    simp only [List.getLast?_cons, Option.map_some, Option.getD_some, List.length_append] at hlen hlen'
    have hfront : first.position = (front ++ blanks).length := by
      rw [List.length_append]
      omega
    have hstop : (others.getLast?.getD first).stop - first.position = read.length := by omega
    simp only [source, List.head?_cons, List.getLast?_cons]
    rw [hstop, hfront, ← List.append_assoc, List.drop_left, List.take_left]
  rw [hsource]
  rw [← Nat.zero_add first.position] at hread
  obtain ⟨run, hshift, hscans⟩ := hread.unshift
  exact ⟨run, hshift, scan_eq_ok_iff.2 hscans⟩

end Liquid.Token
