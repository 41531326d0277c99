import Liquid.Markup.Condition
import Liquid.Proofs.Markup.Word
import Mathlib.Data.List.Chain

/-!
# The grammar of tokens

A markup is lexemes with blanks between them.  Between some lexemes the blanks may not be missing: two words would
be one, and `<` before `=` would be another comparator.  A text is laid out in this way at most once, and its
tokens are the lexemes of the layout.  A text that cannot be laid out has a quote or a bracket that is not closed,
or an equals or exclamation sign that belongs to no comparator.

## Main definitions

* `Token.Lexeme` — the texts of tokens.
* `Token.Layout` — lexemes with blanks before each, and blanks behind the last.
* `Token.Layout.WellFormed` — the layouts of markup.
* `Token.Covers` — tokens that are slices of a text, in order and with blanks between them.
* `Token.Stops` — an offset from which on a text cannot be laid out.

## Main statements

* `Token.scan_eq_ok_iff_layout` — scanning gives the tokens of the layout.
* `Token.Layout.ext_of_text` — a text has one layout.
* `Token.tokenize_iff_layout` — the tokens of a text are those of its one layout, or there is none and its failure
  tells where the text stops.
-/

namespace Liquid.Token

/-! ## Lexemes -/

/-- The texts of tokens: a text between two equal quotes, a separator, a comparator, or a word, which is not
written as a comparator. -/
inductive Lexeme : TokenKind → Text → Prop
  | quoted {quote : Char} {body : Text} : isQuote quote = true → quote ∉ body →
      Lexeme .quoted (quote :: (body ++ [quote]))
  | pipe : Lexeme .pipe ['|']
  | comma : Lexeme .comma [',']
  | colon : Lexeme .colon [':']
  | comparator (c : Comparator) : Lexeme .comparator c.text
  | word {w : Text} : WordParts w → w ≠ [] → w ≠ containsWord → Lexeme .word w

theorem scanQuoted_eq_some_iff {quote : Char} {t body after : Text} :
    scanQuoted quote t = some (body, after) ↔
      ∃ inner, quote ∉ inner ∧ body = inner ++ [quote] ∧ t = body ++ after := by
  constructor
  · intro h
    induction t generalizing body with
    | nil => simp [scanQuoted] at h
    | cons c rest ih =>
        by_cases hc : c = quote
        · subst hc
          simp only [scanQuoted, if_true, Option.some.injEq, Prod.mk.injEq] at h
          obtain ⟨rfl, rfl⟩ := h
          exact ⟨[], List.not_mem_nil, rfl, rfl⟩
        · simp only [scanQuoted, hc, if_false] at h
          obtain ⟨⟨b, a⟩, hp, he⟩ := Option.map_eq_some_iff.1 h
          simp only [Prod.mk.injEq] at he
          obtain ⟨rfl, rfl⟩ := he
          obtain ⟨inner, hinner, rfl, rfl⟩ := ih hp
          refine ⟨c :: inner, ?_, rfl, rfl⟩
          simp only [List.mem_cons, not_or]
          exact ⟨Ne.symm hc, hinner⟩
  · rintro ⟨inner, hinner, rfl, rfl⟩
    induction inner with
    | nil => simp [scanQuoted]
    | cons c inner ih =>
        simp only [List.mem_cons, not_or] at hinner
        have hrest := ih hinner.2
        rw [List.append_assoc, List.singleton_append] at hrest
        simp [scanQuoted, Ne.symm hinner.1, hrest]

theorem not_mem_of_scanQuoted_eq_none {quote : Char} {t : Text} (h : scanQuoted quote t = none) : quote ∉ t := by
  induction t with
  | nil => exact List.not_mem_nil
  | cons c rest ih =>
      by_cases hc : c = quote
      · simp [scanQuoted, hc] at h
      · simp only [scanQuoted, hc, if_false, Option.map_eq_none_iff] at h
        simp only [List.mem_cons, not_or]
        exact ⟨Ne.symm hc, ih h⟩

theorem isBlank_of_isQuote {c : Char} (h : isQuote c = true) : Text.isBlank c = false := by
  simp only [isQuote, Bool.or_eq_true, beq_iff_eq] at h
  rcases h with rfl | rfl <;> decide

/-- What is read as a token is a lexeme. -/
theorem Next.lexeme {c : Char} {rest : Text} {kind : TokenKind} {text after : Text}
    (hb : Text.isBlank c = false) (h : Next c rest kind text after) : Lexeme kind text := by
  have hne : text ≠ [] := next?_ne_nil hb (next?_eq_ok_iff.2 h)
  cases h with
  | quoted hq hs =>
      obtain ⟨inner, hinner, rfl, -⟩ := scanQuoted_eq_some_iff.1 hs
      exact .quoted hq hinner
  | separator hs =>
      rcases separator?_eq_some_iff.1 hs with ⟨rfl, rfl⟩ | ⟨rfl, rfl⟩ | ⟨rfl, rfl⟩
      · exact .pipe
      · exact .comma
      · exact .colon
  | wide hw =>
      rcases isWideComparator_eq_true_iff.1 hw with ⟨rfl, rfl | rfl | rfl | rfl⟩ | ⟨rfl, rfl⟩
      · exact .comparator .equal
      · exact .comparator .notEqual
      · exact .comparator .atMost
      · exact .comparator .atLeast
      · exact .comparator .unequal
  | narrow hc _ =>
      rcases hc with rfl | rfl
      · exact .comparator .less
      · exact .comparator .greater
  | word _ hs =>
      by_cases ht : text = containsWord
      · rw [if_pos ht, ht]
        exact .comparator .contains
      · rw [if_neg ht]
        exact .word (scanWord_plain_eq_ok_iff.1 hs).2.1 hne ht

theorem wordParts_containsWord : WordParts containsWord := by
  rw [containsWord_eq]
  repeat refine .character (by decide) (by decide) ?_
  exact .nil

/-- A word is read up to a character that ends it. -/
theorem next_of_wordParts {w after : Text} (hw : WordParts w) (hne : w ≠ [])
    (hafter : ∀ d ∈ after.head?, endsWord d = true) :
    ∃ c body, w = c :: body ∧ Text.isBlank c = false ∧
      Next c (body ++ after) (if w = containsWord then .comparator else .word) w after := by
  obtain ⟨c, body, rfl⟩ := List.exists_cons_of_ne_nil hne
  obtain ⟨hb, hd⟩ := Bool.or_eq_false_iff.1 hw.head_endsWord
  exact ⟨c, body, rfl, hb, .word hd (hw.scanWord_append 0 hafter)⟩

/-- A lexeme is read as a token before any text that it allows. -/
theorem Lexeme.next {kind : TokenKind} {text after : Text} (h : Lexeme kind text) (hafter : Allows kind text after) :
    ∃ c body, text = c :: body ∧ Text.isBlank c = false ∧ Next c (body ++ after) kind text after := by
  cases h with
  | @quoted quote body hq hbody =>
      refine ⟨quote, body ++ [quote], rfl, isBlank_of_isQuote hq, .quoted hq ?_⟩
      exact scanQuoted_eq_some_iff.2 ⟨body, hbody, rfl, rfl⟩
  | pipe => exact ⟨'|', [], rfl, by decide, .separator rfl⟩
  | comma => exact ⟨',', [], rfl, by decide, .separator rfl⟩
  | colon => exact ⟨':', [], rfl, by decide, .separator rfl⟩
  | comparator c =>
      have hnarrow : ∀ d, Allows .comparator [d] after → ∀ e ∈ after.head?, isWideComparator d e = false := by
        intro d ha e he
        simpa [standsBefore] using ha e he
      cases c with
      | equal => exact ⟨'=', ['='], rfl, by decide, .wide rfl⟩
      | notEqual => exact ⟨'!', ['='], rfl, by decide, .wide rfl⟩
      | unequal => exact ⟨'<', ['>'], rfl, by decide, .wide rfl⟩
      | less => exact ⟨'<', [], rfl, by decide, .narrow (.inl rfl) (hnarrow '<' hafter)⟩
      | greater => exact ⟨'>', [], rfl, by decide, .narrow (.inr rfl) (hnarrow '>' hafter)⟩
      | atMost => exact ⟨'<', ['='], rfl, by decide, .wide rfl⟩
      | atLeast => exact ⟨'>', ['='], rfl, by decide, .wide rfl⟩
      | contains =>
          have hends : ∀ d ∈ after.head?, endsWord d = true := by
            intro d hd
            rw [← standsBefore_contains]
            exact hafter d hd
          exact next_of_wordParts wordParts_containsWord (by decide) hends
  | word hw hne hcontains =>
      have hends : ∀ d ∈ after.head?, endsWord d = true := by
        intro d hd
        rw [← standsBefore_word text]
        exact hafter d hd
      have hnext := next_of_wordParts hw hne hends
      rwa [if_neg hcontains] at hnext

/-! ## Lexemes side by side -/

/-- A lexeme with the blanks before it. -/
structure Piece where
  blanks : Text
  kind : TokenKind
  text : Text

namespace Piece

/-- Whether a lexeme is a word, or the comparator that is written as one. -/
def isWordlike (p : Piece) : Bool := p.kind == .word || p.text == containsWord

/-- Two lexemes may stand side by side if they are not read as other ones together. -/
structure MayTouch (p q : Piece) : Prop where
  words : ¬ (p.isWordlike = true ∧ q.isWordlike = true)
  less : p.text = ['<'] → q.text.head? ≠ some '=' ∧ q.text.head? ≠ some '>'
  greater : p.text = ['>'] → q.text.head? ≠ some '='

/-- The text of a lexeme and the blanks before it. -/
def source (p : Piece) : Text := p.blanks ++ p.text

/-- The tokens of lexemes, the first of which begins at `pos` with its blanks. -/
def tokens (pos : Nat) : List Piece → List Token
  | [] => []
  | p :: rest => ⟨p.kind, p.text, pos + p.blanks.length⟩ :: tokens (pos + p.blanks.length + p.text.length) rest

end Piece

/-- Only words and the comparator written as one begin with a character that ends no word. -/
theorem Lexeme.endsWord_head {q : Piece} {d : Char} {body : Text} (h : Lexeme q.kind q.text)
    (hd : q.text = d :: body) : endsWord d = !q.isWordlike := by
  unfold Piece.isWordlike
  generalize hk : q.kind = kind at h ⊢
  generalize q.text = text at h hd ⊢
  cases h with
  | quoted hq _ =>
      obtain ⟨rfl, -⟩ := List.cons.inj hd
      simp only [isQuote, Bool.or_eq_true, beq_iff_eq] at hq
      rcases hq with rfl | rfl <;> simp [containsWord_eq] <;> decide
  | pipe | comma | colon =>
      obtain ⟨rfl, -⟩ := List.cons.inj hd
      decide
  | comparator c =>
      cases c <;> obtain ⟨rfl, -⟩ := List.cons.inj hd <;> decide
  | word hw _ _ =>
      subst hd
      simp [hw.head_endsWord]

theorem comparator_text_cases (c : Comparator) :
    c.text = ['<'] ∨ c.text = ['>'] ∨ c.text = containsWord ∨ ∃ a b, c.text = [a, b] := by
  cases c with
  | less => exact .inl rfl
  | greater => exact .inr (.inl rfl)
  | contains => exact .inr (.inr (.inl rfl))
  | equal | notEqual | unequal | atMost | atLeast => exact .inr (.inr (.inr ⟨_, _, rfl⟩))

/-- Two lexemes may stand side by side if the first may stand before the first character of the second. -/
theorem mayTouch_iff {p q : Piece} {d : Char} {body : Text} (hp : Lexeme p.kind p.text)
    (hq : Lexeme q.kind q.text) (hd : q.text = d :: body) :
    p.MayTouch q ↔ standsBefore p.kind p.text d = true := by
  have hwords : endsWord d = !q.isWordlike := hq.endsWord_head hd
  have hhead : q.text.head? = some d := by rw [hd]; rfl
  -- The three conditions, with what they say of the second lexeme put in terms of `d`.
  have hiff : p.MayTouch q ↔ (p.isWordlike = true → endsWord d = true) ∧
      (p.text = ['<'] → d ≠ '=' ∧ d ≠ '>') ∧ (p.text = ['>'] → d ≠ '=') := by
    rw [hwords, Bool.not_eq_true']
    constructor
    · rintro ⟨hw, hl, hg⟩
      rw [hhead] at hl hg
      simp only [ne_eq, Option.some.injEq] at hl hg
      refine ⟨fun h => ?_, hl, hg⟩
      cases hqw : q.isWordlike with
      | false => rfl
      | true => exact absurd ⟨h, hqw⟩ hw
    · rintro ⟨hw, hl, hg⟩
      refine ⟨?_, ?_, ?_⟩
      · rintro ⟨h, hqw⟩
        simp [hw h] at hqw
      · rw [hhead]
        simpa using hl
      · rw [hhead]
        simpa using hg
  rw [hiff]
  unfold Piece.isWordlike
  generalize p.kind = kind at hp ⊢
  generalize p.text = text at hp ⊢
  cases hp with
  | @quoted quote body hquote _ =>
      have hc : quote ≠ 'c' ∧ quote ≠ '<' ∧ quote ≠ '>' := by
        simp only [isQuote, Bool.or_eq_true, beq_iff_eq] at hquote
        rcases hquote with rfl | rfl <;> decide
      simp [standsBefore, containsWord_eq, hc]
  | pipe | comma | colon => simp [standsBefore, containsWord_eq]
  | comparator c =>
      rcases comparator_text_cases c with ht | ht | ht | ⟨a, b, ht⟩ <;> rw [ht]
      · simp [standsBefore, containsWord_eq, isWideComparator]
      · simp [standsBefore, containsWord_eq, isWideComparator]
      · rw [standsBefore_contains]
        simp [containsWord_eq]
      · simp [standsBefore, containsWord_eq]
  | word hw _ _ =>
      have hless : text ≠ ['<'] := by
        rintro rfl
        exact absurd hw.head_endsWord (by decide)
      have hgreater : text ≠ ['>'] := by
        rintro rfl
        exact absurd hw.head_endsWord (by decide)
      simp [standsBefore_word, hless, hgreater]

theorem allows_nil (kind : TokenKind) (text : Text) : Allows kind text [] := nofun

/-- A blank is no part of any lexeme that it stands behind. -/
theorem standsBefore_of_isBlank (kind : TokenKind) (text : Text) {d : Char} (h : Text.isBlank d = true) :
    standsBefore kind text d = true := by
  have hends : endsWord d = true := by simp [endsWord, h]
  have hwide : ∀ c, isWideComparator c d = false := by
    intro c
    cases hc : isWideComparator c d with
    | false => rfl
    | true =>
        rcases isWideComparator_eq_true_iff.1 hc with ⟨rfl, -⟩ | ⟨-, rfl⟩ <;> exact absurd h (by decide)
  unfold standsBefore
  split <;> simp [hends, hwide]

/-! ## Layouts -/

/-- Lexemes with blanks before each, and blanks behind the last. -/
structure Layout where
  pieces : List Piece
  trailing : Text

namespace Layout

/-- The text that is laid out. -/
def text (l : Layout) : Text := l.pieces.flatMap Piece.source ++ l.trailing

/-- The tokens of a layout. -/
def tokens (l : Layout) : List Token := Piece.tokens 0 l.pieces

/-- The layouts of markup: lexemes and blanks, and blanks where two lexemes may not stand side by side. -/
structure WellFormed (l : Layout) : Prop where
  blanks : ∀ p ∈ l.pieces, ∀ c ∈ p.blanks, Text.isBlank c = true
  lexemes : ∀ p ∈ l.pieces, Lexeme p.kind p.text
  trailing : ∀ c ∈ l.trailing, Text.isBlank c = true
  apart : l.pieces.IsChain fun p q => q.blanks = [] → p.MayTouch q

theorem wellFormed_nil : WellFormed ⟨[], []⟩ := ⟨by simp, by simp, by simp, .nil⟩

/-- A layout with one more blank at its beginning. -/
def blank (c : Char) (l : Layout) : Layout :=
  match l.pieces with
  | [] => ⟨[], c :: l.trailing⟩
  | p :: rest => ⟨{ p with blanks := c :: p.blanks } :: rest, l.trailing⟩

/-- A layout with one more lexeme at its beginning. -/
def lexeme (kind : TokenKind) (text : Text) (l : Layout) : Layout := ⟨⟨[], kind, text⟩ :: l.pieces, l.trailing⟩

theorem text_blank (c : Char) (l : Layout) : (l.blank c).text = c :: l.text := by
  obtain ⟨pieces, trailing⟩ := l
  cases pieces <;> rfl

theorem text_lexeme (kind : TokenKind) (t : Text) (l : Layout) : (l.lexeme kind t).text = t ++ l.text := by
  simp [lexeme, text, Piece.source]

theorem tokens_blank (c : Char) (l : Layout) (pos : Nat) :
    Piece.tokens pos (l.blank c).pieces = Piece.tokens (pos + 1) l.pieces := by
  obtain ⟨pieces, trailing⟩ := l
  cases pieces with
  | nil => rfl
  | cons p rest =>
      have hpos : pos + (p.blanks.length + 1) = pos + 1 + p.blanks.length := by omega
      simp [blank, Piece.tokens, hpos]

namespace WellFormed

variable {l : Layout}

theorem blank {c : Char} (hc : Text.isBlank c = true) (h : l.WellFormed) : (l.blank c).WellFormed := by
  obtain ⟨hblanks, hlexemes, htrailing, hapart⟩ := h
  obtain ⟨pieces, trailing⟩ := l
  cases pieces with
  | nil => exact ⟨by simp [Layout.blank], by simp [Layout.blank], List.forall_mem_cons.2 ⟨hc, htrailing⟩, .nil⟩
  | cons p rest =>
      rw [List.forall_mem_cons] at hblanks hlexemes
      refine ⟨?_, List.forall_mem_cons.2 hlexemes, htrailing, ?_⟩
      · exact List.forall_mem_cons.2 ⟨List.forall_mem_cons.2 ⟨hc, hblanks.1⟩, hblanks.2⟩
      · cases rest with
        | nil => exact .singleton _
        | cons q rest =>
            rw [List.isChain_cons_cons] at hapart
            refine List.isChain_cons_cons.2 ⟨fun hq => ?_, hapart.2⟩
            obtain ⟨hwords, hless, hgreater⟩ := hapart.1 hq
            exact ⟨hwords, hless, hgreater⟩

/-- The first lexeme allows what follows it exactly when it may stand beside the next one. -/
theorem allows_iff {kind : TokenKind} {t : Text} (hkind : Lexeme kind t) (h : l.WellFormed) :
    Allows kind t l.text ↔ ∀ q ∈ l.pieces.head?, q.blanks = [] → Piece.MayTouch ⟨[], kind, t⟩ q := by
  obtain ⟨hblanks, hlexemes, htrailing, -⟩ := h
  obtain ⟨pieces, trailing⟩ := l
  cases pieces with
  | nil =>
      refine iff_of_true ?_ (by simp)
      intro d hd
      exact standsBefore_of_isBlank _ _ (htrailing d (List.mem_of_mem_head? hd))
  | cons q rest =>
      rw [List.forall_mem_cons] at hblanks hlexemes
      obtain ⟨blanks, qkind, qtext⟩ := q
      cases blanks with
      | cons b blanks =>
          refine iff_of_true ?_ (by simp)
          intro d hd
          obtain rfl : b = d := by simpa [text, Piece.source] using hd
          exact standsBefore_of_isBlank _ _ (hblanks.1 _ (by simp))
      | nil =>
          obtain ⟨d, body, hd, -⟩ := hlexemes.1.next (allows_nil qkind qtext)
          change qtext = d :: body at hd
          subst hd
          simp [Allows, text, Piece.source, @mayTouch_iff ⟨[], kind, t⟩ _ _ _ hkind hlexemes.1 rfl]

theorem lexeme {kind : TokenKind} {t : Text} (hkind : Lexeme kind t) (hallows : Allows kind t l.text)
    (h : l.WellFormed) : (l.lexeme kind t).WellFormed := by
  refine ⟨?_, List.forall_mem_cons.2 ⟨hkind, h.lexemes⟩, h.trailing, ?_⟩
  · exact List.forall_mem_cons.2 ⟨by simp, h.blanks⟩
  · refine List.isChain_cons.2 ⟨?_, h.apart⟩
    exact (h.allows_iff hkind).1 hallows

end WellFormed

end Layout

/-! ## Tokens and layouts -/

/-- A text that is read has a layout with the tokens that are read. -/
theorem Scans.exists_layout {pos : Nat} {t : Text} {tokens : List Token} (h : Scans pos t tokens []) :
    ∃ l : Layout, l.WellFormed ∧ l.text = t ∧ Piece.tokens pos l.pieces = tokens := by
  generalize hrest : ([] : Text) = rest at h
  induction h with
  | done pos rest =>
      subst hrest
      exact ⟨⟨[], []⟩, Layout.wellFormed_nil, rfl, rfl⟩
  | @blank pos c t tokens rest hb _ ih =>
      obtain ⟨l, hl, rfl, rfl⟩ := ih hrest
      exact ⟨l.blank c, hl.blank hb, l.text_blank c, l.tokens_blank c pos⟩
  | @token pos c t text after kind tokens rest hb hn _ ih =>
      obtain ⟨l, hl, rfl, rfl⟩ := ih hrest
      refine ⟨l.lexeme kind text, hl.lexeme (hn.lexeme hb) hn.allows, ?_, rfl⟩
      rw [l.text_lexeme, ← next?_eq (next?_eq_ok_iff.2 hn)]

theorem scans_blanks {pos : Nat} {blanks t rest : Text} {tokens : List Token}
    (hblanks : ∀ c ∈ blanks, Text.isBlank c = true) (h : Scans (pos + blanks.length) t tokens rest) :
    Scans pos (blanks ++ t) tokens rest := by
  induction blanks generalizing pos with
  | nil => exact h
  | cons c blanks ih =>
      rw [List.forall_mem_cons] at hblanks
      refine .blank hblanks.1 (ih hblanks.2 ?_)
      rwa [List.length_cons, Nat.add_comm blanks.length, ← Nat.add_assoc] at h

/-- A text that has a layout is read, and gives the tokens of the layout. -/
theorem Layout.WellFormed.scans {l : Layout} (h : l.WellFormed) (pos : Nat) :
    Scans pos l.text (Piece.tokens pos l.pieces) [] := by
  obtain ⟨pieces, trailing⟩ := l
  induction pieces generalizing pos with
  | nil =>
      have hscans := scans_blanks h.trailing (.done (pos + trailing.length) [])
      rwa [List.append_nil] at hscans
  | cons p rest ih =>
      obtain ⟨hblanks, hlexemes, htrailing, hapart⟩ := h
      rw [List.forall_mem_cons] at hblanks hlexemes
      rw [List.isChain_cons] at hapart
      have hrest : Layout.WellFormed ⟨rest, trailing⟩ := ⟨hblanks.2, hlexemes.2, htrailing, hapart.2⟩
      have hallows : Allows p.kind p.text (Layout.text ⟨rest, trailing⟩) := by
        refine (hrest.allows_iff hlexemes.1).2 fun q hq hblank => ?_
        obtain ⟨hwords, hless, hgreater⟩ := hapart.1 q hq hblank
        exact ⟨hwords, hless, hgreater⟩
      obtain ⟨c, body, hc, hb, hn⟩ := hlexemes.1.next hallows
      have htext : Layout.text ⟨p :: rest, trailing⟩ =
          p.blanks ++ c :: (body ++ Layout.text ⟨rest, trailing⟩) := by
        simp [Layout.text, Piece.source, hc]
      rw [htext]
      exact scans_blanks hblanks.1 (.token hb hn (ih _ hrest))

/-- **Scanning gives the tokens of the layout**, and fails where there is none. -/
theorem scan_eq_ok_iff_layout {t : Text} {tokens : List Token} :
    scan t = .ok tokens ↔ ∃ l : Layout, l.WellFormed ∧ l.text = t ∧ l.tokens = tokens := by
  rw [scan_eq_ok_iff]
  constructor
  · exact Scans.exists_layout
  · rintro ⟨l, hl, rfl, rfl⟩
    exact hl.scans 0

/-- Lexemes are found again from their text and their tokens. -/
theorem Piece.eq_of_tokens_eq {pieces pieces' : List Piece} {trailing trailing' : Text} {pos : Nat}
    (htext : pieces.flatMap source ++ trailing = pieces'.flatMap source ++ trailing')
    (htokens : tokens pos pieces = tokens pos pieces') : pieces = pieces' ∧ trailing = trailing' := by
  induction pieces generalizing pieces' pos with
  | nil =>
      cases pieces' with
      | nil => exact ⟨rfl, htext⟩
      | cons p' rest' => simp [tokens] at htokens
  | cons p rest ih =>
      cases pieces' with
      | nil => simp [tokens] at htokens
      | cons p' rest' =>
          obtain ⟨blanks, kind, text⟩ := p
          obtain ⟨blanks', kind', text'⟩ := p'
          simp only [tokens, List.cons.injEq, Token.mk.injEq] at htokens
          obtain ⟨⟨rfl, rfl, hblanks⟩, htokens⟩ := htokens
          have hlength : blanks.length = blanks'.length := by omega
          simp only [List.flatMap_cons, source, List.append_assoc] at htext
          obtain ⟨rfl, hrest⟩ := List.append_inj htext hlength
          obtain ⟨rfl, rfl⟩ := ih (List.append_cancel_left hrest) htokens
          exact ⟨rfl, rfl⟩

/-- **A text has one layout.** -/
theorem Layout.ext_of_text {l l' : Layout} (hl : l.WellFormed) (hl' : l'.WellFormed) (h : l.text = l'.text) :
    l = l' := by
  have htokens : l.tokens = l'.tokens := by
    have hscan := scan_eq_ok_iff_layout.2 ⟨l, hl, h, rfl⟩
    rw [scan_eq_ok_iff_layout.2 ⟨l', hl', rfl, rfl⟩, Except.ok.injEq] at hscan
    exact hscan.symm
  obtain ⟨pieces, trailing⟩ := l
  obtain ⟨pieces', trailing'⟩ := l'
  obtain ⟨rfl, rfl⟩ := Piece.eq_of_tokens_eq h htokens
  rfl

/-! ## Tokens and their text -/

/-- Tokens that are slices of a text, in order, with nothing but blanks between them. -/
structure Covers (t : Text) (tokens : List Token) : Prop where
  slices : ∀ token ∈ tokens, (t.drop token.position).take token.text.length = token.text
  ordered : tokens.Pairwise fun a b => a.position < b.position ∧ a.stop ≤ b.position
  blanks : ∀ i c, t[i]? = some c → (∀ token ∈ tokens, i < token.position ∨ token.stop ≤ i) → Text.isBlank c = true

namespace Piece

variable {pieces : List Piece} {trailing : Text}

theorem position_ge {pos : Nat} : ∀ token ∈ tokens pos pieces, pos ≤ token.position := by
  induction pieces generalizing pos with
  | nil => simp [tokens]
  | cons p rest ih =>
      refine List.forall_mem_cons.2 ⟨Nat.le_add_right _ _, ?_⟩
      intro token htoken
      have hle := ih token htoken
      omega

theorem slices_tokens (front : Text) : ∀ token ∈ tokens front.length pieces,
    ((front ++ (pieces.flatMap source ++ trailing)).drop token.position).take token.text.length = token.text := by
  induction pieces generalizing front with
  | nil => simp [tokens]
  | cons p rest ih =>
      have hsplit : front ++ ((p :: rest).flatMap source ++ trailing) =
          (front ++ p.blanks ++ p.text) ++ (rest.flatMap source ++ trailing) := by
        simp [source]
      rw [hsplit]
      refine List.forall_mem_cons.2 ⟨?_, ?_⟩
      · rw [List.append_assoc (front ++ p.blanks), ← List.length_append, List.drop_left, List.take_left]
      · rw [← List.length_append, ← List.length_append]
        exact ih (front ++ p.blanks ++ p.text)

theorem ordered_tokens {pos : Nat} (h : ∀ p ∈ pieces, p.text ≠ []) :
    (tokens pos pieces).Pairwise fun a b => a.position < b.position ∧ a.stop ≤ b.position := by
  induction pieces generalizing pos with
  | nil => exact .nil
  | cons p rest ih =>
      rw [List.forall_mem_cons] at h
      refine List.pairwise_cons.2 ⟨?_, ih h.2⟩
      intro token htoken
      have hle := position_ge token htoken
      have hlength := List.length_pos_iff.2 h.1
      simp only [stop]
      omega

theorem isBlank_of_uncovered (pos : Nat) {i : Nat} {c : Char}
    (hblanks : ∀ p ∈ pieces, ∀ c ∈ p.blanks, Text.isBlank c = true)
    (htrailing : ∀ c ∈ trailing, Text.isBlank c = true) (hc : (pieces.flatMap source ++ trailing)[i]? = some c)
    (h : ∀ token ∈ tokens pos pieces, pos + i < token.position ∨ token.stop ≤ pos + i) :
    Text.isBlank c = true := by
  induction pieces generalizing pos i with
  | nil => exact htrailing c (List.mem_of_getElem? hc)
  | cons p rest ih =>
      rw [List.forall_mem_cons] at hblanks
      rw [tokens, List.forall_mem_cons] at h
      simp only [List.flatMap_cons, source, List.append_assoc] at hc
      simp only [stop] at h
      rcases Nat.lt_or_ge i p.blanks.length with hi | hi
      · rw [List.getElem?_append_left hi] at hc
        exact hblanks.1 c (List.mem_of_getElem? hc)
      · have hbehind : p.blanks.length + p.text.length ≤ i := by omega
        rw [List.getElem?_append_right hi, List.getElem?_append_right (by omega)] at hc
        refine ih (pos + p.blanks.length + p.text.length) hblanks.2 hc ?_
        intro token htoken
        have htoken' := h.2 token htoken
        simp only [stop]
        omega

end Piece

theorem Layout.WellFormed.covers {l : Layout} (h : l.WellFormed) : Covers l.text l.tokens := by
  refine ⟨?_, ?_, ?_⟩
  · exact Piece.slices_tokens []
  · refine Piece.ordered_tokens ?_
    intro p hp hnil
    obtain ⟨c, body, hc, -⟩ := (h.lexemes p hp).next (allows_nil _ _)
    simp [hc] at hnil
  · intro i c hc huncovered
    refine Piece.isBlank_of_uncovered 0 h.blanks h.trailing hc ?_
    intro token htoken
    rw [Nat.zero_add]
    exact huncovered token htoken

/-! ## Where a text stops -/

/-- A text that has a layout. -/
def IsMarkup (t : Text) : Prop := ∃ l : Layout, l.WellFormed ∧ l.text = t

namespace IsMarkup

theorem nil : IsMarkup [] := ⟨⟨[], []⟩, Layout.wellFormed_nil, rfl⟩

theorem blank {c : Char} {t : Text} (hc : Text.isBlank c = true) (h : IsMarkup t) : IsMarkup (c :: t) := by
  obtain ⟨l, hl, rfl⟩ := h
  exact ⟨l.blank c, hl.blank hc, l.text_blank c⟩

theorem lexeme {kind : TokenKind} {text t : Text} (hkind : Lexeme kind text) (hallows : Allows kind text t)
    (h : IsMarkup t) : IsMarkup (text ++ t) := by
  obtain ⟨l, hl, rfl⟩ := h
  exact ⟨l.lexeme kind text, hl.lexeme hkind hallows, l.text_lexeme kind text⟩

theorem wordParts {w : Text} (h : WordParts w) : IsMarkup w := by
  rw [← List.append_nil w]
  by_cases hnil : w = []
  · subst hnil
    exact nil
  · by_cases hcontains : w = containsWord
    · subst hcontains
      exact lexeme (.comparator .contains) (allows_nil _ _) nil
    · exact lexeme (.word h hnil hcontains) (allows_nil _ _) nil

end IsMarkup

/-- `Stops t cause before`: behind `before`, the text `t` goes on with a quote or a bracket that is not closed, or
with an equals or exclamation sign that belongs to no comparator.  What stands before it has a layout, once the
brackets in which a quote may stand are closed. -/
inductive Stops (t : Text) : SyntaxCause → Text → Prop
  | quote {before rest : Text} {quote : Char} {closing : Nat} : t = before ++ quote :: rest →
      isQuote quote = true → quote ∉ rest → IsMarkup (before ++ List.replicate closing ']') →
      Stops t .unterminatedString before
  | bracket {before rest : Text} : t = before ++ '[' :: rest → Unclosed rest → IsMarkup before →
      Stops t .unterminatedBracket before
  | stray {before rest : Text} {c : Char} : t = before ++ c :: rest → c = '=' ∨ c = '!' →
      rest.head? ≠ some '=' → IsMarkup before → Stops t (.unexpectedCharacter c) before

namespace Stops

variable {t before : Text} {cause : SyntaxCause}

theorem blank {c : Char} (hc : Text.isBlank c = true) (h : Stops t cause before) :
    Stops (c :: t) cause (c :: before) := by
  cases h with
  | quote ht hq hrest hbefore => exact .quote (by rw [ht]; rfl) hq hrest (hbefore.blank hc)
  | bracket ht hrest hbefore => exact .bracket (by rw [ht]; rfl) hrest (hbefore.blank hc)
  | stray ht hc' hrest hbefore => exact .stray (by rw [ht]; rfl) hc' hrest (hbefore.blank hc)

theorem exists_append (h : Stops t cause before) : ∃ c rest, t = before ++ c :: rest := by
  cases h with
  | quote ht _ _ _ => exact ⟨_, _, ht⟩
  | bracket ht _ _ => exact ⟨_, _, ht⟩
  | stray ht _ _ _ => exact ⟨_, _, ht⟩

theorem lexeme {kind : TokenKind} {text : Text} (hkind : Lexeme kind text) (hallows : Allows kind text t)
    (h : Stops t cause before) : Stops (text ++ t) cause (text ++ before) := by
  obtain ⟨d, rest, ht⟩ := h.exists_append
  -- What is read before the stop begins with the character that follows the lexeme.
  have hbefore : ∀ more, before ≠ [] → Allows kind text (before ++ more) := by
    intro more hne
    obtain ⟨e, before', rfl⟩ := List.exists_cons_of_ne_nil hne
    subst ht
    exact hallows
  have hmarkup : ∀ more, (before = [] → more = []) → IsMarkup (before ++ more) →
      IsMarkup (text ++ (before ++ more)) := by
    intro more hmore hm
    refine .lexeme hkind ?_ hm
    by_cases hne : before = []
    · rw [hne, hmore hne]
      exact allows_nil _ _
    · exact hbefore more hne
  cases h with
  | @quote _ _ quote closing ht hq hrest hm =>
      by_cases hne : before = []
      · subst hne
        have hnone := hmarkup (List.replicate 0 ']') (fun _ => rfl) .nil
        exact .quote (by rw [ht, List.append_assoc]) hq hrest (by rwa [List.append_assoc])
      · have hsome := hmarkup (List.replicate closing ']') (fun h => absurd h hne) hm
        exact .quote (by rw [ht, List.append_assoc]) hq hrest (by rwa [List.append_assoc])
  | bracket ht hrest hm =>
      have hall := hmarkup [] (fun _ => rfl) (by rwa [List.append_nil])
      exact .bracket (by rw [ht, List.append_assoc]) hrest (by rwa [List.append_nil] at hall)
  | stray ht hc hrest hm =>
      have hall := hmarkup [] (fun _ => rfl) (by rwa [List.append_nil])
      exact .stray (by rw [ht, List.append_assoc]) hc hrest (by rwa [List.append_nil] at hall)

end Stops

/-- A text that does not begin with a lexeme stops there, or in its first word. -/
theorem stops_of_next?_error {c : Char} {rest : Text} {f : ScanFailure} (h : next? c rest = .error f) :
    ∃ before, f.2 = before.length ∧ Stops (c :: rest) f.1 before := by
  unfold next? at h
  by_cases hq : isQuote c = true
  · rw [if_pos hq] at h
    cases hs : scanQuoted c rest with
    | some p => simp [hs] at h
    | none =>
        simp only [hs, Except.error.injEq] at h
        subst h
        have hnil : IsMarkup ([] ++ List.replicate 0 ']') := .nil
        exact ⟨[], rfl, .quote rfl hq (not_mem_of_scanQuoted_eq_none hs) hnil⟩
  rw [if_neg hq] at h
  cases hs : separator? c with
  | some kind => simp [hs] at h
  | none =>
      simp only [hs] at h
      by_cases hw : rest.head?.any (isWideComparator c) = true
      · simp [hw] at h
      simp only [hw, if_false, Bool.false_eq_true, Bool.or_eq_true, decide_eq_true_eq] at h
      by_cases hc : c = '<' ∨ c = '>'
      · simp [hc] at h
      rw [if_neg hc] at h
      by_cases hd : isDelimiter c = true
      · rw [if_pos hd, Except.error.injEq] at h
        subst h
        -- Of the characters that end words, only these two begin neither a text, nor a separator, nor a comparator.
        have hstray : c = '=' ∨ c = '!' := by
          simp only [isDelimiter, hq, Bool.false_or, Bool.or_eq_true, beq_iff_eq] at hd
          simp only [separator?] at hs
          grind
        refine ⟨[], rfl, .stray rfl hstray ?_ .nil⟩
        intro hhead
        rcases hstray with rfl | rfl <;> simp [hhead, isWideComparator] at hw
      · rw [if_neg hd] at h
        cases hword : scanWord 0 .plain (c :: rest) with
        | ok p => simp [hword, Except.map] at h
        | error g =>
            simp only [hword, Except.map, Except.error.injEq] at h
            subst h
            obtain ⟨before, d, rest', ht, hpos, hfails⟩ := scanWord_plain_eq_error hword
            refine ⟨before, by rw [hpos, Nat.zero_add], ?_⟩
            generalize g.1 = cause at hfails ⊢
            cases hfails with
            | quote hquote hrest hw => exact .quote ht hquote hrest (.wordParts hw.wordParts)
            | bracket hd hrest hw =>
                subst hd
                exact .bracket ht hrest (.wordParts hw.wordParts)

/-- Where scanning fails, the text stops. -/
theorem stops_of_scanFrom_error {pos : Nat} {t : Text} {f : ScanFailure} (h : scanFrom pos t = .error f) :
    ∃ before, f.2 = pos + before.length ∧ Stops t f.1 before := by
  induction pos, t using scanFrom.induct with
  | case1 pos => simp [scanFrom] at h
  | case2 pos c t hb ih =>
      rw [scanFrom_blank _ _ hb] at h
      obtain ⟨before, hpos, hstops⟩ := ih h
      refine ⟨c :: before, ?_, hstops.blank hb⟩
      rw [hpos, List.length_cons]
      omega
  | case3 pos c t hb cause offset hn =>
      rw [scanFrom_failure _ (by simpa using hb) hn, Except.error.injEq] at h
      subst h
      obtain ⟨before, hpos, hstops⟩ := stops_of_next?_error hn
      exact ⟨before, by rw [← hpos], hstops⟩
  | case4 pos c t hb kind text after hn ih =>
      rw [Bool.not_eq_true] at hb
      rw [scanFrom_token _ hb hn] at h
      cases hs : scanFrom (pos + text.length) after with
      | ok tokens => simp [hs, Except.map] at h
      | error g =>
          simp only [hs, Except.map, Except.error.injEq] at h
          subst h
          obtain ⟨before, hpos, hstops⟩ := ih hs
          have hnext := next?_eq_ok_iff.1 hn
          refine ⟨text ++ before, ?_, ?_⟩
          · rw [hpos, List.length_append, Nat.add_assoc]
          · rw [next?_eq hn]
            exact hstops.lexeme (hnext.lexeme hb) hnext.allows

theorem scan_eq_error {t : Text} {e : SyntaxError} (h : scan t = .error e) :
    ∃ cause before, e = ⟨cause, some t, some before.length⟩ ∧ Stops t cause before := by
  unfold scan at h
  cases hs : scanFrom 0 t with
  | ok tokens => simp [hs, Except.mapError] at h
  | error f =>
      simp only [hs, Except.mapError, Except.error.injEq] at h
      subst h
      obtain ⟨before, hpos, hstops⟩ := stops_of_scanFrom_error hs
      rw [Nat.zero_add] at hpos
      exact ⟨f.1, before, by rw [hpos], hstops⟩

theorem exists_scan_eq_ok_iff {t : Text} : (∃ tokens, scan t = .ok tokens) ↔ IsMarkup t := by
  constructor
  · rintro ⟨tokens, h⟩
    obtain ⟨l, hl, ht, -⟩ := scan_eq_ok_iff_layout.1 h
    exact ⟨l, hl, ht⟩
  · rintro ⟨l, hl, rfl⟩
    exact ⟨l.tokens, scan_eq_ok_iff_layout.2 ⟨l, hl, rfl, rfl⟩⟩

theorem tokenize_eq_error_iff {t : Text} {e : SyntaxError} : tokenize t = .error e ↔ scan t = .error e := by
  rw [tokenize]
  cases scan t <;> simp [Except.map]

/-- **The tokens of a text are those of its one layout**, followed by the end of the text: they are slices of the
text, in order and with blanks between them.  A text without a layout is refused at the offset of a quote or a
bracket that is not closed, or of an equals or exclamation sign that belongs to no comparator. -/
theorem tokenize_iff_layout (t : Text) :
    (∀ tokens, tokenize t = .ok tokens ↔
      ∃ l : Layout, l.WellFormed ∧ l.text = t ∧ tokens = l.tokens ++ [⟨.finish, [], t.length⟩]) ∧
    ((∃ tokens, tokenize t = .ok tokens) ↔ ∃! l : Layout, l.WellFormed ∧ l.text = t) ∧
    (∀ l : Layout, l.WellFormed → l.text = t → Covers t l.tokens) ∧
    ((∃ e, tokenize t = .error e) ↔ ¬ ∃ l : Layout, l.WellFormed ∧ l.text = t) ∧
    ∀ e, tokenize t = .error e → ∃ cause before, e = ⟨cause, some t, some before.length⟩ ∧ Stops t cause before := by
  have hok : (∃ tokens, tokenize t = .ok tokens) ↔ IsMarkup t := by
    rw [← exists_scan_eq_ok_iff]
    simp [tokenize_eq_ok_iff_scan]
  refine ⟨?_, ?_, ?_, ?_, ?_⟩
  · intro tokens
    rw [tokenize_eq_ok_iff_scan]
    constructor
    · rintro ⟨scanned, hscan, rfl⟩
      obtain ⟨l, hl, ht, rfl⟩ := scan_eq_ok_iff_layout.1 hscan
      exact ⟨l, hl, ht, rfl⟩
    · rintro ⟨l, hl, ht, rfl⟩
      exact ⟨l.tokens, scan_eq_ok_iff_layout.2 ⟨l, hl, ht, rfl⟩, rfl⟩
  · rw [hok]
    constructor
    · rintro ⟨l, hl, ht⟩
      refine ⟨l, ⟨hl, ht⟩, ?_⟩
      rintro l' ⟨hl', ht'⟩
      exact Layout.ext_of_text hl' hl (ht'.trans ht.symm)
    · exact ExistsUnique.exists
  · rintro l hl rfl
    exact hl.covers
  · rw [← IsMarkup, ← hok]
    cases tokenize t <;> simp
  · intro e he
    exact scan_eq_error (tokenize_eq_error_iff.1 he)

end Liquid.Token
