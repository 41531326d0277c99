import Liquid.Error
import Liquid.Text.Basic

/-!
# Tokens of markup

The markup inside a tag or an output is a sequence of tokens with blanks between them: quoted texts,
separators, comparators and words.  A word is everything up to a blank or a delimiter; in brackets, which nest,
it may hold any character, and a quoted text in brackets is passed over as a whole.

## Main definitions

* `Token` — a kind, the text of the token, and its offset.
* `Token.next?` — the token at the head of a text.
* `Token.scan` — the tokens of a text.

## Main statements

* `Token.next?_eq` — a token followed by the text after it is the text that was read.
* `Token.next?_ne_nil` — a token has at least one character, so that scanning ends.
-/

namespace Liquid

/-- The kinds of tokens. -/
inductive TokenKind
  | quoted
  | word
  | comparator
  | pipe
  | comma
  | colon
  /-- The end of the markup. -/
  | finish
  deriving DecidableEq

/-- A token: its kind, its text as it is written, and the offset of its first character. -/
structure Token where
  kind : TokenKind
  text : Text
  position : Nat
  deriving DecidableEq

namespace TokenKind

/-- The name of a kind. -/
def name : TokenKind → Text
  | quoted => "STRING".toList
  | word => "WORD".toList
  | comparator => "COMPARATOR".toList
  | pipe => "PIPE".toList
  | comma => "COMMA".toList
  | colon => "COLON".toList
  | finish => "EOF".toList

/-- Quoted texts and words stand for values. -/
def isOperand : TokenKind → Bool
  | quoted | word => true
  | _ => false

end TokenKind

/-- A quote opens and closes a text. -/
def isQuote (c : Char) : Bool := c == '\'' || c == '"'

/-- A character that ends a word. -/
def isDelimiter (c : Char) : Bool :=
  isQuote c || c == '|' || c == ',' || c == ':' || c == '=' || c == '!' || c == '<' || c == '>'

namespace Token

/-- The offset of the first character after a token. -/
def stop (t : Token) : Nat := t.position + t.text.length

/-- Quoted texts and words stand for values. -/
def isOperand (t : Token) : Bool := t.kind.isOperand

/-- A token as it is shown. -/
def shown (t : Token) : Text :=
  "Token(".toList ++ t.kind.name ++ ", '".toList ++ t.text ++ "', pos=".toList ++ Text.ofNat t.position
    ++ [')']

/-! ## One token -/

/-- Where the scan of a word stands: outside brackets, `depth + 1` brackets deep in a group that was opened
at `opened`, or there in a text quoted by `quote` from `start` on. -/
inductive WordState
  | plain
  | bracket (depth opened : Nat)
  | quoted (quote : Char) (start depth opened : Nat)

/-- A failure of the scan and its offset. -/
abbrev ScanFailure := SyntaxCause × Nat

/-- A text cut in two, with one more character in front of the first part. -/
def prepend (c : Char) (parts : Except ScanFailure (Text × Text)) : Except ScanFailure (Text × Text) :=
  parts.map fun p => (c :: p.1, p.2)

/-- The rest of a word, and the text after it, from the character with the offset `pos` on. -/
def scanWord (pos : Nat) : WordState → Text → Except ScanFailure (Text × Text)
  | .plain, [] => .ok ([], [])
  | .bracket _ opened, [] => .error (.unterminatedBracket, opened)
  | .quoted _ start _ _, [] => .error (.unterminatedString, start)
  | .plain, c :: rest =>
    if Text.isBlank c || isDelimiter c then .ok ([], c :: rest)
    else prepend c (scanWord (pos + 1) (if c = '[' then .bracket 0 pos else .plain) rest)
  | .bracket depth opened, c :: rest =>
    prepend c <| scanWord (pos + 1)
      (if isQuote c then .quoted c pos depth opened
        else if c = '[' then .bracket (depth + 1) opened
        else if c = ']' then
          match depth with
          | 0 => .plain
          | depth + 1 => .bracket depth opened
        else .bracket depth opened)
      rest
  | .quoted quote start depth opened, c :: rest =>
    prepend c <| scanWord (pos + 1)
      (if c = quote then .bracket depth opened else .quoted quote start depth opened) rest

/-- The rest of a text quoted by `quote`, its closing quote included, and the text after it. -/
def scanQuoted (quote : Char) : Text → Option (Text × Text)
  | [] => none
  | c :: rest =>
    if c = quote then some ([c], rest) else (scanQuoted quote rest).map fun p => (c :: p.1, p.2)

/-- The kind of a separator. -/
def separator? (c : Char) : Option TokenKind :=
  if c = '|' then some .pipe else if c = ',' then some .comma else if c = ':' then some .colon else none

/-- A comparator of two characters. -/
def isWideComparator (c d : Char) : Bool :=
  (d == '=' && (c == '=' || c == '!' || c == '<' || c == '>')) || (c == '<' && d == '>')

/-- The comparator that is written as a word. -/
def containsWord : Text := "contains".toList

/-- The token that begins with `c`, which is no blank, its text, and the text after it.  Offsets of failures
count from `c`. -/
def next? (c : Char) (rest : Text) : Except ScanFailure (TokenKind × Text × Text) :=
  if isQuote c then
    match scanQuoted c rest with
    | some (body, after) => .ok (.quoted, c :: body, after)
    | none => .error (.unterminatedString, 0)
  else
    match separator? c with
    | some kind => .ok (kind, [c], rest)
    | none =>
      let wide := rest.head?.any (isWideComparator c)
      if wide then .ok (.comparator, c :: rest.take 1, rest.drop 1)
      else if c = '<' || c = '>' then .ok (.comparator, [c], rest)
      else if isDelimiter c then .error (.unexpectedCharacter c, 0)
      else
        (scanWord 0 .plain (c :: rest)).map fun p =>
          (if p.1 = containsWord then .comparator else .word, p.1, p.2)

/-! ## A token and the text after it -/

theorem scanQuoted_eq {quote : Char} {t body after : Text} (h : scanQuoted quote t = some (body, after)) :
    t = body ++ after := by
  induction t generalizing body after with
  | nil => simp [scanQuoted] at h
  | cons c rest ih =>
    unfold scanQuoted at h
    split at h
    · simp only [Option.some.injEq, Prod.mk.injEq] at h
      obtain ⟨rfl, rfl⟩ := h
      rfl
    · obtain ⟨⟨b, a⟩, hp, he⟩ := Option.map_eq_some_iff.1 h
      simp only [Prod.mk.injEq] at he
      obtain ⟨rfl, rfl⟩ := he
      rw [ih hp]
      rfl

theorem prepend_eq_ok {c : Char} {parts : Except ScanFailure (Text × Text)} {w after : Text}
    (h : prepend c parts = .ok (w, after)) : ∃ w', w = c :: w' ∧ parts = .ok (w', after) := by
  unfold prepend at h
  cases parts with
  | error e => simp [Except.map] at h
  | ok p =>
    simp only [Except.map, Except.ok.injEq, Prod.mk.injEq] at h
    exact ⟨p.1, h.1.symm, by rw [← h.2]⟩

theorem scanWord_eq {pos : Nat} {state : WordState} {t w after : Text}
    (h : scanWord pos state t = .ok (w, after)) : t = w ++ after := by
  induction t generalizing pos state w after with
  | nil => cases state <;> simp_all [scanWord]
  | cons c rest ih =>
    cases state with
    | plain =>
      unfold scanWord at h
      split at h
      · simp only [Except.ok.injEq, Prod.mk.injEq] at h
        obtain ⟨rfl, rfl⟩ := h
        rfl
      · obtain ⟨w', rfl, hw⟩ := prepend_eq_ok h
        rw [ih hw]
        rfl
    | bracket depth opened =>
      obtain ⟨w', rfl, hw⟩ := prepend_eq_ok (by simpa only [scanWord] using h)
      rw [ih hw]
      rfl
    | quoted quote start depth opened =>
      obtain ⟨w', rfl, hw⟩ := prepend_eq_ok (by simpa only [scanWord] using h)
      rw [ih hw]
      rfl

theorem scanWord_plain_ne_nil {pos : Nat} {c : Char} {rest w after : Text} (hb : Text.isBlank c = false)
    (hd : isDelimiter c = false) (h : scanWord pos .plain (c :: rest) = .ok (w, after)) : w ≠ [] := by
  unfold scanWord at h
  simp only [hb, hd, Bool.or_self, Bool.false_eq_true, ↓reduceIte] at h
  obtain ⟨w', rfl, _⟩ := prepend_eq_ok h
  simp

/-- A token followed by the text after it is the text that was read. -/
theorem next?_eq {c : Char} {rest : Text} {kind : TokenKind} {text after : Text}
    (h : next? c rest = .ok (kind, text, after)) : c :: rest = text ++ after := by
  unfold next? at h
  split at h
  · split at h
    · next hs =>
      simp only [Except.ok.injEq, Prod.mk.injEq] at h
      obtain ⟨_, rfl, rfl⟩ := h
      rw [scanQuoted_eq hs]
      rfl
    · simp at h
  · split at h
    · simp only [Except.ok.injEq, Prod.mk.injEq] at h
      obtain ⟨_, rfl, rfl⟩ := h
      rfl
    · simp only at h
      split at h
      · simp only [Except.ok.injEq, Prod.mk.injEq] at h
        obtain ⟨_, rfl, rfl⟩ := h
        rw [List.cons_append, List.take_append_drop]
      · split at h
        · simp only [Except.ok.injEq, Prod.mk.injEq] at h
          obtain ⟨_, rfl, rfl⟩ := h
          rfl
        · split at h
          · simp at h
          · cases hs : scanWord 0 .plain (c :: rest) with
            | error e => rw [hs] at h; simp [Except.map] at h
            | ok p =>
              rw [hs] at h
              simp only [Except.map, Except.ok.injEq, Prod.mk.injEq] at h
              obtain ⟨_, rfl, rfl⟩ := h
              exact scanWord_eq hs

/-- A token has at least one character. -/
theorem next?_ne_nil {c : Char} {rest : Text} {kind : TokenKind} {text after : Text}
    (hb : Text.isBlank c = false) (h : next? c rest = .ok (kind, text, after)) : text ≠ [] := by
  unfold next? at h
  split at h
  · split at h
    · simp only [Except.ok.injEq, Prod.mk.injEq] at h
      obtain ⟨_, rfl, _⟩ := h
      simp
    · simp at h
  · split at h
    · simp only [Except.ok.injEq, Prod.mk.injEq] at h
      obtain ⟨_, rfl, _⟩ := h
      simp
    · simp only at h
      split at h
      · simp only [Except.ok.injEq, Prod.mk.injEq] at h
        obtain ⟨_, rfl, _⟩ := h
        simp
      · split at h
        · simp only [Except.ok.injEq, Prod.mk.injEq] at h
          obtain ⟨_, rfl, _⟩ := h
          simp
        · split at h
          · simp at h
          · next hd =>
            cases hs : scanWord 0 .plain (c :: rest) with
            | error e => rw [hs] at h; simp [Except.map] at h
            | ok p =>
              rw [hs] at h
              simp only [Except.map, Except.ok.injEq, Prod.mk.injEq] at h
              obtain ⟨_, rfl, rfl⟩ := h
              exact scanWord_plain_ne_nil hb (by simpa using hd) hs

theorem length_after_lt {c : Char} {rest : Text} {kind : TokenKind} {text after : Text}
    (hb : Text.isBlank c = false) (h : next? c rest = .ok (kind, text, after)) :
    after.length < (c :: rest).length := by
  have hne := next?_ne_nil hb h
  rw [next?_eq h, List.length_append]
  have := List.length_pos_iff.2 hne
  omega

/-! ## All tokens -/

/-- The tokens of a text whose first character has the offset `pos`. -/
def scanFrom (pos : Nat) : Text → Except ScanFailure (List Token)
  | [] => .ok []
  | c :: rest =>
    if hb : Text.isBlank c = true then scanFrom (pos + 1) rest
    else
      match _h : next? c rest with
      | .error (cause, offset) => .error (cause, pos + offset)
      | .ok (kind, text, after) =>
        (scanFrom (pos + text.length) after).map (⟨kind, text, pos⟩ :: ·)
  termination_by t => t.length
  decreasing_by
    · simp
    · exact length_after_lt (by simpa using hb) _h

/-- The tokens of a text. -/
def scan (t : Text) : Except SyntaxError (List Token) :=
  (scanFrom 0 t).mapError fun f => ⟨f.1, some t, some f.2⟩

/-- The token that stands for the end of a text. -/
def atEnd (t : Text) : Token := ⟨.finish, [], t.length⟩

/-- The tokens of a text, followed by its end. -/
def tokenize (t : Text) : Except SyntaxError (List Token) := (scan t).map (· ++ [atEnd t])

/-- The source of a run of tokens: the text from the first to the last of them. -/
def source (t : Text) (tokens : List Token) : Text :=
  match tokens.head?, tokens.getLast? with
  | some first, some last => (t.drop first.position).take (last.stop - first.position)
  | _, _ => []

end Token
end Liquid
