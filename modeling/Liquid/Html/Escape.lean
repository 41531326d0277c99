import Liquid.Html.NamedReference
import Liquid.Number.Numeral

/-!
# Escaping for HTML

`escape` writes the five characters that have a meaning in HTML as character references.  `unescape?` replaces
every character reference by what it stands for: numeric ones by their number, named ones by the longest
name that begins there.

## Main definitions

* `escape`, `unescape?`
* `Reference.read?` — a reference at the head of a text.

## Main statements

* `safe_escape` — no angle bracket and no quote is left.
-/

namespace Liquid.Html

/-- A character as it is written in HTML text. -/
def escapeChar (c : Char) : Text :=
  if c = '&' then "&amp;".toList
  else if c = '<' then "&lt;".toList
  else if c = '>' then "&gt;".toList
  else if c = '"' then "&quot;".toList
  else if c = '\'' then "&#x27;".toList
  else [c]

/-- A text as it is written in HTML. -/
def escape (t : Text) : Text := t.flatMap escapeChar

/-- A character reference, without its ampersand. -/
inductive Reference
  /-- A number in decimal. -/
  | decimal (digits : Text)
  /-- A number in hexadecimal. -/
  | hexadecimal (digits : Text)
  /-- A name, with its semicolon if it has one. -/
  | named (name : Text)
  deriving DecidableEq

namespace Reference

/-- A character that may stand in a name. -/
def isNameChar (c : Char) : Bool :=
  !(c == '\t' || c == '\n' || c.toNat == 12 || c == ' ' || c == '<' || c == '&' || c == '#' || c == ';')

/-- A hexadecimal digit. -/
def isHexDigit (c : Char) : Bool :=
  c.isDigit || ('a' ≤ c && c ≤ 'f') || ('A' ≤ c && c ≤ 'F')

/-- A semicolon at the head of a text, and the text after it. -/
def semicolon : Text → Text × Text
  | ';' :: rest => ([';'], rest)
  | t => ([], t)

/-- The reference whose text after the ampersand begins `t`, and the text after it.  A name has at most 32
characters before its semicolon. -/
def read? : Text → Option (Reference × Text)
  | '#' :: rest =>
    let digits := rest.takeWhile Char.isDigit
    if digits ≠ [] then some (.decimal digits, (semicolon (rest.dropWhile Char.isDigit)).2)
    else
      match rest with
      | x :: rest =>
        let digits := rest.takeWhile isHexDigit
        if (x = 'x' ∨ x = 'X') ∧ digits ≠ [] then
          some (.hexadecimal digits, (semicolon (rest.dropWhile isHexDigit)).2)
        else none
      | [] => none
  | t =>
    let name := (t.takeWhile isNameChar).take 32
    let (close, after) := semicolon (t.drop name.length)
    if name ≠ [] then some (.named (name ++ close), after) else none

/-- What a number stands for. -/
def ofNumber (n : Nat) : Text :=
  match replacedNumbers.lookup n with
  | some c => [Char.ofNat c]
  | none =>
    if (0xD800 ≤ n ∧ n ≤ 0xDFFF) ∨ 0x10FFFF < n then [Char.ofNat 0xFFFD]
    else if droppedNumbers.any fun i => i.1 ≤ n && n ≤ i.2 then []
    else [Char.ofNat n]

/-- What the longest beginning of `name` with at most `length` characters that is a name stands for, followed
by the characters after that beginning. -/
def longestName (name : Text) : (length : Nat) → Text
  | 0 => '&' :: name
  | length + 1 =>
    if length = 0 then '&' :: name
    else
      match lookupName (name.take (length + 1)) with
      | some t => t ++ name.drop (length + 1)
      | none => longestName name length

/-- What a reference stands for; nothing if its number has too many digits to be read. -/
def text? : Reference → Option Text
  | decimal digits =>
    if Numeral.maxDigits < digits.length then none
    else some (ofNumber (digits.foldl (fun n c => 10 * n + (c.toNat - '0'.toNat)) 0))
  | hexadecimal digits => some (ofNumber (ofHex digits))
  | named name =>
    match lookupName name with
    | some t => some t
    | none => some (longestName name (name.length - 1))

theorem semicolon_length_le (t : Text) : (semicolon t).2.length ≤ t.length := by
  unfold semicolon
  split <;> simp

theorem semicolon_dropWhile_length_le (p : Char → Bool) (t : Text) :
    (semicolon (t.dropWhile p)).2.length ≤ t.length :=
  Nat.le_trans (semicolon_length_le _) (Text.length_dropWhile_le p t)

/-- A reference takes at least one character. -/
theorem read?_length_lt {t : Text} {r : Reference} {after : Text} (h : read? t = some (r, after)) :
    after.length < t.length := by
  unfold read? at h
  split at h
  · simp only at h
    split at h
    · obtain ⟨rfl, rfl⟩ := Prod.mk.inj (Option.some.inj h)
      exact Nat.lt_succ_of_le (semicolon_dropWhile_length_le _ _)
    · split at h
      · split at h
        · obtain ⟨rfl, rfl⟩ := Prod.mk.inj (Option.some.inj h)
          exact Nat.lt_succ_of_lt (Nat.lt_succ_of_le (semicolon_dropWhile_length_le _ _))
        · simp at h
      · simp at h
  · simp only at h
    split at h
    · next hname =>
      obtain ⟨rfl, rfl⟩ := Prod.mk.inj (Option.some.inj h)
      have hle := semicolon_length_le (t.drop ((t.takeWhile isNameChar).take 32).length)
      have hpos : 0 < ((t.takeWhile isNameChar).take 32).length := List.length_pos_iff.2 hname
      have hsub : ((t.takeWhile isNameChar).take 32).length ≤ t.length :=
        ((List.take_sublist _ _).trans (List.takeWhile_sublist _)).length_le
      rw [List.length_drop] at hle
      omega
    · simp at h

end Reference

/-- A text with every character reference replaced by what it stands for; none if a reference cannot be
read. -/
def unescape? : Text → Option Text
  | [] => some []
  | c :: rest =>
    if c = '&' then
      match _h : Reference.read? rest with
      | some (r, after) => do return (← r.text?) ++ (← unescape? after)
      | none => (unescape? rest).map (c :: ·)
    else (unescape? rest).map (c :: ·)
  termination_by t => t.length
  decreasing_by
    · exact Nat.lt_succ_of_lt (Reference.read?_length_lt _h)
    · simp
    · simp

/-! ## First facts -/

@[simp] theorem escape_nil : escape [] = [] := rfl

/-- A character that can end an HTML text or an attribute. -/
def isUnsafe (c : Char) : Bool := c == '<' || c == '>' || c == '"' || c == '\''

theorem safe_escapeChar (c : Char) : ∀ d ∈ escapeChar c, isUnsafe d = false := by
  have hall : (escapeChar c).all (fun d => !isUnsafe d) = true := by
    unfold escapeChar
    split
    · decide
    · split
      · decide
      · split
        · decide
        · split
          · decide
          · split
            · decide
            · simp [isUnsafe, *]
  intro d hd
  have hsafe := List.all_eq_true.1 hall d hd
  rwa [Bool.not_eq_true'] at hsafe

/-- No angle bracket and no quote is left after escaping. -/
theorem safe_escape (t : Text) : ∀ d ∈ escape t, isUnsafe d = false := by
  intro d hd
  obtain ⟨c, _, hc⟩ := List.mem_flatMap.1 hd
  exact safe_escapeChar c d hc

end Liquid.Html
