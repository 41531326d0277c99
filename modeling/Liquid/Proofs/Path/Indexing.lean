import Liquid.Context
import Liquid.Filter.Standard
import Liquid.Proofs.Path.Navigation

/-!
# Variables as indices

A variable between brackets stands for an index or a key: its value is written in its place, a text between quotes.
Nothing in the text is escaped.  So a text without quotes and backslashes is a key like any other, but a text that
has the closing quote in it goes on as a path.

## Main statements

* `Operand.ofText_eq_path` — what begins with a letter and is no literal is a variable.
* `ScopeStack.bracketed_index_text` — the text of the index is put between quotes and read again.
* `Context.resolve_index` — a text without quotes and backslashes is the key of an entry.
* `Context.resolve_index_apostrophe` — a key with an apostrophe in it is not reached.
-/

namespace Liquid

namespace Operand

variable {c : Char} {t : Text}

theorem number?_eq_none (hminus : c ≠ '-') (hpoint : c ≠ '.') (hdecimal : Text.isDecimal c = false) :
    number? (c :: t) = none := by
  obtain ⟨piece, pieces, hpieces⟩ := Text.splitAtChar_head hpoint t
  have hdigits : isDigits (c :: piece) = false := by simp [isDigits, hdecimal]
  rw [number?, hpieces]
  · rcases pieces with _ | ⟨places, _ | ⟨_, _⟩⟩ <;> simp [hdigits]
  · intro rest he
    exact hminus (List.cons.inj he).1

/-- **A text that begins with a letter of any script, has no blank at its end and is no literal is a variable.**  What
matters of the letter is that it is behind the digits and the punctuation before them, no blank and no digit. -/
theorem ofText_eq_path (hlow : 64 ≤ c.toNat) (hblank : Text.isBlank c = false) (hdecimal : Text.isDecimal c = false)
    (hlast : ∀ d ∈ (c :: t).getLast?, Text.isBlank d = false) (hword : Value.ofWord? (c :: t) = none) :
    ofText (c :: t) = .path (c :: t) := by
  have hne : ∀ d : Char, d.toNat < 64 → c ≠ d := by
    rintro d hd rfl
    omega
  have hfirst : ∀ d ∈ (c :: t).head?, Text.isBlank d = false := by
    intro d hd
    obtain rfl : c = d := by simpa using hd
    exact hblank
  have hquoted : quotedBody? (c :: t) = none := by
    simp [quotedBody?, hne '\'' (by decide), hne '"' (by decide)]
  have hnumber : number? (c :: t) = none :=
    number?_eq_none (hne '-' (by decide)) (hne '.' (by decide)) hdecimal
  have hbounds : bounds? (c :: t) = none := by
    have hparen := hne '(' (by decide)
    unfold bounds?
    split
    · next he => exact absurd (List.cons.inj he).1 hparen
    · rfl
  rw [ofText, Text.strip_eq_self hfirst hlast, read]
  simp only [hword, hquoted, hnumber]
  split
  · next he => simp [hbounds] at he
  · rfl

end Operand

/-! ## Names between brackets -/

namespace Bracket

variable {name : Text} {c : Char}

theorem isNamePart_of_identifierPart (h : Text.isIdentifierPart c = true) (hascii : c.toNat < 128) :
    isNamePart c = true := by
  rw [Text.isIdentifierPart, Bool.or_eq_true, Text.isIdentifierStart, if_pos hascii, if_pos hascii,
    Bool.or_eq_true] at h
  rcases h with (h | h) | h
  · simp [isNamePart, Text.isAlphabetic, hascii, h]
  · simp [isNamePart, h]
  · simp [isNamePart, Text.isNumeric, Path.isDecimal_of_isDigit h]

theorem nameAt?_append (hname : Text.isIdentifier name = true) (hascii : ∀ c ∈ name, c.toNat < 128) (rest : Text) :
    nameAt? (name ++ ']' :: rest) = some (name, rest) := by
  cases name with
  | nil => simp at hname
  | cons c t =>
      simp only [Text.isIdentifier, Bool.and_eq_true, List.all_eq_true] at hname
      have hc := hascii c (by simp)
      have hstart : isNameStart c = true := by
        have hstart := hname.1
        rwa [Text.isIdentifierStart, if_pos hc] at hstart
      have hblank : Text.isBlank c = false := by
        have := Path.toNat_of_isNameStart (Path.isNameStart_of_identifierStart hname.1 hc)
        exact Path.isBlank_eq_false (by omega) hc
      have hparts : ∀ d ∈ t, isNamePart d = true := fun d hd =>
        isNamePart_of_identifierPart (hname.2 d hd) (hascii d (List.mem_cons_of_mem c hd))
      have hclose : ∀ d ∈ (']' :: rest).head?, isNamePart d = false := by
        intro d hd
        obtain rfl : ']' = d := by simpa using hd
        decide
      obtain ⟨htake, hdrop⟩ := Path.Symbol.takeWhile_append_stop hparts hclose
      have hbracket : Text.isBlank ']' = false := by decide
      rw [nameAt?, List.cons_append, Text.dropBlanks_eq_self (by simpa using hblank)]
      simp [hstart, htake, hdrop, Text.dropBlanks, hbracket]

/-- An identifier between brackets is a name to be replaced. -/
theorem fragments_index {root : Text} (hroot : '[' ∉ root) (hname : Text.isIdentifier name = true)
    (hascii : ∀ c ∈ name, c.toNat < 128) :
    fragments (root ++ '[' :: (name ++ [']'])) = root.map .character ++ [.name name] := by
  rw [fragments_append hroot, fragments_name (nameAt?_append hname hascii []), fragments]

end Bracket

namespace ScopeStack

open Liquid.Path

variable {strict : Bool} {s : ScopeStack} {root name t : Text}

/-- A text is written between quotes as it is. -/
theorem expand_text (hname : Text.isIdentifier name = true) (hword : Value.ofWord? name = none)
    (hv : s.lookup name = some (.text t)) : s.expand strict (.name name) = .ok ('[' :: '\'' :: (t ++ ['\'', ']'])) := by
  have hpoint : '.' ∉ name := not_mem_of_isIdentifier hname (by decide)
  have hvalue : s.indexValue strict name = .ok (.text t) := by
    rw [indexValue, hword]
    exact dotted_eq strict (Text.splitAtChar_of_not_mem hpoint) (by rw [hv]; rfl)
  rw [expand, hvalue]
  simp [bind, Except.bind, Bracket.written, pure, Except.pure]

/-- What a name between brackets stands for is written behind the root. -/
theorem expanded_index (hroot : '[' ∉ root) (hname : Text.isIdentifier name = true)
    (hascii : ∀ c ∈ name, c.toNat < 128) :
    s.expanded strict (root ++ '[' :: (name ++ [']'])) = (s.expand strict (.name name)).map (root ++ ·) := by
  rw [expanded, Bracket.fragments_index hroot hname hascii, List.mapM_append, expand_characters, List.mapM_cons]
  cases s.expand strict (.name name) <;>
    simp [bind, Except.bind, pure, Except.pure, Except.map, ← List.flatMap_def]

/-- **What is written for a name between brackets is a part of the path** that the engine is asked. -/
theorem bracketed_index {e : PathEngine} {written : Text} {v : Value} (hroot : Text.isIdentifier root = true)
    (hname : Text.isIdentifier name = true) (hascii : ∀ c ∈ name, c.toNat < 128)
    (hindex : s.expand strict (.name name) = .ok written) (hv : s.lookup root = some v) :
    s.bracketed e strict (root ++ '[' :: (name ++ [']'])) =
      reached strict (root ++ '[' :: (name ++ [']'])) ((s.home root).select (root ++ written) e) := by
  have hbracket : '[' ∉ root := not_mem_of_isIdentifier hroot (by decide)
  have hfirst : Bracket.root (root ++ '[' :: (name ++ [']'])) = root := by
    refine Bracket.root_append hroot ?_
    intro c hc
    exact .inr (by simpa using hc.symm)
  have hexpanded : s.expanded strict (root ++ '[' :: (name ++ [']'])) = .ok (root ++ written) := by
    rw [expanded_index hbracket hname hascii, hindex]
    rfl
  exact bracketed_of_expanded hfirst hexpanded hv

/-- **A text that a name between brackets stands for is put between quotes and read again**: the engine is asked the
same path as if the text had been written there. -/
theorem bracketed_index_text {e : PathEngine} {v : Value} (hroot : Text.isIdentifier root = true)
    (hname : Text.isIdentifier name = true) (hascii : ∀ c ∈ name, c.toNat < 128) (hword : Value.ofWord? name = none)
    (ht : s.lookup name = some (.text t)) (hv : s.lookup root = some v) :
    s.bracketed e strict (root ++ '[' :: (name ++ [']'])) = reached strict (root ++ '[' :: (name ++ [']']))
      ((s.home root).select (spelling root [.key t]) e) := by
  rw [bracketed_index hroot hname hascii (expand_text hname hword ht) hv]
  simp [spelling, Step.texts, Step.text]

end ScopeStack

namespace Context

open Liquid.Path

/-- What is no part of an identifier is in none of the words that are no names. -/
theorem ofWord?_eq_none {t : Text} {d : Char} (hd : Text.isIdentifierPart d = false) (h : d ∈ t) :
    Value.ofWord? t = none := by
  have hne : ∀ w : Text, Text.isIdentifier w = true → t ≠ w := by
    rintro w hw rfl
    exact not_mem_of_isIdentifier hw hd h
  rw [Value.ofWord?, if_neg, if_neg, if_neg]
  · exact hne _ (by decide)
  · exact hne _ (by decide)
  · simp only [Bool.or_eq_true, decide_eq_true_eq, not_or]
    exact ⟨⟨List.ne_nil_of_mem h, hne _ (by decide)⟩, hne _ (by decide)⟩

/-- **An operand that begins with a plain name** is a variable, if it has no blank at its end and is no literal. -/
theorem resolve_eq_valueOf {c : Context} {root rest : Text} (hroot : Text.isIdentifier root = true)
    (hplain : isPlainName root = true) (hlast : ∀ d ∈ (root ++ rest).getLast?, Text.isBlank d = false)
    (hword : Value.ofWord? (root ++ rest) = none) : c.resolve (root ++ rest) = c.valueOf (root ++ rest) := by
  cases root with
  | nil => simp at hroot
  | cons d root =>
      obtain ⟨hd, -, -⟩ := plainName_parts hroot hplain
      rw [List.cons_append] at hlast hword ⊢
      obtain ⟨hlow, hhigh⟩ := toNat_of_isNameStart hd
      have hblank := isBlank_eq_false (by omega) hhigh
      rw [resolve, ScopeStack.resolve, Operand.ofText_eq_path hlow hblank (isDecimal_of_isNameStart hd) hlast hword]
      rfl

/-- An operand that begins with a plain name and has a bracket in it is a variable with brackets. -/
theorem resolve_of_isPlainName {c : Context} {root rest : Text} (hroot : Text.isIdentifier root = true)
    (hplain : isPlainName root = true) (hbracket : '[' ∈ rest) (hlast : rest.getLast? = some ']') :
    c.resolve (root ++ rest) = c.scopes.bracketed c.engine c.config.isStrict (root ++ rest) := by
  have hmem : '[' ∈ root ++ rest := List.mem_append_right root hbracket
  have hblank : ∀ d ∈ (root ++ rest).getLast?, Text.isBlank d = false := by
    intro d hd
    rw [List.getLast?_append, hlast] at hd
    obtain rfl : ']' = d := by simpa using hd
    decide
  rw [resolve_eq_valueOf hroot hplain hblank (ofWord?_eq_none (by decide) hmem), valueOf, ScopeStack.valueOf,
    if_pos (by simpa using hmem)]

/-- **A variable as an index is a key**, if its value has no quote and no backslash in it and is not the star. -/
theorem resolve_index {c : Context} {root name t : Text} {entries : List (Value × Value)}
    (hengine : c.engine.SelectsEntries) (hroot : Text.isIdentifier root = true) (hplain : isPlainName root = true)
    (hname : Text.isIdentifier name = true) (hascii : ∀ c ∈ name, c.toNat < 128) (hword : Value.ofWord? name = none)
    (hv : c.scopes.lookup root = some (.mapping entries)) (ht : c.scopes.lookup name = some (.text t))
    (hquote : '\'' ∉ t) (hescape : '\\' ∉ t) (hstar : t ≠ ['*']) :
    c.resolve (root ++ '[' :: (name ++ [']'])) =
      match Value.lookupText t entries with
      | some v => .ok v
      | none => ScopeStack.undefined c.config.isStrict (root ++ '[' :: (name ++ [']'])) := by
  have hlast : ('[' :: (name ++ [']'])).getLast? = some ']' := by
    rw [← List.cons_append, List.getLast?_concat]
  have hkey : (Step.key t).WellFormed := ⟨hquote, hescape, hstar⟩
  rw [resolve_of_isPlainName hroot hplain (by simp) hlast,
    ScopeStack.bracketed_index_text hroot hname hascii hword ht hv,
    ScopeStack.select_key hengine hroot hplain hkey hv]
  cases Value.lookupText t entries <;> rfl

/-- The entry of a mapping with the key `a`. -/
theorem resolve_index_letter :
    let c : Context := ⟨.single [(['m'], .mapping [(.text ['a'], .int 1)]), (['v'], .text ['a'])],
      .standard ⟨2024, 2, 29, 0, 0, 0, 0, none⟩, {}⟩
    c.resolve "m[v]".toList = .ok (.int 1) := by
  intro c
  have hfound : Value.lookupText ['a'] [(.text ['a'], .int 1)] = some (.int 1) := by
    simp [Value.lookupText, Value.lookupKey, Value.found_text]
  have hv : c.scopes.lookup ['m'] = some (.mapping [(.text ['a'], .int 1)]) := rfl
  have ht : c.scopes.lookup ['v'] = some (.text ['a']) := rfl
  have hword : Value.ofWord? ['v'] = none := by
    rw [Value.ofWord?, if_neg (by decide), if_neg (by decide), if_neg (by decide)]
  have hascii : ∀ c ∈ ['v'], c.toNat < 128 := List.forall_mem_singleton.2 (by decide)
  have h := resolve_index (c := c) PathEngine.selectsEntries_standard (by decide) (by decide) (by decide) hascii hword
    hv ht (by decide) (by decide) (by decide)
  rw [hfound] at h
  exact h

/-- The entry with the key `it's` is not reached by a variable that has this value: the apostrophe ends the key. -/
theorem resolve_index_apostrophe :
    let key : Text := ['i', 't', '\'', 's']
    let entries : List (Value × Value) := [(.text key, .int 1)]
    let c : Context := ⟨.single [(['m'], .mapping entries), (['v'], .text key)],
      .standard ⟨2024, 2, 29, 0, 0, 0, 0, none⟩, {}⟩
    c.scopes.lookup ['m'] = some (.mapping entries) ∧ c.scopes.lookup ['v'] = some (.text key) ∧
      Value.lookupText key entries = some (.int 1) ∧ c.resolve "m[v]".toList ≠ .ok (.int 1) := by
  intro key entries c
  have hfound : Value.lookupText key entries = some (.int 1) := by
    simp [entries, Value.lookupText, Value.lookupKey, Value.found_text]
  have hrefused : (c.resolve "m[v]".toList).isOk = false := by decide +kernel
  refine ⟨rfl, rfl, hfound, ?_⟩
  intro h
  rw [h] at hrefused
  exact absurd hrefused (by decide)

end Context

end Liquid
