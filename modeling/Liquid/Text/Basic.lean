/-!
# Texts

A text is a list of characters, so that every scanner of this library is a recursion on it and every offset
counts characters.  This module holds the operations that have nothing to do with a particular notation:
blanks, trimming, searching, cutting at a separator.

## Main statements

* `length_dropBlanks_le` — leaving out leading blanks never lengthens a text.
* `splitAtChar_append` — texts with a separator between them are cut there.
* `strip_eq_self` — a text without blanks at its ends is left as it is.
-/

namespace Liquid

/-- A text: its characters, in order. -/
abbrev Text := List Char

namespace Text

/-- White space: the blanks, line ends and separators of all scripts. -/
def isBlank (c : Char) : Bool :=
  let n := c.toNat
  (0x09 ≤ n && n ≤ 0x0D) || (0x1C ≤ n && n ≤ 0x20) || n == 0x85 || n == 0xA0 || n == 0x1680 ||
    (0x2000 ≤ n && n ≤ 0x200A) || n == 0x2028 || n == 0x2029 || n == 0x202F || n == 0x205F || n == 0x3000

/-- A text without its leading blanks. -/
def dropBlanks (t : Text) : Text := t.dropWhile isBlank

/-- A text without blanks at either end. -/
def strip (t : Text) : Text := (dropBlanks (dropBlanks t).reverse).reverse

/-- Whether `t` begins with `p`. -/
def startsWith (p t : Text) : Bool := p.isPrefixOf t

/-- Whether `needle` occurs in `hay` as a run of consecutive characters. -/
def occursIn (needle : Text) : Text → Bool
  | [] => needle.isEmpty
  | c :: rest => startsWith needle (c :: rest) || occursIn needle rest

/-- The pieces of a text between the occurrences of `separator`; there is always at least one. -/
def splitAtChar (separator : Char) : Text → List Text
  | [] => [[]]
  | c :: rest =>
    if c = separator then [] :: splitAtChar separator rest
    else
      match splitAtChar separator rest with
      | [] => [[c]]
      | piece :: pieces => (c :: piece) :: pieces

/-- Texts put together with `glue` between neighbours. -/
def join (glue : Text) : List Text → Text
  | [] => []
  | [t] => t
  | t :: rest => t ++ glue ++ join glue rest

/-- The text `t`, widened with `pad` on the left to at least `width` characters. -/
def padLeft (width : Nat) (pad : Char) (t : Text) : Text :=
  List.replicate (width - t.length) pad ++ t

/-- The decimal digits of a natural number. -/
def ofNat (n : Nat) : Text := Nat.toDigits 10 n

/-- A whole number in decimal, with a sign when it is negative. -/
def ofInt : Int → Text
  | .ofNat n => ofNat n
  | .negSucc n => '-' :: ofNat (n + 1)

/-- The order of texts by code points: a proper beginning comes first, otherwise the first difference
decides. -/
def precedes : Text → Text → Bool
  | _, [] => false
  | [], _ :: _ => true
  | a :: s, b :: t => decide (a.toNat < b.toNat) || (a == b && precedes s t)

/-- Texts in the order of their code points. -/
def sorted (ts : List Text) : List Text := ts.mergeSort fun s t => !precedes t s

/-! ## First facts -/

@[simp] theorem dropBlanks_nil : dropBlanks [] = [] := rfl

theorem length_dropWhile_le {α : Type} (p : α → Bool) (l : List α) : (l.dropWhile p).length ≤ l.length :=
  (List.dropWhile_sublist p).length_le

theorem length_dropBlanks_le (t : Text) : (dropBlanks t).length ≤ t.length :=
  length_dropWhile_le isBlank t

theorem splitAtChar_ne_nil (separator : Char) (t : Text) : splitAtChar separator t ≠ [] := by
  cases t with
  | nil => simp [splitAtChar]
  | cons c rest =>
    unfold splitAtChar
    split
    · simp
    · split <;> simp

theorem splitAtChar_cons_self (separator : Char) (t : Text) :
    splitAtChar separator (separator :: t) = [] :: splitAtChar separator t := by
  rw [splitAtChar, if_pos rfl]

theorem splitAtChar_cons_of_ne {separator c : Char} {t piece : Text} {pieces : List Text} (hc : c ≠ separator)
    (ht : splitAtChar separator t = piece :: pieces) :
    splitAtChar separator (c :: t) = (c :: piece) :: pieces := by
  rw [splitAtChar, if_neg hc, ht]

/-- Texts with a separator between them are cut there. -/
theorem splitAtChar_append (separator : Char) (t u : Text) :
    splitAtChar separator (t ++ separator :: u) = splitAtChar separator t ++ splitAtChar separator u := by
  induction t with
  | nil => exact splitAtChar_cons_self separator u
  | cons c t ih =>
    by_cases hc : c = separator
    · subst hc
      rw [List.cons_append, splitAtChar_cons_self, splitAtChar_cons_self, ih]
      rfl
    · cases ht : splitAtChar separator t with
      | nil => exact absurd ht (splitAtChar_ne_nil separator t)
      | cons piece pieces =>
        rw [ht] at ih
        rw [List.cons_append, splitAtChar_cons_of_ne hc ih, splitAtChar_cons_of_ne hc ht]
        rfl

theorem splitAtChar_of_not_mem {separator : Char} {t : Text} (h : separator ∉ t) : splitAtChar separator t = [t] := by
  induction t with
  | nil => rfl
  | cons c t ih =>
    simp only [List.mem_cons, not_or] at h
    exact splitAtChar_cons_of_ne (Ne.symm h.1) (ih h.2)

theorem splitAtChar_head {separator c : Char} (h : c ≠ separator) (t : Text) :
    ∃ piece pieces, splitAtChar separator (c :: t) = (c :: piece) :: pieces := by
  cases ht : splitAtChar separator t with
  | nil => exact absurd ht (splitAtChar_ne_nil separator t)
  | cons piece pieces => exact ⟨piece, pieces, splitAtChar_cons_of_ne h ht⟩

theorem dropBlanks_eq_self {t : Text} (h : ∀ c ∈ t.head?, isBlank c = false) : dropBlanks t = t := by
  cases t with
  | nil => rfl
  | cons c t => simp [dropBlanks, h c rfl]

/-- A text without blanks at its ends is left as it is. -/
theorem strip_eq_self {t : Text} (hfirst : ∀ c ∈ t.head?, isBlank c = false)
    (hlast : ∀ c ∈ t.getLast?, isBlank c = false) : strip t = t := by
  have hreverse : dropBlanks t.reverse = t.reverse := by
    refine dropBlanks_eq_self ?_
    rwa [List.head?_reverse]
  rw [strip, dropBlanks_eq_self hfirst, hreverse, List.reverse_reverse]

end Text
end Liquid
