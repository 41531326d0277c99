import Liquid.Text.Alphabetic
import Liquid.Text.Basic
import Liquid.Text.Digit

/-!
# Lexemes of a written date

A written date is cut into words, numbers, blanks and single other characters.  A word or a number may hold
points while it is being read; afterwards it is cut at its points, unless it is one number with one
fraction.  Every blank counts as one space.

## Main definitions

* `Lexeme.cut` — the lexemes of a written date.

## Main statements

* `Lexeme.extend_rest_le` — reading on never lengthens what is left, so that `Lexeme.cut` ends.
-/

namespace Liquid.Lexeme

/-- What is being read. -/
inductive Run
  | word
  | number
  | dottedWord
  | dottedNumber
  deriving DecidableEq

/-- A lexeme being read, its characters in reverse. `lettersFollowed` tells that another character was
looked at while it ended in a word. -/
structure Partial where
  run : Run
  lettersFollowed : Bool
  reversed : Text

/-- Whether a lexeme takes one more character, and as what; `none` when it ends before that character. -/
def Run.extend? (run : Run) (reversed : Text) (c : Char) : Option Run :=
  match run with
  | .word => if Text.isAlphabetic c then some .word else if c = '.' then some .dottedWord else none
  | .number =>
    if Text.isDigit c then some .number
    else if c = '.' || (c = ',' && 2 ≤ reversed.length) then some .dottedNumber
    else none
  | .dottedWord =>
    if c = '.' || Text.isAlphabetic c then some .dottedWord
    else if Text.isDigit c && reversed.head? = some '.' then some .dottedNumber
    else none
  | .dottedNumber =>
    if c = '.' || Text.isDigit c then some .dottedNumber
    else if Text.isAlphabetic c && reversed.head? = some '.' then some .dottedWord
    else none

/-- A lexeme read on as far as it goes, and the text after it. -/
def extend (l : Partial) : Text → Partial × Text
  | [] => (l, [])
  | c :: rest =>
    let followed := l.lettersFollowed || l.run = .word || l.run = .dottedWord
    match l.run.extend? l.reversed c with
    | some run => extend ⟨run, followed, c :: l.reversed⟩ rest
    | none => ({ l with lettersFollowed := followed }, c :: rest)

theorem extend_rest_le (l : Partial) (t : Text) : (extend l t).2.length ≤ t.length := by
  induction t generalizing l with
  | nil => simp [extend]
  | cons c rest ih =>
    unfold extend
    simp only
    split
    · exact Nat.le_succ_of_le (ih _)
    · simp

/-- The pieces of a text between points and commas, with the points and commas as pieces of their own. -/
def piecesAtMarks : Text → List Text
  | [] => [[]]
  | c :: rest =>
    if c = '.' || c = ',' then [] :: [c] :: piecesAtMarks rest
    else
      match piecesAtMarks rest with
      | [] => [[c]]
      | piece :: pieces => (c :: piece) :: pieces

/-- The lexemes that a lexeme read with its points stands for. -/
def finish (l : Partial) : List Text :=
  let t := l.reversed.reverse
  let dotted := l.run = .dottedWord || l.run = .dottedNumber
  let endsInMark := l.reversed.head? = some '.' || l.reversed.head? = some ','
  if dotted && (l.lettersFollowed || 1 < t.count '.' || endsInMark) then
    (piecesAtMarks t).filter (!·.isEmpty)
  else if l.run = .dottedNumber && t.count '.' = 0 then [t.map fun c => if c = ',' then '.' else c]
  else [t]

/-- What a lexeme that begins with `c` is. -/
def start? (c : Char) : Option Run :=
  if Text.isAlphabetic c then some .word else if Text.isDigit c then some .number else none

/-- The lexemes of a text without null characters. -/
def cutVisible : Text → List Text
  | [] => []
  | c :: rest =>
    match start? c with
    | some run =>
      finish (extend ⟨run, false, [c]⟩ rest).1 ++ cutVisible (extend ⟨run, false, [c]⟩ rest).2
    | none => (if Text.isBlank c then [' '] else [c]) :: cutVisible rest
  termination_by t => t.length
  decreasing_by
    · exact Nat.lt_succ_of_le (extend_rest_le _ rest)
    · simp

/-- The lexemes of a written date; null characters are left out. -/
def cut (t : Text) : List Text := cutVisible (t.filter (·.toNat != 0))

end Liquid.Lexeme
