import Liquid.Text.CaseTable

/-!
# Upper, lower and title case

Full case mapping: one character may become several.  Lower case has one rule that looks around: a capital
sigma at the end of a word becomes a final sigma.

## Main definitions

* `toUpper`, `toLower`, `capitalize` — a text in upper case, in lower case, and with a capital at its head.
-/

namespace Liquid.Text

/-- The image of a code point under the exceptions first, then under the runs. -/
def mapped (expansions : List (Nat × List Nat)) (runs : List CaseRun) (n : Nat) : List Nat :=
  match expansions.lookup n with
  | some image => image
  | none => [(runs.findSome? (·.image? n)).getD n]

/-- The upper case of a character. -/
def upperChar (c : Char) : List Char :=
  if c.toNat < 128 then [c.toUpper] else (mapped upperExpansions upperRuns c.toNat).map Char.ofNat

/-- The lower case of a character, wherever it stands. -/
def lowerChar (c : Char) : List Char :=
  if c.toNat < 128 then [c.toLower] else (mapped lowerExpansions lowerRuns c.toNat).map Char.ofNat

/-- The title case of a character: what it becomes at the head of a word. -/
def titleChar (c : Char) : List Char :=
  if c.toNat < 128 then [c.toUpper]
  else if titleUnchanged.contains c then [c]
  else
    match titleExceptions.lookup c.toNat with
    | some image => image.map Char.ofNat
    | none => upperChar c

/-- The upper case of a text. -/
def toUpper (t : List Char) : List Char := t.flatMap upperChar

/-- Capital sigma. -/
def capitalSigma : Char := Char.ofNat 0x3A3

/-- Whether the nearest character that is not ignorable has case; the nearest comes first. -/
def meetsCased (t : List Char) : Bool :=
  match t.dropWhile caseIgnorable.contains with
  | [] => false
  | c :: _ => casedCharacters.contains c

/-- The lower case of `c` between the characters `before` it, nearest first, and the characters `after`
it.  A capital sigma is final when a cased character precedes it and none follows. -/
def lowerInContext (before : List Char) (c : Char) (after : List Char) : List Char :=
  if c = capitalSigma then
    if meetsCased before && !meetsCased after then [Char.ofNat 0x3C2] else [Char.ofNat 0x3C3]
  else lowerChar c

/-- The lower case of a text that follows the characters `before`, nearest first. -/
def lowerAfter (before : List Char) : List Char → List Char
  | [] => []
  | c :: rest => lowerInContext before c rest ++ lowerAfter (c :: before) rest

/-- The lower case of a text. -/
def toLower (t : List Char) : List Char := lowerAfter [] t

/-- A text with its first character in title case and the others in lower case. -/
def capitalize : List Char → List Char
  | [] => []
  | c :: rest => titleChar c ++ lowerAfter [c] rest

@[simp] theorem toUpper_nil : toUpper [] = [] := rfl

@[simp] theorem toLower_nil : toLower [] = [] := rfl

@[simp] theorem capitalize_nil : capitalize [] = [] := rfl

end Liquid.Text
