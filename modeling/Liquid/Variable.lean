import Liquid.Path.Engine
import Liquid.Scope
import Liquid.Text.Alphabetic
import Liquid.Value.Attribute
import Liquid.Value.Conversion

/-!
# Variables

A variable is written as a path.  Without brackets it is names with points between them: the first is looked
up in the scopes, and the others are steps into its value.  With a bracket it is a path into the innermost
scope that has its first name, which an engine follows; a bracket around a name stands for an index or a key, which is
the value of that name.

What a path does not lead to is undefined: `nil`, or an error where undefined variables are errors.

## Main definitions

* `ScopeStack.dotted`, `ScopeStack.bracketed` — the two forms.
* `ScopeStack.valueOf` — the value of a variable.
* `Bracket.fragments` — a path cut at the brackets around names.

## Main statements

* `ScopeStack.dotted_eq` — the value of names with points between them.
* `Bracket.fragments_of_not_mem` — without brackets nothing is replaced.
-/

namespace Liquid

/-- The values of the words that are not names. -/
def Value.ofWord? (t : Text) : Option Value :=
  if t = [] || t = "nil".toList || t = "null".toList then some .nil
  else if t = "true".toList then some (.bool true)
  else if t = "false".toList then some (.bool false)
  else none

namespace ScopeStack

/-- What stands for an undefined variable. -/
def undefined (strict : Bool) (path : Text) : Except Error Value :=
  if strict then .error (.undefined path) else .ok .nil

/-- The value of a variable written as names with points between them. -/
def dotted (strict : Bool) (s : ScopeStack) (path : Text) : Except Error Value :=
  match Text.splitAtChar '.' path with
  | [] => undefined strict path
  | root :: keys =>
    match (s.lookup root).bind (·.descend? keys) with
    | some v => .ok v
    | none => undefined strict path

end ScopeStack

/-! ## Brackets -/

/-- A piece of a path: a character that stands for itself, or a name between brackets. -/
inductive Bracket.Fragment
  | character (c : Char)
  | name (t : Text)
  deriving DecidableEq

namespace Bracket

/-- A character that may begin a name between brackets. -/
def isNameStart (c : Char) : Bool := c.isAlpha || c == '_'

/-- A character that may continue a name between brackets. -/
def isNamePart (c : Char) : Bool := Text.isAlphabetic c || Text.isNumeric c || c == '_' || c == '.'

/-- The name behind an opening bracket, if a name and the closing bracket are all that follows but blanks,
and the text after the closing bracket. -/
def nameAt? (t : Text) : Option (Text × Text) :=
  match Text.dropBlanks t with
  | [] => none
  | c :: rest =>
    if isNameStart c then
      match Text.dropBlanks (rest.dropWhile isNamePart) with
      | ']' :: after => some (c :: rest.takeWhile isNamePart, after)
      | _ => none
    else none

theorem nameAt?_length_lt {t name after : Text} (h : nameAt? t = some (name, after)) :
    after.length < t.length := by
  unfold nameAt? at h
  split at h
  · simp at h
  · next c rest hc =>
    split at h
    · split at h
      · next hd =>
        simp only [Option.some.injEq, Prod.mk.injEq] at h
        obtain ⟨_, rfl⟩ := h
        have h₁ := Text.length_dropBlanks_le t
        have h₂ := Text.length_dropBlanks_le (rest.dropWhile isNamePart)
        have h₃ := Text.length_dropWhile_le isNamePart rest
        rw [hc] at h₁
        rw [hd] at h₂
        simp only [List.length_cons] at h₁ h₂
        omega
      · simp at h
    · simp at h

/-- A path cut at the brackets around names. -/
def fragments : Text → List Fragment
  | [] => []
  | c :: rest =>
    if c = '[' then
      match _h : nameAt? rest with
      | some (name, after) => .name name :: fragments after
      | none => .character c :: fragments rest
    else .character c :: fragments rest
  termination_by t => t.length
  decreasing_by
    · have := nameAt?_length_lt _h
      simp only [List.length_cons]
      omega
    · simp
    · simp

theorem fragments_cons_of_ne {c : Char} (h : c ≠ '[') (rest : Text) :
    fragments (c :: rest) = .character c :: fragments rest := by
  rw [fragments, if_neg h]

/-- Without brackets nothing is replaced. -/
theorem fragments_of_not_mem {t : Text} (h : '[' ∉ t) : fragments t = t.map .character := by
  induction t with
  | nil => simp [fragments]
  | cons c rest ih =>
    simp only [List.mem_cons, not_or] at h
    rw [fragments_cons_of_ne (Ne.symm h.1), ih h.2, List.map_cons]

/-- A value as an index or a key between brackets: a whole number is an index, everything else is the key
that its plain form is. -/
def written (v : Value) : Except Error Text := do
  let t ← v.plainText
  match v with
  | .int _ => return ['['] ++ t ++ [']']
  | _ => return "['".toList ++ t ++ "']".toList

/-- The name that a path begins with. -/
def root (path : Text) : Text := path.takeWhile fun c => c != '.' && c != '['

end Bracket

namespace ScopeStack

/-- The value of a name between brackets. -/
def indexValue (strict : Bool) (s : ScopeStack) (name : Text) : Except Error Value :=
  match Value.ofWord? name with
  | some v => .ok v
  | none => s.dotted strict name

/-- A fragment of a path with its name replaced by what it stands for. -/
def expand (strict : Bool) (s : ScopeStack) : Bracket.Fragment → Except Error Text
  | .character c => .ok [c]
  | .name t => do Bracket.written (← s.indexValue strict t)

/-- A path with the names between brackets replaced by what they stand for. -/
def expanded (strict : Bool) (s : ScopeStack) (path : Text) : Except Error Text :=
  ((Bracket.fragments path).mapM (s.expand strict)).map List.flatten

/-- The value of a variable written with brackets. -/
def bracketed (e : PathEngine) (strict : Bool) (s : ScopeStack) (path : Text) : Except Error Value :=
  match s.scopeOf? (Bracket.root path) with
  | none => undefined strict path
  | some scope => do
    let written ← s.expanded strict path
    match ← scope.toMapping.select written e with
    | [] => undefined strict path
    | v :: _ => return v

/-- The value of a variable. -/
def valueOf (e : PathEngine) (strict : Bool) (s : ScopeStack) (path : Text) : Except Error Value :=
  if path.contains '[' then s.bracketed e strict path else s.dotted strict path

/-- The value of names with points between them: a look-up, and steps into what was found. -/
theorem dotted_eq {s : ScopeStack} {path root : Text} {keys : List Text} {v : Value} (strict : Bool)
    (hpath : Text.splitAtChar '.' path = root :: keys) (hv : (s.lookup root).bind (·.descend? keys) = some v) :
    s.dotted strict path = .ok v := by
  simp [dotted, hpath, hv]

end ScopeStack
end Liquid
