import Liquid.Variable

/-!
# Operands

What stands in a condition, behind a filter or in an output is an operand: a word such as `nil`, a quoted
text, a number, a range `(a..b)`, or a variable.  A range holds both of its bounds, which are operands
themselves.

## Main definitions

* `Operand.ofText` — the operand that a text is.
* `ScopeStack.resolve` — its value.
-/

namespace Liquid

/-- An operand. -/
inductive Operand
  | literal (v : Value)
  /-- A whole number with too many digits to be read. -/
  | overlong
  /-- A range, with its bounds as they are written and as they are read. -/
  | range (firstText lastText : Text) (first last : Operand)
  | path (written : Text)

namespace Operand

/-- The text between two equal quotes. -/
def quotedBody? : Text → Option Text
  | [] => none
  | q :: rest => if (q = '\'' ∨ q = '"') ∧ rest.getLast? = some q then some rest.dropLast else none

/-- Whether a text is one decimal digit or more. -/
def isDigits (t : Text) : Bool := !t.isEmpty && t.all Text.isDecimal

/-- The number that a text is: digits behind a sign or without one, and perhaps a fraction. -/
def number? (t : Text) : Option Operand :=
  let unsigned :=
    match t with
    | '-' :: rest => rest
    | t => t
  match Text.splitAtChar '.' unsigned with
  | [whole] =>
    if isDigits whole then
      match Numeral.integer? t with
      | some n => some (literal (.int n))
      | none => some overlong
    else none
  | [whole, places] =>
    if isDigits whole && isDigits places then (Numeral.double? t).map fun x => literal (.double x) else none
  | _ => none

/-- The parts before and after the first two points that have something before them. -/
def cutAtPoints? : Text → Option (Text × Text)
  | [] => none
  | c :: rest =>
    match rest with
    | '.' :: '.' :: after => if after.isEmpty then none else some ([c], after)
    | _ => (cutAtPoints? rest).map fun p => (c :: p.1, p.2)

theorem cutAtPoints?_length_lt {t a b : Text} (h : cutAtPoints? t = some (a, b)) :
    a.length < t.length ∧ b.length < t.length := by
  induction t generalizing a with
  | nil => simp [cutAtPoints?] at h
  | cons c rest ih =>
    unfold cutAtPoints? at h
    split at h
    · split at h
      · simp at h
      · simp only [Option.some.injEq, Prod.mk.injEq] at h
        obtain ⟨rfl, rfl⟩ := h
        simp only [List.length_cons, List.length_nil]
        omega
    · obtain ⟨⟨a', b'⟩, hp, he⟩ := Option.map_eq_some_iff.1 h
      simp only [Prod.mk.injEq] at he
      obtain ⟨rfl, rfl⟩ := he
      have := ih hp
      simp only [List.length_cons]
      omega

/-- The bounds of a range as they are written.  There are no blanks in a range. -/
def bounds? : Text → Option (Text × Text)
  | '(' :: rest =>
    if rest.getLast? = some ')' ∧ rest.all (!Text.isBlank ·) then cutAtPoints? rest.dropLast else none
  | _ => none

theorem bounds?_length_lt {t a b : Text} (h : bounds? t = some (a, b)) :
    a.length < t.length ∧ b.length < t.length := by
  unfold bounds? at h
  split at h
  · split at h
    · have := cutAtPoints?_length_lt h
      simp only [List.length_dropLast] at this
      simp only [List.length_cons]
      omega
    · simp at h
  · simp at h

/-- The operand that a text without blanks around it is. -/
def read (t : Text) : Operand :=
  match Value.ofWord? t with
  | some v => literal v
  | none =>
    match quotedBody? t with
    | some body => literal (.text body)
    | none =>
      match number? t with
      | some operand => operand
      | none =>
        match _h : bounds? t with
        | some (a, b) => range a b (read a) (read b)
        | none => path t
  termination_by t.length
  decreasing_by
    · exact (bounds?_length_lt _h).1
    · exact (bounds?_length_lt _h).2

/-- The operand that a text is. -/
def ofText (t : Text) : Operand := read (Text.strip t)

/-- The bound of a range that a value is. -/
def bound (written : Text) (v : Value) : Except Error Int := do
  match ← v.count? with
  | some n => return n
  | none => .error (.malformed ⟨.invalidBound, some written, none⟩)

/-- The value of an operand. -/
def resolve (e : PathEngine) (strict : Bool) (s : ScopeStack) : Operand → Except Error Value
  | literal v => .ok v
  | overlong => .error (.fault .tooManyDigits)
  | range firstText lastText first last => do
    let a ← bound firstText (← resolve e strict s first)
    let b ← bound lastText (← resolve e strict s last)
    return .range a (b + 1)
  | path written => s.valueOf e strict written

end Operand

/-- The value of the operand that a text is. -/
def ScopeStack.resolve (e : PathEngine) (strict : Bool) (s : ScopeStack) (t : Text) : Except Error Value :=
  (Operand.ofText t).resolve e strict s

end Liquid
