import Liquid.Markup.Token

/-!
# Conditions

A condition is one operand, or two operands with a comparator between them.  An expression is conditions with
`and` or `or` between them.  It is cut at the connectives first, so that each condition is read from its own
fragment of the source.

## Main definitions

* `Condition.parse` — a condition from its fragment.
* `Expression.split` — the fragments and connectives of an expression.
* `Expression.parse` — its conditions and connectives.

## Main statements

* `Expression.cutAt_length` — there are as many fragments as connectives.
-/

namespace Liquid

/-- A comparator. `unequal` is `<>`, which means the same as `!=`. -/
inductive Comparator
  | equal
  | notEqual
  | unequal
  | less
  | greater
  | atMost
  | atLeast
  | contains
  deriving DecidableEq

namespace Comparator

/-- All comparators. -/
def all : List Comparator := [equal, notEqual, unequal, less, greater, atMost, atLeast, contains]

/-- A comparator as it is written. -/
def text : Comparator → Text
  | equal => "==".toList
  | notEqual => "!=".toList
  | unequal => "<>".toList
  | less => "<".toList
  | greater => ">".toList
  | atMost => "<=".toList
  | atLeast => ">=".toList
  | contains => "contains".toList

/-- The comparator that a text is. -/
def ofText? (t : Text) : Option Comparator := all.find? (·.text = t)

@[simp] theorem ofText?_text (c : Comparator) : ofText? c.text = some c := by
  cases c <;> rfl

theorem text_of_ofText? {t : Text} {c : Comparator} (h : ofText? t = some c) : c.text = t := by
  simpa using List.find?_some h

end Comparator

/-- The word between two conditions. -/
inductive Connective
  | and
  | or
  deriving DecidableEq

namespace Connective

/-- A connective as it is written. -/
def text : Connective → Text
  | and => "and".toList
  | or => "or".toList

/-- The connective that a token is. -/
def ofToken? (t : Token) : Option Connective :=
  if t.kind ≠ .word then none
  else if t.text = text and then some and
  else if t.text = text or then some or
  else none

end Connective

/-- A condition: an operand, and perhaps a comparator with another operand. -/
structure Condition where
  left : Text
  comparison : Option (Comparator × Text)
  deriving DecidableEq

namespace Condition

/-- A condition as it is written. -/
def text (c : Condition) : Text :=
  match c.comparison with
  | none => c.left
  | some (comparator, right) => c.left ++ [' '] ++ comparator.text ++ [' '] ++ right

/-- The condition that the tokens of the fragment `source` form in the tag `tag`. -/
def ofTokens (tag source : Text) : List Token → Except SyntaxError Condition
  | [] => .error ⟨.conditionForm tag, some source, none⟩
  | left :: rest =>
    if !left.isOperand then .error ⟨.conditionForm tag, some source, none⟩
    else
      match rest with
      | [] => .ok ⟨left.text, none⟩
      | operator :: rest =>
        if operator.kind = .word then
          .error ⟨.unknownOperator operator.text, some source, some operator.position⟩
        else
          match operator.kind, Comparator.ofText? operator.text with
          | .comparator, some comparator =>
            match rest with
            | [] => .error ⟨.missingOperand operator.text, some source, some source.length⟩
            | right :: rest =>
              if !right.isOperand then
                .error ⟨.missingOperand operator.text, some source, some right.position⟩
              else
                match rest with
                | [] => .ok ⟨left.text, some (comparator, right.text)⟩
                | extra :: _ => .error ⟨.unexpectedToken extra.text, some source, some extra.position⟩
          | _, _ => .error ⟨.conditionForm tag, some source, some operator.position⟩

/-- The condition that a fragment is. -/
def parse (tag fragment : Text) : Except SyntaxError Condition :=
  Token.scan fragment >>= ofTokens tag fragment

end Condition

/-- Conditions with connectives.  Each connective stands before its condition; the first is `and`. -/
structure Expression where
  conditions : List Condition
  connectives : List Connective
  deriving DecidableEq

namespace Expression

/-- Tokens cut at the connectives, after the connective `first`: the runs between them, each with the
connective before it. -/
def cutAt (first : Connective) : List Token → List (Connective × List Token)
  | [] => [(first, [])]
  | token :: rest =>
    match Connective.ofToken? token with
    | some connective => (first, []) :: cutAt connective rest
    | none =>
      match cutAt first rest with
      | [] => [(first, [token])]
      | (connective, run) :: runs => (connective, token :: run) :: runs

theorem cutAt_ne_nil (first : Connective) (tokens : List Token) : cutAt first tokens ≠ [] := by
  cases tokens with
  | nil => simp [cutAt]
  | cons token rest =>
    unfold cutAt
    split
    · simp
    · split <;> simp

/-- There is one run more than there are connectives. -/
theorem cutAt_length (first : Connective) (tokens : List Token) :
    (cutAt first tokens).length = (tokens.filterMap Connective.ofToken?).length + 1 := by
  induction tokens generalizing first with
  | nil => rfl
  | cons token rest ih =>
    cases h : Connective.ofToken? token with
    | some connective => simp [cutAt, ih, h]
    | none =>
      cases hc : cutAt first rest with
      | nil => exact absurd hc (cutAt_ne_nil first rest)
      | cons run runs =>
        have hrest := ih first
        rw [hc] at hrest
        simpa [cutAt, h, hc] using hrest

/-- The fragments of an expression, each with the connective before it. -/
def pieces (expression : Text) : Except SyntaxError (List (Connective × Text)) := do
  let tokens ← Token.scan expression
  if tokens.isEmpty then .error ⟨.emptyCondition, some expression, none⟩
  else return (cutAt .and tokens).map fun run => (run.1, Token.source expression run.2)

/-- The fragments and the connectives of an expression. -/
def split (expression : Text) : Except SyntaxError (List Text × List Connective) :=
  (pieces expression).map fun ps => (ps.map Prod.snd, ps.map Prod.fst)

/-- The expression of the tag `tag` that a text is. -/
def parse (tag expression : Text) : Except SyntaxError Expression := do
  let (fragments, connectives) ← split expression
  return ⟨← fragments.mapM (Condition.parse tag), connectives⟩

/-- An expression as it is written: the conditions with the connectives between them. -/
def text (e : Expression) : Text :=
  match e.conditions with
  | [] => []
  | c :: cs =>
    c.text ++ ((e.connectives.drop 1).zip cs).flatMap fun p => [' '] ++ p.1.text ++ [' '] ++ p.2.text

end Expression
end Liquid
