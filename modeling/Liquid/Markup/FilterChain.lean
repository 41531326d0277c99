import Liquid.Markup.Token
import Liquid.Text.Identifier

/-!
# Filter chains

The markup of an output is a name and a chain of filters: `name | filter: argument, label: argument | …`.
Arguments stay expressions until the output is rendered; a label is part of its argument.

## Main definitions

* `FilterCall` — a filter with its arguments.
* `FilterChain.parse` — the name and the filters of a markup.
* `FilterChain.text` — the written form.
* `FilterChain.escaped` — the chain with the filter `escape` at its end, unless it opts out of escaping.
-/

namespace Liquid

/-- A filter of a chain, with its arguments as they are written. -/
structure FilterCall where
  name : Text
  arguments : List Text
  deriving DecidableEq

/-- A name and the filters that its value goes through. -/
structure FilterChain where
  name : Text
  filters : List FilterCall
  deriving DecidableEq

namespace FilterCall

/-- An argument at the head of the tokens, and the tokens after it. -/
def argument (source : Text) : List Token → Except SyntaxError (Text × List Token)
  | [] => .error ⟨.missingArgument, some source, some source.length⟩
  | first :: rest =>
    match first.kind, rest with
    | .word, colon :: rest' =>
      if colon.kind = .colon then
        match rest' with
        | [] => .error ⟨.missingValue first.text, some source, some source.length⟩
        | operand :: after =>
          if operand.isOperand then .ok (Token.source source [first, colon, operand], after)
          else .error ⟨.missingValue first.text, some source, some operand.position⟩
      else .ok (first.text, rest)
    | _, _ =>
      if first.isOperand then .ok (first.text, rest)
      else .error ⟨.missingArgument, some source, some first.position⟩

/-- An argument takes at least one token. -/
theorem argument_length_lt {source t : Text} {tokens after : List Token}
    (h : argument source tokens = .ok (t, after)) : after.length < tokens.length := by
  unfold argument at h
  split at h
  · simp at h
  · split at h
    · split at h
      · split at h
        · simp at h
        · split at h
          · simp only [Except.ok.injEq, Prod.mk.injEq] at h
            obtain ⟨_, rfl⟩ := h
            simp only [List.length_cons]
            omega
          · simp at h
      · simp only [Except.ok.injEq, Prod.mk.injEq] at h
        obtain ⟨_, rfl⟩ := h
        simp
    · split at h
      · simp only [Except.ok.injEq, Prod.mk.injEq] at h
        obtain ⟨_, rfl⟩ := h
        simp
      · simp at h

/-- The arguments at the head of the tokens, with commas between them, and the tokens after them. -/
def arguments? (source : Text) (tokens : List Token) : Except SyntaxError (List Text × List Token) :=
  match _h : argument source tokens with
  | .error e => .error e
  | .ok (t, after) =>
    match after with
    | [] => .ok ([t], [])
    | comma :: rest =>
      if comma.kind = .comma then (arguments? source rest).map fun p => (t :: p.1, p.2)
      else .ok ([t], comma :: rest)
  termination_by tokens.length
  decreasing_by
    have := argument_length_lt _h
    simp only [List.length_cons] at this
    omega

/-- The filter at the head of the tokens, and the tokens after it. -/
def read (source : Text) : List Token → Except SyntaxError (FilterCall × List Token)
  | [] => .error ⟨.invalidFilter, some source, some source.length⟩
  | name :: rest =>
    if name.kind = .word ∧ Text.isIdentifier name.text = true then
      match rest with
      | [] => .ok (⟨name.text, []⟩, [])
      | colon :: rest' =>
        if colon.kind = .colon then
          (arguments? source rest').map fun p => (⟨name.text, p.1⟩, p.2)
        else .ok (⟨name.text, []⟩, rest)
    else .error ⟨.invalidFilter, some source, some name.position⟩

/-- A filter as it is written. -/
def text (f : FilterCall) : Text :=
  f.name ++ (if f.arguments.isEmpty then [] else ": ".toList ++ Text.join ", ".toList f.arguments)

theorem arguments?_length_lt {source : Text} {tokens after : List Token} {ts : List Text}
    (h : arguments? source tokens = .ok (ts, after)) : after.length < tokens.length := by
  induction hn : tokens.length using Nat.strongRecOn generalizing tokens ts with
  | ind n ih =>
    unfold arguments? at h
    split at h
    · simp at h
    · next ha =>
      have hlt := argument_length_lt ha
      split at h
      · simp only [Except.ok.injEq, Prod.mk.injEq] at h
        obtain ⟨_, rfl⟩ := h
        omega
      · rename_i rest' _
        split at h
        · cases hr : arguments? source rest' with
          | error e => rw [hr] at h; simp [Except.map] at h
          | ok p =>
            rw [hr] at h
            simp only [Except.map, Except.ok.injEq, Prod.mk.injEq] at h
            obtain ⟨_, rfl⟩ := h
            simp only [List.length_cons] at hlt
            have := ih rest'.length (by omega) hr rfl
            omega
        · simp only [Except.ok.injEq, Prod.mk.injEq] at h
          obtain ⟨_, rfl⟩ := h
          omega

/-- A filter takes at least one token. -/
theorem read_length_lt {source : Text} {tokens after : List Token} {f : FilterCall}
    (h : read source tokens = .ok (f, after)) : after.length < tokens.length := by
  unfold read at h
  split at h
  · simp at h
  · split at h
    · split at h
      · simp only [Except.ok.injEq, Prod.mk.injEq] at h
        obtain ⟨_, rfl⟩ := h
        simp
      · next colon rest' =>
        split at h
        · cases ha : arguments? source rest' with
          | error e => rw [ha] at h; simp [Except.map] at h
          | ok p =>
            rw [ha] at h
            simp only [Except.map, Except.ok.injEq, Prod.mk.injEq] at h
            obtain ⟨_, rfl⟩ := h
            have := arguments?_length_lt ha
            simp only [List.length_cons]
            omega
        · simp only [Except.ok.injEq, Prod.mk.injEq] at h
          obtain ⟨_, rfl⟩ := h
          simp
    · simp at h

end FilterCall

namespace FilterChain

/-- The filters of a chain, each after a bar. -/
def filters? (source : Text) : List Token → Except SyntaxError (List FilterCall)
  | [] => .ok []
  | bar :: rest =>
    if bar.kind = .pipe then
      match _h : FilterCall.read source rest with
      | .error e => .error e
      | .ok (f, after) => (filters? source after).map (f :: ·)
    else .error ⟨.unexpectedToken bar.text, some source, some bar.position⟩
  termination_by tokens => tokens.length
  decreasing_by
    have := FilterCall.read_length_lt _h
    simp only [List.length_cons]
    omega

/-- The chain that the tokens of `source` form. -/
def ofTokens (source : Text) : List Token → Except SyntaxError FilterChain
  | [] => .error ⟨.missingName, some source, none⟩
  | name :: rest =>
    if !name.isOperand then .error ⟨.missingName, some source, none⟩
    else
      match rest with
      | [] => .ok ⟨name.text, []⟩
      | bar :: _ =>
        if bar.kind = .pipe then (filters? source rest).map (⟨name.text, ·⟩)
        else .error ⟨.missingPipe bar.text, some source, some bar.position⟩

/-- The chain that a markup is. -/
def parse (markup : Text) : Except SyntaxError FilterChain := Token.scan markup >>= ofTokens markup

/-- A chain as it is written. -/
def text (c : FilterChain) : Text := c.name ++ c.filters.flatMap fun f => " | ".toList ++ f.text

/-- The filter that escapes. -/
def escapeName : Text := "escape".toList

/-- The filters that escape or emit HTML on purpose. -/
def optOutNames : List Text := [escapeName, "escape_once".toList, "raw".toList, "newline_to_br".toList]

/-- Whether a chain opts out of escaping. -/
def optsOut (filters : List FilterCall) : Bool := filters.any fun f => optOutNames.contains f.name

/-- The filters with escaping at the end, unless they opt out of it. -/
def escaped (filters : List FilterCall) : List FilterCall :=
  if optsOut filters then filters else filters ++ [⟨escapeName, []⟩]

end FilterChain
end Liquid
