import Liquid.Markup.FilterChain
import Liquid.Proofs.Markup.Expression

/-!
# Filter chains as streams of tokens

A filter chain is an operand, and behind each bar the name of a filter, perhaps with a colon and arguments that have
commas between them.  An argument is an operand, or a label, a colon and an operand.  Its reader looks at most two
tokens ahead, and the end of the text, which stands behind the last token, keeps it from looking further.

## Main definitions

* `FilterCall.SpellsArgument`, `FilterCall.SpellsArguments`, `FilterCall.Spells`, `FilterChain.SpellsFilters`,
  `FilterChain.Spells` — what a run of tokens says as an argument, as arguments, as a filter, as filters, as a chain.
* `FilterCall.argumentAt`, `FilterCall.argumentsAt`, `FilterCall.readAt`, `FilterChain.filtersAt`,
  `FilterChain.atPlaces` — the same read by looking up the places of a list of tokens.

## Main statements

* `FilterChain.ofTokens_eq_ok_iff` — a chain is read from the tokens that spell it.
* `FilterChain.atPlaces_append_atEnd` — reading a chain looks up no place behind the end.
* `FilterChain.parse_iff_spells` — reading a chain agrees with its stream of tokens.
-/

namespace Liquid

/-- The tokens do not begin with one of this kind. -/
def Token.NotFirst (kind : TokenKind) (tokens : List Token) : Prop := ∀ t ∈ tokens.head?, t.kind ≠ kind

theorem Token.notFirst_nil (kind : TokenKind) : Token.NotFirst kind [] := nofun

theorem Token.notFirst_cons_iff {kind : TokenKind} {t : Token} {rest : List Token} :
    Token.NotFirst kind (t :: rest) ↔ t.kind ≠ kind := by
  simp [Token.NotFirst]

namespace FilterCall

variable {source : Text}

/-! ## What tokens spell -/

/-- A run of tokens that is an argument: an operand, or a word as a label, a colon and an operand, which are taken as
they stand in the source. -/
inductive SpellsArgument (source : Text) : List Token → Text → Prop
  | operand {operand : Token} : operand.isOperand = true → SpellsArgument source [operand] operand.text
  | labelled {label colon operand : Token} : label.kind = .word → colon.kind = .colon → operand.isOperand = true →
      SpellsArgument source [label, colon, operand]
        ((source.drop label.position).take (operand.stop - label.position))

/-- A run of tokens that is one argument or more, with commas between them. -/
inductive SpellsArguments (source : Text) : List Token → List Text → Prop
  | last {run : List Token} {t : Text} : SpellsArgument source run t → SpellsArguments source run [t]
  | more {run rest : List Token} {comma : Token} {t : Text} {ts : List Text} : SpellsArgument source run t →
      comma.kind = .comma → SpellsArguments source rest ts → SpellsArguments source (run ++ comma :: rest) (t :: ts)

/-- A run of tokens that is a filter: its name, and perhaps a colon and its arguments. -/
inductive Spells (source : Text) : List Token → FilterCall → Prop
  | bare {name : Token} : name.kind = .word → Text.isIdentifier name.text = true →
      Spells source [name] ⟨name.text, []⟩
  | applied {name colon : Token} {run : List Token} {ts : List Text} : name.kind = .word →
      Text.isIdentifier name.text = true → colon.kind = .colon → SpellsArguments source run ts →
      Spells source (name :: colon :: run) ⟨name.text, ts⟩

theorem spells_of_argument {tokens after : List Token} {t : Text} (h : argument source tokens = .ok (t, after)) :
    ∃ run, tokens = run ++ after ∧ SpellsArgument source run t := by
  unfold argument at h
  split at h
  · simp at h
  · next first rest =>
      split at h
      · next colon rest' hk =>
          split at h
          · next hcolon =>
              split at h
              · simp at h
              · next operand after' =>
                  split at h
                  · next hoperand =>
                      simp only [Except.ok.injEq, Prod.mk.injEq] at h
                      obtain ⟨rfl, rfl⟩ := h
                      exact ⟨[first, colon, operand], rfl, .labelled hk hcolon hoperand⟩
                  · simp at h
          · simp only [Except.ok.injEq, Prod.mk.injEq] at h
            obtain ⟨rfl, rfl⟩ := h
            exact ⟨[first], rfl, .operand (by simp [Token.isOperand, hk, TokenKind.isOperand])⟩
      · split at h
        · next hoperand =>
            simp only [Except.ok.injEq, Prod.mk.injEq] at h
            obtain ⟨rfl, rfl⟩ := h
            exact ⟨[first], rfl, .operand hoperand⟩
        · simp at h

theorem argument_of_spells {run after : List Token} {t : Text} (h : SpellsArgument source run t)
    (hafter : Token.NotFirst .colon after) : argument source (run ++ after) = .ok (t, after) := by
  cases h with
  | @operand operand hoperand =>
      cases after with
      | nil => cases hk : operand.kind <;> simp_all [argument, Token.isOperand, TokenKind.isOperand]
      | cons next rest =>
          rw [Token.notFirst_cons_iff] at hafter
          cases hk : operand.kind <;> simp_all [argument, Token.isOperand, TokenKind.isOperand]
  | labelled hk hcolon hoperand => simp [argument, hk, hcolon, hoperand, Token.source]

theorem arguments?_eq_error {tokens : List Token} {e : SyntaxError} (h : argument source tokens = .error e) :
    arguments? source tokens = .error e := by
  rw [arguments?]
  split
  · next he =>
      rw [h, Except.error.injEq] at he
      rw [he]
  · next he => simp [h] at he

theorem arguments?_last {tokens after : List Token} {t : Text} (h : argument source tokens = .ok (t, after))
    (hafter : Token.NotFirst .comma after) : arguments? source tokens = .ok ([t], after) := by
  rw [arguments?]
  split
  · next he => simp [h] at he
  · next t' after' he =>
      simp only [h, Except.ok.injEq, Prod.mk.injEq] at he
      obtain ⟨rfl, rfl⟩ := he
      cases after with
      | nil => rfl
      | cons next rest => simp [Token.notFirst_cons_iff.1 hafter]

theorem arguments?_more {tokens rest : List Token} {comma : Token} {t : Text}
    (h : argument source tokens = .ok (t, comma :: rest)) (hcomma : comma.kind = .comma) :
    arguments? source tokens = (arguments? source rest).map fun p => (t :: p.1, p.2) := by
  rw [arguments?]
  split
  · next he => simp [h] at he
  · next t' after' he =>
      simp only [h, Except.ok.injEq, Prod.mk.injEq] at he
      obtain ⟨rfl, rfl⟩ := he
      simp [hcomma]

theorem spells_of_arguments? {tokens after : List Token} {ts : List Text}
    (h : arguments? source tokens = .ok (ts, after)) :
    ∃ run, tokens = run ++ after ∧ SpellsArguments source run ts := by
  induction hn : tokens.length using Nat.strongRecOn generalizing tokens ts with
  | ind n ih =>
      cases ha : argument source tokens with
      | error e => simp [arguments?_eq_error ha] at h
      | ok p =>
          obtain ⟨t, between⟩ := p
          have hlt := argument_length_lt ha
          obtain ⟨run, hrun, hspells⟩ := spells_of_argument ha
          by_cases hcomma : Token.NotFirst .comma between
          · rw [arguments?_last ha hcomma] at h
            simp only [Except.ok.injEq, Prod.mk.injEq] at h
            obtain ⟨rfl, rfl⟩ := h
            exact ⟨run, hrun, .last hspells⟩
          · cases between with
            | nil => exact absurd (Token.notFirst_nil _) hcomma
            | cons comma rest =>
                rw [Token.notFirst_cons_iff, Classical.not_not] at hcomma
                rw [arguments?_more ha hcomma] at h
                obtain ⟨⟨ts', after'⟩, hrest, he⟩ := Outcome.map_eq_ok_iff.1 h
                simp only [Prod.mk.injEq] at he
                obtain ⟨rfl, rfl⟩ := he
                rw [List.length_cons] at hlt
                obtain ⟨run', hrun', hspells'⟩ := ih rest.length (by omega) hrest rfl
                refine ⟨run ++ comma :: run', ?_, .more hspells hcomma hspells'⟩
                rw [hrun, hrun', List.append_assoc, List.cons_append]

theorem arguments?_of_spells {run after : List Token} {ts : List Text} (h : SpellsArguments source run ts)
    (hcolon : Token.NotFirst .colon after) (hcomma : Token.NotFirst .comma after) :
    arguments? source (run ++ after) = .ok (ts, after) := by
  induction h with
  | last hspells => exact arguments?_last (argument_of_spells hspells hcolon) hcomma
  | @more run rest comma t ts hspells hk _ ih =>
      have hnext : Token.NotFirst .colon (comma :: (rest ++ after)) := by
        rw [Token.notFirst_cons_iff, hk]
        decide
      rw [List.append_assoc, List.cons_append, arguments?_more (argument_of_spells hspells hnext) hk, ih]
      rfl

theorem spells_of_read {tokens after : List Token} {f : FilterCall} (h : read source tokens = .ok (f, after)) :
    ∃ run, tokens = run ++ after ∧ Spells source run f := by
  unfold read at h
  split at h
  · simp at h
  · next name rest =>
      split at h
      · next hname =>
          split at h
          · simp only [Except.ok.injEq, Prod.mk.injEq] at h
            obtain ⟨rfl, rfl⟩ := h
            exact ⟨[name], rfl, .bare hname.1 hname.2⟩
          · next colon rest' =>
              split at h
              · next hcolon =>
                  obtain ⟨⟨ts, after'⟩, ha, he⟩ := Outcome.map_eq_ok_iff.1 h
                  simp only [Prod.mk.injEq] at he
                  obtain ⟨rfl, rfl⟩ := he
                  obtain ⟨run, hrun, hspells⟩ := spells_of_arguments? ha
                  exact ⟨name :: colon :: run, by simp [hrun], .applied hname.1 hname.2 hcolon hspells⟩
              · simp only [Except.ok.injEq, Prod.mk.injEq] at h
                obtain ⟨rfl, rfl⟩ := h
                exact ⟨[name], rfl, .bare hname.1 hname.2⟩
      · simp at h

theorem read_of_spells {run after : List Token} {f : FilterCall} (h : Spells source run f)
    (hcolon : Token.NotFirst .colon after) (hcomma : Token.NotFirst .comma after) :
    read source (run ++ after) = .ok (f, after) := by
  cases h with
  | bare hk hname =>
      cases after with
      | nil => simp [read, hk, hname]
      | cons next rest => simp [read, hk, hname, Token.notFirst_cons_iff.1 hcolon]
  | applied hk hname hkcolon hspells =>
      simp [read, hk, hname, hkcolon, arguments?_of_spells hspells hcolon hcomma, Except.map]

end FilterCall

namespace FilterChain

variable {source : Text}

/-- A run of tokens that is filters, with a bar before each. -/
inductive SpellsFilters (source : Text) : List Token → List FilterCall → Prop
  | none : SpellsFilters source [] []
  | more {bar : Token} {run rest : List Token} {f : FilterCall} {fs : List FilterCall} : bar.kind = .pipe →
      FilterCall.Spells source run f → SpellsFilters source rest fs →
      SpellsFilters source (bar :: (run ++ rest)) (f :: fs)

/-- A run of tokens that is a chain: an operand, and filters. -/
inductive Spells (source : Text) : List Token → FilterChain → Prop
  | chain {name : Token} {rest : List Token} {fs : List FilterCall} : name.isOperand = true →
      SpellsFilters source rest fs → Spells source (name :: rest) ⟨name.text, fs⟩

theorem SpellsFilters.notFirst {kind : TokenKind} {tokens : List Token} {fs : List FilterCall}
    (h : SpellsFilters source tokens fs) (hkind : kind ≠ .pipe) : Token.NotFirst kind tokens := by
  cases h with
  | none => exact Token.notFirst_nil kind
  | more hbar _ _ =>
      rw [Token.notFirst_cons_iff, hbar]
      exact Ne.symm hkind

theorem filters?_nil : filters? source [] = .ok [] := by rw [filters?]

theorem filters?_bar {bar : Token} {rest : List Token} (hbar : bar.kind = .pipe) :
    filters? source (bar :: rest) =
      FilterCall.read source rest >>= fun p => (filters? source p.2).map (p.1 :: ·) := by
  rw [filters?, if_pos hbar]
  split
  · next he =>
      rw [he]
      rfl
  · next he =>
      rw [he]
      rfl

theorem filters?_stray {token : Token} {rest : List Token} (hkind : token.kind ≠ .pipe) :
    filters? source (token :: rest) = .error ⟨.unexpectedToken token.text, some source, some token.position⟩ := by
  rw [filters?, if_neg hkind]

theorem spells_of_filters? {tokens : List Token} {fs : List FilterCall} (h : filters? source tokens = .ok fs) :
    SpellsFilters source tokens fs := by
  induction hn : tokens.length using Nat.strongRecOn generalizing tokens fs with
  | ind n ih =>
      cases tokens with
      | nil =>
          rw [filters?_nil, Except.ok.injEq] at h
          subst h
          exact .none
      | cons bar rest =>
          by_cases hbar : bar.kind = .pipe
          · rw [filters?_bar hbar] at h
            obtain ⟨⟨f, after⟩, hread, h⟩ := Outcome.bind_eq_ok_iff.1 h
            obtain ⟨fs', hafter, rfl⟩ := Outcome.map_eq_ok_iff.1 h
            have hlt := FilterCall.read_length_lt hread
            obtain ⟨run, rfl, hspells⟩ := FilterCall.spells_of_read hread
            rw [List.length_cons] at hn
            exact .more hbar hspells (ih after.length (by omega) hafter rfl)
          · simp [filters?_stray hbar] at h

theorem filters?_of_spells {tokens : List Token} {fs : List FilterCall} (h : SpellsFilters source tokens fs) :
    filters? source tokens = .ok fs := by
  induction h with
  | none => exact filters?_nil
  | more hbar hspells hrest ih =>
      have hread := FilterCall.read_of_spells hspells (hrest.notFirst (by decide)) (hrest.notFirst (by decide))
      rw [filters?_bar hbar, hread]
      simp [bind, Except.bind, ih, Except.map]

/-- A chain is read from a list of tokens exactly when they spell it. -/
theorem ofTokens_eq_ok_iff {tokens : List Token} {c : FilterChain} :
    ofTokens source tokens = .ok c ↔ Spells source tokens c := by
  constructor
  · intro h
    rcases tokens with _ | ⟨name, rest⟩
    · simp [ofTokens] at h
    · by_cases hname : name.isOperand = true
      · rcases rest with _ | ⟨bar, rest⟩
        · simp only [ofTokens, hname, Bool.not_true, Bool.false_eq_true, if_false, Except.ok.injEq] at h
          subst h
          exact .chain hname .none
        · by_cases hbar : bar.kind = .pipe
          · simp only [ofTokens, hname, Bool.not_true, Bool.false_eq_true, if_false, if_pos hbar] at h
            obtain ⟨fs, hfilters, rfl⟩ := Outcome.map_eq_ok_iff.1 h
            exact .chain hname (spells_of_filters? hfilters)
          · simp [ofTokens, hname, hbar] at h
      · simp [ofTokens, hname] at h
  · rintro ⟨hname, hfilters⟩
    have hread := filters?_of_spells hfilters
    cases hfilters with
    | none => simp [ofTokens, hname]
    | more hbar _ _ => simp [ofTokens, hname, hbar, hread, Except.map]

end FilterChain

/-! ## Reading by place -/

namespace FilterCall

/-- Whether the token at the place `i` is a word with a colon behind it.  None if a place behind the end of the list
is looked up. -/
def labelAt (tokens : List Token) (i : Nat) : Option Bool := do
  let first ← tokens[i]?
  if first.kind = .word then tokens[i + 1]?.map (·.kind == .colon) else some false

/-- The argument at the place `i` of a list of tokens, its end included, and the place behind it. -/
def argumentAt (source : Text) (tokens : List Token) (i : Nat) : Option (Except SyntaxError (Text × Nat)) := do
  let first ← tokens[i]?
  if ← labelAt tokens i then
    let operand ← tokens[i + 2]?
    if operand.isOperand then
      return .ok ((source.drop first.position).take (operand.stop - first.position), i + 3)
    else return .error ⟨.missingValue first.text, some source, some operand.position⟩
  else if first.isOperand then return .ok (first.text, i + 1)
  else return .error ⟨.missingArgument, some source, some first.position⟩

theorem argumentAt_lt {source t : Text} {tokens : List Token} {i j : Nat}
    (h : argumentAt source tokens i = some (.ok (t, j))) : i < tokens.length ∧ i < j := by
  unfold argumentAt at h
  simp only [Option.bind_eq_bind, Option.pure_def, Option.bind_eq_some_iff] at h
  obtain ⟨first, hfirst, labels, -, h⟩ := h
  refine ⟨(List.getElem?_eq_some_iff.1 hfirst).1, ?_⟩
  split at h
  · obtain ⟨operand, -, h⟩ := Option.bind_eq_some_iff.1 h
    split at h <;> simp at h
    omega
  · split at h <;> simp at h
    omega

/-- The arguments at the place `i` of a list of tokens, with commas between them, and the place behind them. -/
def argumentsAt (source : Text) (tokens : List Token) (i : Nat) : Option (Except SyntaxError (List Text × Nat)) :=
  match _h : argumentAt source tokens i with
  | none => none
  | some (.error e) => some (.error e)
  | some (.ok (t, j)) => do
    let comma ← tokens[j]?
    if comma.kind = .comma then
      (argumentsAt source tokens (j + 1)).map fun p => p.map fun p => (t :: p.1, p.2)
    else return .ok ([t], j)
  termination_by tokens.length - i
  decreasing_by
    have := argumentAt_lt _h
    omega

theorem argumentsAt_of_argumentAt {source t : Text} {tokens : List Token} {i j : Nat}
    (h : argumentAt source tokens i = some (.ok (t, j))) :
    argumentsAt source tokens i = tokens[j]?.bind fun comma =>
      if comma.kind = .comma then
        (argumentsAt source tokens (j + 1)).map fun p => p.map fun p => (t :: p.1, p.2)
      else some (.ok ([t], j)) := by
  rw [argumentsAt]
  split
  · next he => simp [h] at he
  · next he => simp [h] at he
  · next he =>
      simp only [h, Option.some.injEq, Except.ok.injEq, Prod.mk.injEq] at he
      obtain ⟨rfl, rfl⟩ := he
      rfl

theorem argumentsAt_of_error {source : Text} {tokens : List Token} {i : Nat} {e : SyntaxError}
    (h : argumentAt source tokens i = some (.error e)) : argumentsAt source tokens i = some (.error e) := by
  rw [argumentsAt]
  split
  · next he => simp [h] at he
  · next he =>
      rw [h, Option.some.injEq, Except.error.injEq] at he
      rw [he]
  · next he => simp [h] at he

theorem argumentsAt_of_none {source : Text} {tokens : List Token} {i : Nat} (h : argumentAt source tokens i = none) :
    argumentsAt source tokens i = none := by
  rw [argumentsAt]
  split
  · rfl
  · next he => simp [h] at he
  · next he => simp [h] at he

theorem argumentsAt_lt {source : Text} {ts : List Text} {tokens : List Token} {i j : Nat}
    (h : argumentsAt source tokens i = some (.ok (ts, j))) : i < j := by
  induction i using argumentsAt.induct source tokens generalizing ts with
  | case1 i ha => simp [argumentsAt_of_none ha] at h
  | case2 i e ha => simp [argumentsAt_of_error ha] at h
  | case3 i t k ha ih =>
      have hlt := argumentAt_lt ha
      rw [argumentsAt_of_argumentAt ha, Option.bind_eq_some_iff] at h
      obtain ⟨comma, -, h⟩ := h
      split at h
      · obtain ⟨outcome, hmore, he⟩ := Option.map_eq_some_iff.1 h
        obtain ⟨⟨ts', j'⟩, rfl, hpair⟩ := Outcome.map_eq_ok_iff.1 he
        obtain ⟨-, rfl⟩ := Prod.mk.inj hpair
        have := ih hmore
        omega
      · simp only [Option.some.injEq, Except.ok.injEq, Prod.mk.injEq] at h
        omega

/-- The filter at the place `i` of a list of tokens, and the place behind it. -/
def readAt (source : Text) (tokens : List Token) (i : Nat) : Option (Except SyntaxError (FilterCall × Nat)) := do
  let name ← tokens[i]?
  if name.kind = .word ∧ Text.isIdentifier name.text = true then
    let colon ← tokens[i + 1]?
    if colon.kind = .colon then
      (argumentsAt source tokens (i + 2)).map fun p => p.map fun p => (⟨name.text, p.1⟩, p.2)
    else return .ok (⟨name.text, []⟩, i + 1)
  else return .error ⟨.invalidFilter, some source, some name.position⟩

theorem readAt_lt {source : Text} {f : FilterCall} {tokens : List Token} {i j : Nat}
    (h : readAt source tokens i = some (.ok (f, j))) : i < tokens.length ∧ i < j := by
  unfold readAt at h
  simp only [Option.bind_eq_bind, Option.pure_def, Option.bind_eq_some_iff] at h
  obtain ⟨name, hname, h⟩ := h
  refine ⟨(List.getElem?_eq_some_iff.1 hname).1, ?_⟩
  split at h
  · obtain ⟨colon, -, h⟩ := Option.bind_eq_some_iff.1 h
    split at h
    · obtain ⟨outcome, hmore, he⟩ := Option.map_eq_some_iff.1 h
      obtain ⟨⟨ts, j'⟩, rfl, hpair⟩ := Outcome.map_eq_ok_iff.1 he
      obtain ⟨-, rfl⟩ := Prod.mk.inj hpair
      have := argumentsAt_lt hmore
      omega
    · simp at h
      omega
  · simp at h

end FilterCall

namespace FilterChain

/-- The filters from the place `i` of a list of tokens to its end. -/
def filtersAt (source : Text) (tokens : List Token) (i : Nat) : Option (Except SyntaxError (List FilterCall)) := do
  let bar ← tokens[i]?
  if bar.kind = .pipe then
    match _h : FilterCall.readAt source tokens (i + 1) with
    | none => none
    | some (.error e) => return .error e
    | some (.ok (f, j)) => (filtersAt source tokens j).map fun p => p.map (f :: ·)
  else if bar.kind = .finish then return .ok []
  else return .error ⟨.unexpectedToken bar.text, some source, some bar.position⟩
  termination_by tokens.length - i
  decreasing_by
    have := FilterCall.readAt_lt _h
    omega

/-- The chain that a list of tokens forms, its end included, where each token is looked up by its place.  None if a
place is behind the end of the list. -/
def atPlaces (source : Text) (tokens : List Token) : Option (Except SyntaxError FilterChain) := do
  let name ← tokens[0]?
  if name.isOperand then
    let bar ← tokens[1]?
    if bar.kind = .finish then return .ok ⟨name.text, []⟩
    else if bar.kind = .pipe then (filtersAt source tokens 1).map fun p => p.map (⟨name.text, ·⟩)
    else return .error ⟨.missingPipe bar.text, some source, some bar.position⟩
  else return .error ⟨.missingName, some source, none⟩

end FilterChain

/-- The place of the tokens that are left of a run of tokens. -/
def Token.placeOf (run left : List Token) : Nat := run.length - left.length

section Places

variable {source : Text} {run : List Token}

theorem Token.getElem?_placeOf {left : List Token} (e : Token) (h : left <:+ run) (k : Nat) :
    (run ++ [e])[Token.placeOf run left + k]? = (left ++ [e])[k]? := by
  obtain ⟨front, rfl⟩ := h
  have hplace : Token.placeOf (front ++ left) left = front.length := by simp [Token.placeOf]
  rw [hplace, List.append_assoc, List.getElem?_append_right (by omega)]
  simp

theorem Token.placeOf_cons {t : Token} {left : List Token} (h : t :: left <:+ run) :
    Token.placeOf run left = Token.placeOf run (t :: left) + 1 := by
  have hle := h.length_le
  simp only [Token.placeOf, List.length_cons] at hle ⊢
  omega

namespace FilterCall

theorem argumentAt_placeOf {left : List Token} (h : left <:+ run) :
    argumentAt source (run ++ [Token.atEnd source]) (Token.placeOf run left) =
      some ((argument source left).map fun p => (p.1, Token.placeOf run p.2)) := by
  have h₀ := Token.getElem?_placeOf (Token.atEnd source) h 0
  have h₁ := Token.getElem?_placeOf (Token.atEnd source) h 1
  have h₂ := Token.getElem?_placeOf (Token.atEnd source) h 2
  have hend : (Token.atEnd source).isOperand = false := rfl
  have hkind : (Token.atEnd source).kind = .finish := rfl
  have hposition : (Token.atEnd source).position = source.length := rfl
  rw [Nat.add_zero] at h₀
  rcases left with _ | ⟨first, rest⟩
  · simp [argumentAt, labelAt, argument, h₀, hend, hkind, hposition, Except.map]
  · have hplace := Token.placeOf_cons h
    by_cases hword : first.kind = .word
    · have hoperand : first.isOperand = true := by simp [Token.isOperand, hword, TokenKind.isOperand]
      rcases rest with _ | ⟨colon, rest⟩
      · simp [argumentAt, labelAt, argument, h₀, h₁, hword, hoperand, hkind, hplace, Except.map]
      · by_cases hcolon : colon.kind = .colon
        · have hplace₁ := Token.placeOf_cons ((List.suffix_cons first _).trans h)
          rcases rest with _ | ⟨operand, rest⟩
          · simp [argumentAt, labelAt, argument, h₀, h₁, h₂, hword, hcolon, hend, hposition, Except.map]
          · have hplace₂ := Token.placeOf_cons (((List.suffix_append [first, colon] _)).trans h)
            cases ho : operand.isOperand <;>
              simp [argumentAt, labelAt, argument, h₀, h₁, h₂, hword, hcolon, ho, Token.source, hplace, hplace₁,
                hplace₂, Except.map]
        · simp [argumentAt, labelAt, argument, h₀, h₁, hword, hoperand, hcolon, hplace, Except.map]
    · have hlabel : labelAt (run ++ [Token.atEnd source]) (Token.placeOf run (first :: rest)) = some false := by
        simp [labelAt, h₀, hword]
      cases ho : first.isOperand <;> simp [argumentAt, hlabel, argument, h₀, hword, ho, hplace, Except.map]

theorem argumentsAt_placeOf {left : List Token} (h : left <:+ run) :
    argumentsAt source (run ++ [Token.atEnd source]) (Token.placeOf run left) =
      some ((arguments? source left).map fun p => (p.1, Token.placeOf run p.2)) := by
  induction hn : left.length using Nat.strongRecOn generalizing left with
  | ind n ih =>
      have hfirst := @argumentAt_placeOf source run left h
      cases ha : argument source left with
      | error e =>
          rw [ha] at hfirst
          rw [argumentsAt_of_error hfirst, arguments?_eq_error ha]
          rfl
      | ok p =>
          obtain ⟨t, after⟩ := p
          have hlt := argument_length_lt ha
          rw [ha] at hfirst
          obtain ⟨first, rfl, -⟩ := spells_of_argument ha
          have hafter := (List.suffix_append first after).trans h
          have hnext := Token.getElem?_placeOf (Token.atEnd source) hafter 0
          rw [Nat.add_zero] at hnext
          rw [argumentsAt_of_argumentAt hfirst, hnext]
          rcases after with _ | ⟨comma, rest⟩
          · have hkind : (Token.atEnd source).kind ≠ .comma := nofun
            rw [arguments?_last ha (Token.notFirst_nil _)]
            simp [hkind, Except.map]
          · by_cases hcomma : comma.kind = .comma
            · have hrest := (List.suffix_cons comma rest).trans hafter
              rw [List.length_cons] at hlt
              rw [arguments?_more ha hcomma]
              simp only [List.cons_append, List.getElem?_cons_zero, Option.bind_some, hcomma, if_true,
                ← Token.placeOf_cons hafter, ih rest.length (by omega) hrest rfl]
              cases arguments? source rest <;> rfl
            · rw [arguments?_last ha (Token.notFirst_cons_iff.2 hcomma)]
              simp [hcomma, Except.map]

theorem readAt_placeOf {left : List Token} (h : left <:+ run) :
    readAt source (run ++ [Token.atEnd source]) (Token.placeOf run left) =
      some ((read source left).map fun p => (p.1, Token.placeOf run p.2)) := by
  have h₀ := Token.getElem?_placeOf (Token.atEnd source) h 0
  have h₁ := Token.getElem?_placeOf (Token.atEnd source) h 1
  have hkind : (Token.atEnd source).kind = .finish := rfl
  have hposition : (Token.atEnd source).position = source.length := rfl
  rw [Nat.add_zero] at h₀
  rcases left with _ | ⟨name, rest⟩
  · simp [readAt, read, h₀, hkind, hposition, Except.map]
  · have hplace := Token.placeOf_cons h
    by_cases hname : name.kind = .word ∧ Text.isIdentifier name.text = true
    · rcases rest with _ | ⟨colon, rest⟩
      · simp [readAt, read, h₀, h₁, hname, hkind, hplace, Except.map]
      · by_cases hcolon : colon.kind = .colon
        · have hrest := (List.suffix_append [name, colon] rest).trans h
          have hplace₁ := Token.placeOf_cons ((List.suffix_cons name _).trans h)
          have harguments := @argumentsAt_placeOf source run rest hrest
          rw [hplace₁, hplace] at harguments
          simp only [readAt, read, h₀, h₁, List.cons_append, List.getElem?_cons_zero, List.getElem?_cons_succ,
            Option.bind_eq_bind, Option.bind_some, if_pos hname, if_pos hcolon]
          rw [harguments]
          cases arguments? source rest <;> rfl
        · simp [readAt, read, h₀, h₁, hname, hcolon, hplace, Except.map]
    · simp only [readAt, read, h₀, List.cons_append, List.getElem?_cons_zero, Option.bind_eq_bind,
        Option.bind_some, if_neg hname]
      rfl

end FilterCall

namespace FilterChain

theorem filtersAt_finish {tokens : List Token} {i : Nat} {token : Token} (h : tokens[i]? = some token)
    (hkind : token.kind = .finish) : filtersAt source tokens i = some (.ok []) := by
  rw [filtersAt]
  simp [h, hkind]

theorem filtersAt_stray {tokens : List Token} {i : Nat} {token : Token} (h : tokens[i]? = some token)
    (hbar : token.kind ≠ .pipe) (hkind : token.kind ≠ .finish) : filtersAt source tokens i =
      some (.error ⟨.unexpectedToken token.text, some source, some token.position⟩) := by
  rw [filtersAt]
  simp [h, hbar, hkind]

theorem filtersAt_refused {tokens : List Token} {i : Nat} {token : Token} {e : SyntaxError}
    (h : tokens[i]? = some token) (hbar : token.kind = .pipe)
    (hread : FilterCall.readAt source tokens (i + 1) = some (.error e)) :
    filtersAt source tokens i = some (.error e) := by
  rw [filtersAt]
  simp only [h, Option.bind_eq_bind, Option.bind_some, if_pos hbar]
  split
  · next he => simp [hread] at he
  · next he =>
      rw [hread, Option.some.injEq, Except.error.injEq] at he
      subst he
      rfl
  · next he => simp [hread] at he

theorem filtersAt_more {tokens : List Token} {i j : Nat} {token : Token} {f : FilterCall}
    (h : tokens[i]? = some token) (hbar : token.kind = .pipe)
    (hread : FilterCall.readAt source tokens (i + 1) = some (.ok (f, j))) :
    filtersAt source tokens i = (filtersAt source tokens j).map fun p => p.map (f :: ·) := by
  rw [filtersAt]
  simp only [h, Option.bind_eq_bind, Option.bind_some, if_pos hbar]
  split
  · next he => simp [hread] at he
  · next he => simp [hread] at he
  · next he =>
      simp only [hread, Option.some.injEq, Except.ok.injEq, Prod.mk.injEq] at he
      obtain ⟨rfl, rfl⟩ := he
      rfl

theorem filtersAt_placeOf (hfinish : ∀ token ∈ run, token.kind ≠ .finish) {left : List Token} (h : left <:+ run) :
    filtersAt source (run ++ [Token.atEnd source]) (Token.placeOf run left) = some (filters? source left) := by
  induction hn : left.length using Nat.strongRecOn generalizing left with
  | ind n ih =>
      have h₀ := Token.getElem?_placeOf (Token.atEnd source) h 0
      rw [Nat.add_zero] at h₀
      rcases left with _ | ⟨bar, rest⟩
      · rw [filtersAt_finish h₀ rfl, filters?_nil]
      · rw [List.cons_append, List.getElem?_cons_zero] at h₀
        by_cases hbar : bar.kind = .pipe
        · have hrest := (List.suffix_cons bar rest).trans h
          have hread := @FilterCall.readAt_placeOf source run rest hrest
          rw [Token.placeOf_cons h] at hread
          rw [filters?_bar hbar]
          cases hf : FilterCall.read source rest with
          | error e =>
              rw [hf] at hread
              rw [filtersAt_refused h₀ hbar hread]
              rfl
          | ok p =>
              obtain ⟨f, after⟩ := p
              have hlt := FilterCall.read_length_lt hf
              rw [hf] at hread
              obtain ⟨filter, rfl, -⟩ := FilterCall.spells_of_read hf
              rw [List.length_cons] at hn
              have hafter := (List.suffix_append filter after).trans hrest
              rw [filtersAt_more h₀ hbar hread, ih after.length (by omega) hafter rfl]
              rfl
        · rw [filtersAt_stray h₀ hbar (hfinish bar (h.mem (by simp))), filters?_stray hbar]

/-- Reading a chain by place, up to the end that stands behind its tokens, looks up no place behind the end. -/
theorem atPlaces_append_atEnd (hfinish : ∀ token ∈ run, token.kind ≠ .finish) :
    atPlaces source (run ++ [Token.atEnd source]) = some (ofTokens source run) := by
  have hend : (Token.atEnd source).isOperand = false := rfl
  have hkind : (Token.atEnd source).kind = .finish := rfl
  rcases run with _ | ⟨name, rest⟩
  · simp [atPlaces, ofTokens, hend]
  · by_cases hname : name.isOperand = true
    · rcases rest with _ | ⟨bar, rest⟩
      · simp [atPlaces, ofTokens, hname, hkind]
      · by_cases hbar : bar.kind = .pipe
        · have hfilters := @filtersAt_placeOf source _ hfinish _ (List.suffix_cons name (bar :: rest))
          have hplace : Token.placeOf (name :: bar :: rest) (bar :: rest) = 1 := by simp [Token.placeOf]
          rw [hplace] at hfilters
          simp only [List.cons_append] at hfilters
          simp [atPlaces, ofTokens, hname, hbar, hfilters]
        · have hbarEnd : bar.kind ≠ .finish := hfinish bar (by simp)
          simp [atPlaces, ofTokens, hname, hbar, hbarEnd]
    · simp [atPlaces, ofTokens, hname]

end FilterChain

end Places

namespace FilterChain

theorem atPlaces_tokenize {markup : Text} {tokens : List Token} (h : Token.tokenize markup = .ok tokens) :
    atPlaces markup tokens = some (parse markup) := by
  obtain ⟨run, hscan, rfl⟩ := Token.tokenize_eq_ok_iff_scan.1 h
  have hfinish : ∀ token ∈ run, token.kind ≠ .finish := by
    intro token htoken
    obtain ⟨c, before, after, hn⟩ := (Token.scan_eq_ok_iff.1 hscan).next_of_mem token htoken
    exact Condition.next_kind_ne_finish hn
  rw [atPlaces_append_atEnd hfinish, parse, hscan]
  rfl

/-- The markup has tokens, and they spell a chain. -/
def IsChain (markup : Text) : Prop :=
  ∃ tokens c, Token.tokenize markup = .ok (tokens ++ [Token.atEnd markup]) ∧ Spells markup tokens c

theorem parse_eq_ok_iff {markup : Text} {c : FilterChain} : parse markup = .ok c ↔
    ∃ tokens, Token.tokenize markup = .ok (tokens ++ [Token.atEnd markup]) ∧ Spells markup tokens c := by
  rw [parse, Outcome.bind_eq_ok_iff]
  simp only [ofTokens_eq_ok_iff, Token.tokenize_eq_ok_iff]

theorem exists_parse_iff_isChain {markup : Text} : (∃ c, parse markup = .ok c) ↔ IsChain markup := by
  simp only [parse_eq_ok_iff]
  exact exists_comm

/-- **Reading a chain agrees with its stream of tokens.**  It succeeds exactly when the tokens of the markup spell a
chain, gives the operand and the filters that they spell, and otherwise ends with a syntax error; no place behind the
end of the tokens is looked up. -/
theorem parse_iff_spells (markup : Text) :
    (∀ c, parse markup = .ok c ↔
      ∃ tokens, Token.tokenize markup = .ok (tokens ++ [Token.atEnd markup]) ∧ Spells markup tokens c) ∧
    ((∃ c, parse markup = .ok c) ↔ IsChain markup) ∧
    ((∃ e, parse markup = .error e) ↔ ¬ IsChain markup) ∧
    ∀ tokens, Token.tokenize markup = .ok tokens → atPlaces markup tokens = some (parse markup) := by
  refine ⟨fun c => parse_eq_ok_iff, exists_parse_iff_isChain, ?_, fun tokens h => atPlaces_tokenize h⟩
  rw [← exists_parse_iff_isChain]
  cases parse markup <;> simp

end FilterChain

end Liquid
