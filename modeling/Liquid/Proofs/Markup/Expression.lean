import Liquid.Markup.Condition
import Liquid.Proofs.Markup.Scan
import Liquid.Proofs.Outcome

/-!
# Expressions as streams of tokens

An expression is read twice: its tokens are cut at the connectives, and each condition is read again from the
source of its run of tokens.  The second reading sees the same tokens, so that an expression is what its one
stream of tokens says.

## Main definitions

* `Condition.Spells` — what a run of tokens says as a condition.
* `Condition.atPlaces` — a condition read by looking up the places of a list of tokens.
* `Expression.Reads` — what a stream of tokens says as an expression.

## Main statements

* `Condition.parse_source` — a condition is read from its source as from its run of tokens.
* `Condition.atPlaces_tokenize` — reading a condition looks up no place behind the end.
* `Expression.parse_iff_stream` — reading an expression agrees with its stream of tokens.
-/

namespace Liquid

namespace Condition

/-! ## One condition -/

/-- `Spells run c`: the run of tokens is an operand, or two operands with a comparator between them, and `c` is
made of their texts. -/
inductive Spells : List Token → Condition → Prop
  | operand {left : Token} : left.isOperand = true → Spells [left] ⟨left.text, none⟩
  | comparison {left operator right : Token} {comparator : Comparator} :
      left.isOperand = true → operator.kind = .comparator → comparator.text = operator.text →
      right.isOperand = true → Spells [left, operator, right] ⟨left.text, some (comparator, right.text)⟩

/-- Whether a run of tokens is an operand, or two operands with a comparator between them. -/
def isForm : List Token → Bool
  | [left] => left.isOperand
  | [left, operator, right] => left.isOperand && operator.kind == .comparator && right.isOperand
  | _ => false

theorem ofTokens_of_spells (tag source : Text) {tokens : List Token} {c : Condition} (h : Spells tokens c) :
    ofTokens tag source tokens = .ok c := by
  cases h with
  | operand hl => simp [ofTokens, hl]
  | @comparison left operator right comparator hl ho ht hr =>
      have hof : Comparator.ofText? operator.text = some comparator := by
        rw [← ht, Comparator.ofText?_text]
      simp [ofTokens, hl, ho, hof, hr]

theorem isOperand_of_ofTokens {tag source : Text} {left : Token} {rest : List Token} {c : Condition}
    (h : ofTokens tag source (left :: rest) = .ok c) : left.isOperand = true := by
  by_cases hl : left.isOperand = true
  · exact hl
  · simp [ofTokens, hl] at h

/-- Behind the first operand of a condition there is nothing, or a comparator. -/
theorem comparator_of_ofTokens {tag source : Text} {left operator : Token} {rest : List Token} {c : Condition}
    (h : ofTokens tag source (left :: operator :: rest) = .ok c) :
    operator.kind = .comparator ∧ ∃ comparator, Comparator.ofText? operator.text = some comparator := by
  have hl : left.isOperand = true := isOperand_of_ofTokens h
  cases hk : operator.kind with
  | comparator =>
      cases hof : Comparator.ofText? operator.text with
      | none => simp [ofTokens, hl, hk, hof] at h
      | some comparator => exact ⟨rfl, comparator, rfl⟩
  | quoted | word | pipe | comma | colon | finish => simp [ofTokens, hl, hk] at h

theorem spells_of_ofTokens {tag source : Text} {tokens : List Token} {c : Condition}
    (h : ofTokens tag source tokens = .ok c) : Spells tokens c := by
  rcases tokens with _ | ⟨left, _ | ⟨operator, rest⟩⟩
  · simp [ofTokens] at h
  · have hl : left.isOperand = true := isOperand_of_ofTokens h
    simp only [ofTokens, hl, Bool.not_true, Bool.false_eq_true, if_false, Except.ok.injEq] at h
    subst h
    exact .operand hl
  · have hl : left.isOperand = true := isOperand_of_ofTokens h
    obtain ⟨hk, comparator, hof⟩ := comparator_of_ofTokens h
    rcases rest with _ | ⟨right, rest⟩
    · simp [ofTokens, hl, hk, hof] at h
    · by_cases hr : right.isOperand = true
      · rcases rest with _ | ⟨extra, rest⟩
        · simp only [ofTokens, hl, hk, hof, hr, Bool.not_true, Bool.false_eq_true, if_false, reduceCtorEq,
            Except.ok.injEq] at h
          subst h
          exact .comparison hl hk (Comparator.text_of_ofText? hof) hr
        · simp [ofTokens, hl, hk, hof, hr] at h
      · simp [ofTokens, hl, hk, hof, hr] at h

/-- A condition is read from a list of tokens exactly when they spell it. -/
theorem ofTokens_eq_ok_iff {tag source : Text} {tokens : List Token} {c : Condition} :
    ofTokens tag source tokens = .ok c ↔ Spells tokens c :=
  ⟨spells_of_ofTokens, ofTokens_of_spells tag source⟩

/-- What a run of tokens says does not depend on where it stands. -/
theorem spells_map_shift_iff {k : Nat} {tokens : List Token} {c : Condition} :
    Spells (tokens.map (Token.shift k)) c ↔ Spells tokens c := by
  constructor
  · intro h
    generalize hmap : tokens.map (Token.shift k) = shifted at h
    cases h with
    | operand hl =>
        obtain ⟨left, rfl, rfl⟩ := List.map_eq_singleton_iff.1 hmap
        exact .operand hl
    | comparison hl ho ht hr =>
        obtain ⟨left, rest, rfl, rfl, hrest⟩ := List.map_eq_cons_iff.1 hmap
        obtain ⟨operator, rest', rfl, rfl, hrest'⟩ := List.map_eq_cons_iff.1 hrest
        obtain ⟨right, rfl, rfl⟩ := List.map_eq_singleton_iff.1 hrest'
        exact .comparison hl ho ht hr
  · intro h
    cases h with
    | @operand left hl =>
        change Spells [left.shift k] ⟨(left.shift k).text, none⟩
        exact .operand hl
    | @comparison left operator right comparator hl ho ht hr =>
        change Spells [left.shift k, operator.shift k, right.shift k]
          ⟨(left.shift k).text, some (comparator, (right.shift k).text)⟩
        exact .comparison hl ho ht hr

/-- **A condition is read from the source of its run of tokens as from the run itself.** -/
theorem parse_source {tag t : Text} {before run after : List Token} {c : Condition}
    (h : Token.scan t = .ok (before ++ (run ++ after))) :
    parse tag (Token.source t run) = .ok c ↔ Spells run c := by
  cases run with
  | nil =>
      have hscan : Token.scan (Token.source t []) = .ok [] := Token.scan_eq_ok_iff.2 (.done 0 [])
      rw [parse, hscan]
      change ofTokens tag _ [] = .ok c ↔ _
      exact ofTokens_eq_ok_iff
  | cons first others =>
      obtain ⟨run, hrun, hscan⟩ := Token.scan_source h
      rw [hrun, spells_map_shift_iff, ← hrun, parse, hscan]
      change ofTokens tag _ run = .ok c ↔ _
      exact ofTokens_eq_ok_iff

/-! ## Reading by place -/

/-- The condition that a list of tokens forms, its end included, where each token is looked up by its place.
None if a place is behind the end of the list, or a comparator is none of the eight. -/
def atPlaces (tag source : Text) (tokens : List Token) : Option (Except SyntaxError Condition) := do
  let left ← tokens[0]?
  if !left.isOperand then return .error ⟨.conditionForm tag, some source, none⟩
  else
    let operator ← tokens[1]?
    match operator.kind with
    | .finish => return .ok ⟨left.text, none⟩
    | .word => return .error ⟨.unknownOperator operator.text, some source, some operator.position⟩
    | .comparator =>
      let right ← tokens[2]?
      if !right.isOperand then
        return .error ⟨.missingOperand operator.text, some source, some right.position⟩
      else
        let extra ← tokens[3]?
        if extra.kind ≠ .finish then
          return .error ⟨.unexpectedToken extra.text, some source, some extra.position⟩
        else
          let comparator ← Comparator.ofText? operator.text
          return .ok ⟨left.text, some (comparator, right.text)⟩
    | _ => return .error ⟨.conditionForm tag, some source, some operator.position⟩

theorem next_kind_ne_finish {c : Char} {before text after : Text} {kind : TokenKind}
    (h : Token.Next c before kind text after) : kind ≠ .finish := by
  cases h with
  | quoted => simp
  | separator hs =>
      rcases Token.separator?_eq_some_iff.1 hs with ⟨-, rfl⟩ | ⟨-, rfl⟩ | ⟨-, rfl⟩ <;> simp
  | wide => simp
  | narrow => simp
  | word => split <;> simp

/-- A comparator in a text is one of the eight. -/
theorem ofText?_of_next {c : Char} {before text after : Text} (h : Token.Next c before .comparator text after) :
    ∃ comparator, Comparator.ofText? text = some comparator := by
  generalize hkind : TokenKind.comparator = kind at h
  cases h with
  | quoted => simp at hkind
  | separator hs =>
      rcases Token.separator?_eq_some_iff.1 hs with ⟨-, rfl⟩ | ⟨-, rfl⟩ | ⟨-, rfl⟩ <;> simp at hkind
  | wide hw =>
      rcases Token.isWideComparator_eq_true_iff.1 hw with ⟨rfl, rfl | rfl | rfl | rfl⟩ | ⟨rfl, rfl⟩
      · exact ⟨.equal, rfl⟩
      · exact ⟨.notEqual, rfl⟩
      · exact ⟨.atMost, rfl⟩
      · exact ⟨.atLeast, rfl⟩
      · exact ⟨.unequal, rfl⟩
  | narrow hc =>
      rcases hc with rfl | rfl
      · exact ⟨.less, rfl⟩
      · exact ⟨.greater, rfl⟩
  | word =>
      split at hkind
      · next ht => exact ⟨.contains, by rw [ht]; rfl⟩
      · simp at hkind

theorem atPlaces_append_atEnd (tag source : Text) {run : List Token}
    (hkind : ∀ token ∈ run, token.kind ≠ .finish)
    (hof : ∀ token ∈ run, token.kind = .comparator → ∃ comparator, Comparator.ofText? token.text = some comparator) :
    atPlaces tag source (run ++ [Token.atEnd source]) = some (ofTokens tag source run) := by
  have hend : (Token.atEnd source).isOperand = false := rfl
  have hposition : (Token.atEnd source).position = source.length := rfl
  cases run with
  | nil => simp [atPlaces, ofTokens, hend]
  | cons left rest =>
      by_cases hl : left.isOperand = true
      · cases rest with
        | nil => simp [atPlaces, ofTokens, hl, Token.atEnd]
        | cons operator rest =>
            cases hk : operator.kind with
            | comparator =>
                obtain ⟨comparator, ho⟩ := hof operator (by simp) hk
                cases rest with
                | nil => simp [atPlaces, ofTokens, hl, hk, ho, hend, hposition]
                | cons right rest =>
                    by_cases hr : right.isOperand = true
                    · cases rest with
                      | nil => simp [atPlaces, ofTokens, hl, hk, ho, hr, Token.atEnd]
                      | cons extra rest =>
                          have hextra : extra.kind ≠ .finish := hkind extra (by simp)
                          simp [atPlaces, ofTokens, hl, hk, ho, hr, hextra]
                    · simp [atPlaces, ofTokens, hl, hk, ho, hr]
            | finish => exact absurd hk (hkind operator (by simp))
            | word | quoted | pipe | comma | colon => simp [atPlaces, ofTokens, hl, hk]
      · simp [atPlaces, ofTokens, hl]

/-- **Reading a condition looks up no place behind the end of its tokens**, and gives what the condition is. -/
theorem atPlaces_tokenize {tag fragment : Text} {tokens : List Token}
    (h : Token.tokenize fragment = .ok tokens) : atPlaces tag fragment tokens = some (parse tag fragment) := by
  cases hscan : Token.scan fragment with
  | error e => simp [Token.tokenize, hscan, Except.map] at h
  | ok run =>
      simp only [Token.tokenize, hscan, Except.map, Except.ok.injEq] at h
      subst h
      have hnext := (Token.scan_eq_ok_iff.1 hscan).next_of_mem
      have hparse : parse tag fragment = ofTokens tag fragment run := by
        rw [parse, hscan]
        rfl
      rw [hparse]
      refine atPlaces_append_atEnd tag fragment ?_ ?_
      · intro token htoken
        obtain ⟨c, before, after, hn⟩ := hnext token htoken
        exact next_kind_ne_finish hn
      · intro token htoken hk
        obtain ⟨c, before, after, hn⟩ := hnext token htoken
        rw [hk] at hn
        exact ofText?_of_next hn

/-- A run of scanned tokens has the form of a condition exactly when it spells one. -/
theorem isForm_iff_exists_spells {run : List Token}
    (h : ∀ token ∈ run, ∃ c before after, Token.Next c before token.kind token.text after) :
    isForm run = true ↔ ∃ c, Spells run c := by
  constructor
  · intro hform
    rcases run with _ | ⟨left, _ | ⟨operator, _ | ⟨right, _ | ⟨extra, rest⟩⟩⟩⟩
    · simp [isForm] at hform
    · exact ⟨_, .operand hform⟩
    · simp [isForm] at hform
    · simp only [isForm, Bool.and_eq_true, beq_iff_eq] at hform
      obtain ⟨⟨hl, hk⟩, hr⟩ := hform
      obtain ⟨c, before, after, hn⟩ := h operator (by simp)
      rw [hk] at hn
      obtain ⟨comparator, ho⟩ := ofText?_of_next hn
      exact ⟨_, .comparison hl hk (Comparator.text_of_ofText? ho) hr⟩
    · simp [isForm] at hform
  · rintro ⟨c, hc⟩
    cases hc with
    | operand hl => exact hl
    | comparison hl hk ht hr => simp [isForm, hl, hk, hr]

end Condition

namespace Expression

/-! ## Runs between connectives -/

/-- A token that is one of the words `and` and `or`. -/
def isConnective (token : Token) : Bool :=
  token.kind == .word && (token.text == "and".toList || token.text == "or".toList)

theorem isConnective_eq_isSome (token : Token) : isConnective token = (Connective.ofToken? token).isSome := by
  unfold isConnective Connective.ofToken? Connective.text
  by_cases hk : token.kind = .word
  · by_cases ha : token.text = "and".toList
    · simp only [hk, ha]
      rfl
    · by_cases ho : token.text = "or".toList
      · simp only [hk, ho]
        rfl
      · rw [if_neg (by simp [hk]), if_neg ha, if_neg ho, hk, beq_eq_false_iff_ne.2 ha, beq_eq_false_iff_ne.2 ho]
        rfl
  · simp [hk]

/-- What a stream of tokens says as an expression: its runs between connectives spell the conditions. -/
structure Reads (tokens : List Token) (e : Expression) : Prop where
  nonempty : tokens ≠ []
  conditions : List.Forall₂ Condition.Spells (tokens.splitOnP isConnective) e.conditions
  connectives : e.connectives = .and :: tokens.filterMap Connective.ofToken?

theorem map_snd_cutAt (first : Connective) (tokens : List Token) :
    (cutAt first tokens).map Prod.snd = tokens.splitOnP isConnective := by
  induction tokens generalizing first with
  | nil => rfl
  | cons token rest ih =>
      rw [List.splitOnP_cons_eq_if_modifyHead, isConnective_eq_isSome]
      cases h : Connective.ofToken? token with
      | some connective => simp [cutAt, h, ih]
      | none =>
          have hrest := ih first
          cases hc : cutAt first rest with
          | nil => exact absurd hc (cutAt_ne_nil first rest)
          | cons run runs =>
              rw [hc] at hrest
              simp [cutAt, h, hc, ← hrest]

theorem map_fst_cutAt (first : Connective) (tokens : List Token) :
    (cutAt first tokens).map Prod.fst = first :: tokens.filterMap Connective.ofToken? := by
  induction tokens generalizing first with
  | nil => rfl
  | cons token rest ih =>
      cases h : Connective.ofToken? token with
      | some connective => simp [cutAt, h, ih]
      | none =>
          have hrest := ih first
          cases hc : cutAt first rest with
          | nil => exact absurd hc (cutAt_ne_nil first rest)
          | cons run runs =>
              rw [hc] at hrest
              simpa [cutAt, h, hc] using hrest

/-- A run between connectives stands in the stream as it is. -/
theorem infix_of_splitOnP {α : Type} {p : α → Bool} {l first : List α} {others : List (List α)}
    (h : l.splitOnP p = first :: others) : first <+: l ∧ ∀ run ∈ others, run <:+: l := by
  induction l generalizing first others with
  | nil =>
      simp only [List.splitOnP_nil, List.cons.injEq, List.nil_eq] at h
      obtain ⟨rfl, rfl⟩ := h
      simp
  | cons x l ih =>
      rw [List.splitOnP_cons_eq_if_modifyHead] at h
      obtain ⟨first', others', hl⟩ := List.exists_cons_of_ne_nil (List.splitOnP_ne_nil p l)
      obtain ⟨hfirst, hothers⟩ := ih hl
      by_cases hx : p x = true
      · rw [if_pos hx, hl, List.cons.injEq] at h
        obtain ⟨rfl, rfl⟩ := h
        refine ⟨List.nil_prefix, ?_⟩
        intro run hrun
        rcases List.mem_cons.1 hrun with rfl | hrun
        · exact List.infix_cons hfirst.isInfix
        · exact List.infix_cons (hothers run hrun)
      · rw [if_neg hx, hl, List.modifyHead_cons, List.cons.injEq] at h
        obtain ⟨rfl, rfl⟩ := h
        exact ⟨List.cons_prefix_cons.2 ⟨rfl, hfirst⟩, fun run hrun => List.infix_cons (hothers run hrun)⟩

theorem exists_append_of_mem_splitOnP {α : Type} {p : α → Bool} {l run : List α} (h : run ∈ l.splitOnP p) :
    ∃ before after, l = before ++ (run ++ after) := by
  obtain ⟨first, others, hl⟩ := List.exists_cons_of_ne_nil (List.splitOnP_ne_nil p l)
  have hinfix : run <:+: l := by
    rw [hl] at h
    rcases List.mem_cons.1 h with rfl | h
    · exact (infix_of_splitOnP hl).1.isInfix
    · exact (infix_of_splitOnP hl).2 run h
  obtain ⟨before, after, heq⟩ := hinfix
  exact ⟨before, after, by rw [← heq, List.append_assoc]⟩

/-- With the tokens of an expression at hand, its fragments are the sources of its runs. -/
theorem split_of_scan {t : Text} {tokens : List Token} (h : Token.scan t = .ok tokens) (hne : tokens ≠ []) :
    split t = .ok ((tokens.splitOnP isConnective).map (Token.source t),
      .and :: tokens.filterMap Connective.ofToken?) := by
  rw [← map_snd_cutAt .and, ← map_fst_cutAt .and]
  simp [split, pieces, h, hne, bind, Except.bind, pure, Except.pure, Except.map, Function.comp_def]

/-- With the tokens of an expression at hand, its conditions are read from the sources of its runs. -/
theorem parse_of_scan {tag t : Text} {tokens : List Token} (h : Token.scan t = .ok tokens) (hne : tokens ≠ []) :
    parse tag t = ((tokens.splitOnP isConnective).map (Token.source t)).mapM (Condition.parse tag) >>= fun cs =>
      .ok ⟨cs, .and :: tokens.filterMap Connective.ofToken?⟩ := by
  rw [parse, split_of_scan h hne]
  rfl

theorem parse_of_scan_nil {tag t : Text} (h : Token.scan t = .ok []) :
    parse tag t = .error ⟨.emptyCondition, some t, none⟩ := by
  simp [parse, split, pieces, h, bind, Except.bind, Except.map]

theorem parse_of_scan_error {tag t : Text} {e : SyntaxError} (h : Token.scan t = .error e) :
    parse tag t = .error e := by
  simp [parse, split, pieces, h, bind, Except.bind, Except.map]

/-- The conditions of an expression are what its runs of tokens spell. -/
theorem mapM_parse_source {tag t : Text} {tokens : List Token} {conditions : List Condition}
    (h : Token.scan t = .ok tokens) :
    ((tokens.splitOnP isConnective).map (Token.source t)).mapM (Condition.parse tag) = .ok conditions ↔
      List.Forall₂ Condition.Spells (tokens.splitOnP isConnective) conditions := by
  rw [Outcome.mapM_eq_ok_iff, List.forall₂_map_left_iff]
  refine Outcome.forall₂_congr ?_
  intro run hrun c
  obtain ⟨before, after, rfl⟩ := exists_append_of_mem_splitOnP hrun
  exact Condition.parse_source h

theorem reads_of_parse {tag t : Text} {e : Expression} (h : parse tag t = .ok e) :
    ∃ tokens, Token.scan t = .ok tokens ∧ Reads tokens e := by
  cases hscan : Token.scan t with
  | error failure => simp [parse_of_scan_error hscan] at h
  | ok tokens =>
      by_cases hne : tokens = []
      · subst hne
        simp [parse_of_scan_nil hscan] at h
      · rw [parse_of_scan hscan hne] at h
        obtain ⟨conditions, hconditions, he⟩ := Outcome.bind_eq_ok_iff.1 h
        rw [Except.ok.injEq] at he
        subst he
        exact ⟨tokens, rfl, hne, (mapM_parse_source hscan).1 hconditions, rfl⟩

theorem parse_of_reads {tag t : Text} {tokens : List Token} {e : Expression} (h : Token.scan t = .ok tokens)
    (hreads : Reads tokens e) : parse tag t = .ok e := by
  obtain ⟨conditions, connectives⟩ := e
  obtain ⟨hne, hconditions, rfl⟩ := hreads
  rw [parse_of_scan h hne, (mapM_parse_source h).2 hconditions]
  rfl

theorem parse_eq_ok_iff {tag t : Text} {e : Expression} :
    parse tag t = .ok e ↔ ∃ tokens, Token.scan t = .ok tokens ∧ Reads tokens e :=
  ⟨reads_of_parse, fun ⟨_, h, hreads⟩ => parse_of_reads h hreads⟩

/-- There is a connective for each condition. -/
theorem Reads.length_eq {tokens : List Token} {e : Expression} (h : Reads tokens e) :
    e.conditions.length = e.connectives.length := by
  rw [← h.conditions.length_eq, ← map_snd_cutAt .and, List.length_map, h.connectives, ← map_fst_cutAt .and,
    List.length_map]

/-- What was read has a first condition, joined by `and`, and a connective for each condition. -/
theorem Reads.shape {tokens : List Token} {e : Expression} (h : Reads tokens e) :
    ∃ c conditions connectives, e = ⟨c :: conditions, .and :: connectives⟩ ∧
      conditions.length = connectives.length := by
  have hlen := h.length_eq
  obtain ⟨conditions, connectives⟩ := e
  obtain ⟨-, -, rfl⟩ := h
  cases conditions with
  | nil => simp at hlen
  | cons c conditions => exact ⟨c, conditions, _, rfl, by simpa using hlen⟩

theorem exists_reads_iff {t : Text} {tokens : List Token} (h : Token.scan t = .ok tokens) :
    (∃ e, Reads tokens e) ↔
      tokens ≠ [] ∧ ∀ run ∈ tokens.splitOnP isConnective, Condition.isForm run = true := by
  have hnext := (Token.scan_eq_ok_iff.1 h).next_of_mem
  have hform : ∀ run ∈ tokens.splitOnP isConnective,
      (Condition.isForm run = true ↔ ∃ c, Condition.Spells run c) := by
    intro run hrun
    obtain ⟨before, after, rfl⟩ := exists_append_of_mem_splitOnP hrun
    refine Condition.isForm_iff_exists_spells ?_
    intro token htoken
    exact hnext token (by simp [htoken])
  constructor
  · rintro ⟨e, hne, hconditions, -⟩
    refine ⟨hne, ?_⟩
    intro run hrun
    exact (hform run hrun).2 (Outcome.exists_forall₂_iff.1 ⟨_, hconditions⟩ run hrun)
  · rintro ⟨hne, hall⟩
    obtain ⟨conditions, hconditions⟩ : ∃ conditions,
        List.Forall₂ Condition.Spells (tokens.splitOnP isConnective) conditions := by
      refine Outcome.exists_forall₂_iff.2 ?_
      intro run hrun
      exact (hform run hrun).1 (hall run hrun)
    exact ⟨⟨conditions, _⟩, hne, hconditions, rfl⟩

/-- The tokens of a text, its end included, whose runs between connectives all have the form of a condition. -/
def HasForm (t : Text) : Prop :=
  ∃ tokens, Token.tokenize t = .ok (tokens ++ [Token.atEnd t]) ∧ tokens ≠ [] ∧
    ∀ run ∈ tokens.splitOnP isConnective, Condition.isForm run = true

theorem exists_parse_iff_hasForm {tag t : Text} : (∃ e, parse tag t = .ok e) ↔ HasForm t := by
  simp only [parse_eq_ok_iff, HasForm, Token.tokenize_eq_ok_iff]
  constructor
  · rintro ⟨e, tokens, h, hreads⟩
    exact ⟨tokens, h, (exists_reads_iff h).1 ⟨e, hreads⟩⟩
  · rintro ⟨tokens, h, hform⟩
    obtain ⟨e, hreads⟩ := (exists_reads_iff h).2 hform
    exact ⟨e, tokens, h, hreads⟩

/-- **Reading an expression agrees with its one stream of tokens.**  It succeeds exactly when there is a token and
every run between connectives has the form of a condition, gives the conditions that the runs spell and a
connective for each, and otherwise ends with a syntax error; no place behind the end of the tokens of a fragment
is looked up. -/
theorem parse_iff_stream (tag t : Text) :
    (∀ e, parse tag t = .ok e ↔
      ∃ tokens, Token.tokenize t = .ok (tokens ++ [Token.atEnd t]) ∧ Reads tokens e) ∧
    ((∃ e, parse tag t = .ok e) ↔ HasForm t) ∧
    ((∃ failure, parse tag t = .error failure) ↔ ¬ HasForm t) ∧
    (∀ e, parse tag t = .ok e → e.conditions.length = e.connectives.length) ∧
    ∀ fragment tokens, Token.tokenize fragment = .ok tokens →
      Condition.atPlaces tag fragment tokens = some (Condition.parse tag fragment) := by
  refine ⟨?_, exists_parse_iff_hasForm, ?_, ?_, ?_⟩
  · intro e
    simp only [Token.tokenize_eq_ok_iff]
    exact parse_eq_ok_iff
  · rw [← @exists_parse_iff_hasForm tag t]
    cases parse tag t <;> simp
  · intro e he
    obtain ⟨tokens, -, hreads⟩ := parse_eq_ok_iff.1 he
    exact hreads.length_eq
  · intro fragment tokens h
    exact Condition.atPlaces_tokenize h

end Expression
end Liquid
