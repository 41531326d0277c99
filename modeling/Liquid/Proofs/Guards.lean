import Liquid.Proofs.Assembly
import Liquid.Proofs.Comparability
import Liquid.Proofs.Logic

/-!
# What guards do not end with

Three errors tell of the evaluation itself and of nothing that is evaluated: conditions without a connective for each,
an operator that is none, and an order relation that is none.  The scanner makes comparators of eight texts only, a
condition takes its operator from a comparator or has none, and an expression is cut into as many conditions as
connectives.  This holds of every expression that is read, and calls that build a block keep it of all guards.  So no
guard ever ends with one of the three, whatever the context; the values of operands do not, and neither does a
comparison.

## Main definitions

* `Error.Internal` — the three errors.
* `Expression.WellFormed` — what holds of every expression that is read.

## Main statements

* `Expression.exists_comparator_token` — where the operators of an expression stand in its text.
* `Expression.wellFormed_of_parse` — what is read is well-formed.
* `Context.resolve_avoids_internal`, `Comparator.holds_avoids_internal` — operands and comparisons.
* `Expression.WellFormed.evaluate_avoids_internal` — well-formed expressions.
* `Block.choice_never_internal` — the guards of every block that calls build.
-/

namespace Liquid

open Outcome

/-- An error that tells of the evaluation itself: conditions and connectives of different numbers or none at all, an
operator that is none, an order relation that is none. -/
inductive Error.Internal : Error → Prop
  | mismatched (conditions connectives : Nat) : Internal (.mismatchedConditions conditions connectives)
  | operator (operator : Text) (markup : Option Text) (position : Option Nat) :
      Internal (.malformed ⟨.unknownOperator operator, markup, position⟩)
  | relation : Internal (.fault .unknownRelation)

namespace Error

theorem not_internal_undefined (path : Text) : ¬ Internal (.undefined path) := nofun

theorem not_internal_incomparable (left right operator : Text) : ¬ Internal (.incomparable left right operator) := nofun

theorem internal_fault_iff {f : Fault} : Internal (.fault f) ↔ f = .unknownRelation :=
  ⟨fun | .relation => rfl, fun h => h ▸ .relation⟩

end Error

/-! ## Operands -/

theorem fault_avoids_internal {α : Type} {f : Fault} (h : f ≠ .unknownRelation) :
    Avoids Error.Internal (.error (.fault f) : Except Error α) :=
  avoids_error_iff.2 fun hinternal => h (Error.internal_fault_iff.1 hinternal)

theorem Value.select_avoids_internal (e : PathEngine) (root : Value) (written : Text) :
    Avoids Error.Internal (root.select written e) := by
  rw [select]
  rcases e.find ("$.".toList ++ written) root with (_ | ⟨f, hf⟩) | found
  · exact avoids_error_iff.2 nofun
  · exact fault_avoids_internal hf
  · exact avoids_ok found

theorem Value.plainText_avoids_internal (v : Value) : Avoids Error.Internal v.plainText := by
  rw [plainText, written]
  split
  · exact avoids_ok v.plain
  · exact fault_avoids_internal (by decide)

theorem Bracket.written_avoids_internal (v : Value) : Avoids Error.Internal (written v) := by
  refine v.plainText_avoids_internal.bind fun t => ?_
  cases v <;> exact avoids_ok _

theorem Operand.bound_avoids_internal (written : Text) (v : Value) : Avoids Error.Internal (bound written v) := by
  have hcount : Avoids Error.Internal v.count? := by
    unfold Value.count?
    split
    case h_3 => exact fault_avoids_internal (by decide)
    all_goals exact avoids_ok _
  refine hcount.bind fun count => ?_
  cases count with
  | none => exact avoids_error_iff.2 nofun
  | some n => exact avoids_ok n

namespace ScopeStack

variable (e : PathEngine) (strict : Bool) (s : ScopeStack)

theorem undefined_avoids_internal (path : Text) : Avoids Error.Internal (undefined strict path) := by
  rw [undefined]
  split
  · exact avoids_error_iff.2 (Error.not_internal_undefined path)
  · exact avoids_ok Value.nil

theorem dotted_avoids_internal (path : Text) : Avoids Error.Internal (s.dotted strict path) := by
  unfold dotted
  split
  · exact undefined_avoids_internal strict path
  · split
    · exact avoids_ok _
    · exact undefined_avoids_internal strict path

theorem expand_avoids_internal (fragment : Bracket.Fragment) : Avoids Error.Internal (s.expand strict fragment) := by
  cases fragment with
  | character c => exact avoids_ok [c]
  | name t =>
      refine Avoids.bind ?_ Bracket.written_avoids_internal
      rw [indexValue]
      split
      · exact avoids_ok _
      · exact s.dotted_avoids_internal strict t

theorem bracketed_avoids_internal (path : Text) : Avoids Error.Internal (s.bracketed e strict path) := by
  unfold bracketed
  split
  · exact undefined_avoids_internal strict path
  · next scope _ =>
      have hexpanded : Avoids Error.Internal (s.expanded strict path) :=
        (Avoids.mapM fun fragment _ => s.expand_avoids_internal strict fragment).map List.flatten
      refine hexpanded.bind fun written => (scope.toMapping.select_avoids_internal e written).bind fun found => ?_
      cases found with
      | nil => exact undefined_avoids_internal strict path
      | cons v rest => exact avoids_ok v

theorem valueOf_avoids_internal (path : Text) : Avoids Error.Internal (s.valueOf e strict path) := by
  rw [valueOf]
  split
  · exact s.bracketed_avoids_internal e strict path
  · exact s.dotted_avoids_internal strict path

end ScopeStack

theorem Operand.resolve_avoids_internal (e : PathEngine) (strict : Bool) (s : ScopeStack) (operand : Operand) :
    Avoids Error.Internal (operand.resolve e strict s) := by
  induction operand with
  | literal v => exact avoids_ok v
  | overlong => exact fault_avoids_internal (by decide)
  | range firstText lastText first last ihfirst ihlast =>
      refine ihfirst.bind fun v => (bound_avoids_internal firstText v).bind fun a => ?_
      refine ihlast.bind fun w => (bound_avoids_internal lastText w).bind fun b => avoids_ok (Value.range a (b + 1))
  | path written => exact s.valueOf_avoids_internal e strict written

/-- **The value of an operand** is there, or it fails for what is written in it or for what it stands for. -/
theorem Context.resolve_avoids_internal (ctx : Context) (t : Text) : Avoids Error.Internal (ctx.resolve t) :=
  Operand.resolve_avoids_internal ctx.engine ctx.config.isStrict ctx.scopes (Operand.ofText t)

/-! ## Conditions -/

/-- **A comparison** looks up its own operator, and where the operator is an order relation, that is one of the four. -/
theorem Comparator.holds_avoids_internal (comparator : Comparator) (v w : Value) :
    Avoids Error.Internal (comparator.holds v w) := by
  intro e he
  rcases holds_eq_error_iff.1 he with ⟨r, -, -, rfl⟩ | ⟨-, f, hunsought, rfl⟩
  · exact Error.not_internal_incomparable _ _ _
  · rw [Error.internal_fault_iff]
    rintro rfl
    exact nomatch hunsought

theorem Condition.interpret_avoids_internal (c : Condition) (ctx : Context) :
    Avoids Error.Internal (c.interpret ctx) := by
  unfold interpret
  split
  · exact ctx.resolve_avoids_internal c.left
  · next comparator right _ =>
      refine (ctx.resolve_avoids_internal c.left).bind fun v => (ctx.resolve_avoids_internal right).bind fun w => ?_
      exact (comparator.holds_avoids_internal v w).bind fun b => avoids_ok (Value.bool b)

/-! ## Expressions that are read -/

/-- A comparator among the tokens of a text is one of the eight. -/
theorem Token.exists_comparator_of_scan {t : Text} {tokens : List Token} (h : scan t = .ok tokens) :
    ∀ token ∈ tokens, token.kind = .comparator → ∃ comparator : Comparator, comparator.text = token.text := by
  intro token htoken hkind
  obtain ⟨c, before, after, hnext⟩ := (scan_eq_ok_iff.1 h).next_of_mem token htoken
  rw [hkind] at hnext
  obtain ⟨comparator, hcomparator⟩ := Condition.ofText?_of_next hnext
  exact ⟨comparator, Comparator.text_of_ofText? hcomparator⟩

/-- The operator of a condition is a comparator among its tokens. -/
theorem Condition.exists_token_of_spells {run : List Token} {c : Condition} {operator : Text} (h : Spells run c)
    (hoperator : c.operatorText = some operator) : ∃ token ∈ run, token.kind = .comparator ∧ token.text = operator := by
  cases h with
  | operand => exact nomatch hoperator
  | @comparison left token right comparator _ hkind htext _ =>
      refine ⟨token, by simp, hkind, ?_⟩
      rw [← htext]
      exact Option.some.inj hoperator

namespace Expression

/-- What holds of every expression that is read: there are conditions, each stands behind a connective, the first behind
`and`; and a condition has a right operand exactly if it has an operator, which is one of the eight. -/
structure WellFormed (e : Expression) : Prop where
  nonempty : e.conditions ≠ []
  length_eq : e.conditions.length = e.connectives.length
  leading : e.connectives.head? = some .and
  paired : ∀ c ∈ e.conditions, c.operatorText = none ↔ c.rightText = none
  known : ∀ c ∈ e.conditions, ∀ operator, c.operatorText = some operator →
    operator ∈ ["==", "!=", "<>", "<", ">", "<=", ">=", "contains"].map String.toList

variable {tag t : Text} {e : Expression}

/-- **Where the operators of an expression stand in its text**: each is a comparator among the tokens. -/
theorem exists_comparator_token (h : parse tag t = .ok e) :
    ∃ tokens, Token.tokenize t = .ok (tokens ++ [Token.atEnd t]) ∧
      (∀ token ∈ tokens, token.kind = .comparator → ∃ comparator : Comparator, comparator.text = token.text) ∧
      ∀ c ∈ e.conditions, ∀ operator, c.operatorText = some operator →
        ∃ token ∈ tokens, token.kind = .comparator ∧ token.text = operator := by
  obtain ⟨tokens, hscan, hreads⟩ := parse_eq_ok_iff.1 h
  refine ⟨tokens, Token.tokenize_eq_ok_iff.2 hscan, Token.exists_comparator_of_scan hscan, ?_⟩
  intro c hc operator hoperator
  obtain ⟨run, hrun, hspells⟩ := exists_mem_of_forall₂ hreads.conditions hc
  obtain ⟨token, htoken, hcomparator⟩ := Condition.exists_token_of_spells hspells hoperator
  obtain ⟨before, after, rfl⟩ := exists_append_of_mem_splitOnP hrun
  exact ⟨token, by simp [htoken], hcomparator⟩

/-- **What is read is well-formed.** -/
theorem wellFormed_of_parse (h : parse tag t = .ok e) : e.WellFormed := by
  obtain ⟨tokens, -, hcomparators, hoperators⟩ := exists_comparator_token h
  obtain ⟨_, -, hreads⟩ := parse_eq_ok_iff.1 h
  obtain ⟨c, conditions, connectives, rfl, -⟩ := hreads.shape
  refine ⟨hreads.conditions_ne_nil, hreads.length_eq, rfl, ?_, ?_⟩
  · intro c _
    simp [Condition.operatorText, Condition.rightText]
  · intro c hc operator hoperator
    obtain ⟨token, htoken, hkind, rfl⟩ := hoperators c hc operator hoperator
    obtain ⟨comparator, hcomparator⟩ := hcomparators token htoken hkind
    rw [← hcomparator]
    cases comparator <;> decide

/-- **A well-formed expression** ends with a truth value, or with an error of one of its conditions. -/
theorem WellFormed.evaluate_avoids_internal (h : e.WellFormed) (ctx : Context) :
    Avoids Error.Internal (e.evaluate ctx) := by
  have hfits : ¬ (e.conditions.isEmpty || e.conditions.length != e.connectives.length) = true := by
    simp [h.nonempty, h.length_eq]
  rw [evaluate, Logic.evaluate, if_neg hfits]
  exact Avoids.bind (.mapM fun c _ => c.interpret_avoids_internal ctx) fun values => avoids_ok _

end Expression

/-! ## Blocks -/

namespace Block

variable {ν : Type} {tag markup : Text} {b : Block ν}

/-- Calls keep all guards as they are read. -/
theorem guard_wellFormed (h : opened tag markup = .ok b) (calls : List (Call ν)) :
    ∀ branch ∈ (b.after calls).branches, branch.guard.WellFormed := by
  intro branch hbranch
  have hassembly := (Assembly.wellFormed_of_opened (opened_assembly h)).after calls
  rw [after_assembly] at hassembly
  have hmem : branch.alternative ∈ (b.after calls).assembly.alternatives :=
    List.mem_append_left _ (List.mem_map_of_mem hbranch)
  exact Expression.wellFormed_of_parse (hassembly.guards_read branch.alternative hmem branch.source branch.guard rfl)

theorem choose_avoids_internal {α : Type} {guarded : List (Expression × α)} (ctx : Context) (otherwise : Option α)
    (h : ∀ p ∈ guarded, p.1.WellFormed) : Avoids Error.Internal (choose ctx guarded otherwise) := by
  induction guarded with
  | nil => exact avoids_ok otherwise
  | cons p rest ih =>
      obtain ⟨guard, a⟩ := p
      rw [List.forall_mem_cons] at h
      refine (h.1.evaluate_avoids_internal ctx).bind fun holds => ?_
      cases holds with
      | false => exact avoids_ok (some a)
      | true => exact ih h.2

/-- **No guard ends with an error that tells of the evaluation itself.**  An expression that is read is well-formed, and
its operators are comparators of its text, which are all of the eight.  The guards of a block are well-formed after any
calls, refused ones among them.  So neither the choice of a branch nor the interpretation of a condition by its written
parts ends with conditions and connectives that do not fit, an operator that is none or an order relation that is
none. -/
theorem choice_never_internal :
    (∀ tag t e, Expression.parse tag t = .ok e → e.WellFormed ∧
      ∃ tokens, Token.tokenize t = .ok (tokens ++ [Token.atEnd t]) ∧
        (∀ token ∈ tokens, token.kind = .comparator → ∃ comparator : Comparator, comparator.text = token.text) ∧
        ∀ c ∈ e.conditions, ∀ operator, c.operatorText = some operator →
          ∃ token ∈ tokens, token.kind = .comparator ∧ token.text = operator) ∧
    ∀ (tag markup : Text) (b : Block ν), opened tag markup = .ok b → ∀ (calls : List (Call ν)) (ctx : Context),
      (∀ e, chosenIndex ctx (b.after calls) = .error e → ¬ e.Internal) ∧
      ∀ branch ∈ (b.after calls).branches, branch.guard.WellFormed ∧
        (∀ e, branch.guard.evaluate ctx = .error e → ¬ e.Internal) ∧
        ∀ c ∈ branch.guard.conditions, ∀ e,
          ctx.interpret (some c.left) c.operatorText c.rightText = .error e → ¬ e.Internal := by
  refine ⟨fun tag t e he => ⟨Expression.wellFormed_of_parse he, Expression.exists_comparator_token he⟩, ?_⟩
  intro tag markup b h calls ctx
  have hguards := guard_wellFormed h calls
  constructor
  · refine choose_avoids_internal ctx _ fun p hp => ?_
    obtain ⟨branch, hbranch, hguard⟩ := List.mem_map.1 (List.fst_mem_of_mem_zipIdx hp)
    rw [← hguard]
    exact hguards branch hbranch
  · intro branch hbranch
    refine ⟨hguards branch hbranch, (hguards branch hbranch).evaluate_avoids_internal ctx, ?_⟩
    intro c _
    rw [← c.interpret_eq ctx]
    exact c.interpret_avoids_internal ctx

/-- A number and a text in an order relation, with a branch that is refused because there is one without a guard: the
choice ends with the error of the two types. -/
theorem choice_never_internal_incomparable :
    let b : Block Nat := ⟨tagName, [], ⟨"a < b".toList, ⟨[⟨['a'], some (.less, ['b'])⟩], [.and]⟩, []⟩, none⟩
    let calls : List (Call Nat) := [.node 1, .otherwise, .branch ['c'], .node 2]
    let ctx : Context := ⟨.single [(['a'], .int 1), (['b'], .text ['x'])], .empty, {}⟩
    let failure : Error := .incomparable "int".toList "str".toList ['<']
    opened tagName "a < b".toList = .ok b ∧ chosenIndex ctx (b.after calls) = .error failure ∧ ¬ failure.Internal := by
  intro b calls ctx failure
  have hguard : Expression.parse tagName "a < b".toList = .ok ⟨[⟨['a'], some (.less, ['b'])⟩], [.and]⟩ :=
    eq_ok_of_toOption (by decide +kernel)
  have hb : opened tagName "a < b".toList = .ok b := by
    rw [opened, hguard]
    rfl
  have hfailure : chosenIndex ctx (b.after calls) = .error failure := by decide +kernel
  exact ⟨hb, hfailure, ((choice_never_internal.2 _ _ b hb) calls ctx).1 failure hfailure⟩

end Block

end Liquid
