import Liquid.Proofs.Frame

/-!
# Undefined variables as errors

Settings may ask that an undefined variable is an error.  Two renderings of the same template, one under such
settings and one under settings that let an undefined variable be `nil`, go the same way until one of them meets
an undefined variable; there the strict one ends, and no handler on the way out turns its error into anything
else.

## Main definitions

* `Outcome.UndefinedOrSame` — an outcome is that of an undefined variable, or the same as another one.
* `Context.withStrictness` — a context in which undefined variables are errors, or are not.
* `Rendering.StrictnessAgrees` — strictness makes no difference but for undefined variables.

## Main statements

* `Operand.resolve_undefinedOrSame`, `Expression.evaluate_undefinedOrSame`, `Output.render_undefinedOrSame` — what
  strictness changes about operands, guards and outputs.
* `Node.renderAll_undefined_or_same` — what strictness changes about a body.
-/

namespace Liquid

namespace Outcome

variable {α β : Type}

/-- The first outcome is that of an undefined variable, or both outcomes are the same. -/
def UndefinedOrSame (x y : Except Error α) : Prop := (∃ path, x = .error (.undefined path)) ∨ x = y

theorem UndefinedOrSame.refl (x : Except Error α) : UndefinedOrSame x x := .inr rfl

/-- A result is not that of an undefined variable. -/
theorem UndefinedOrSame.eq_ok {x y : Except Error α} {a : α} (h : UndefinedOrSame x y) (ha : x = .ok a) :
    y = .ok a := by
  subst ha
  rcases h with ⟨path, hpath⟩ | hsame
  · exact nomatch hpath
  · exact hsame.symm

theorem UndefinedOrSame.bind {x y : Except Error α} {f g : α → Except Error β} (hx : UndefinedOrSame x y)
    (hf : ∀ a, UndefinedOrSame (f a) (g a)) : UndefinedOrSame (x >>= f) (y >>= g) := by
  rcases hx with ⟨path, rfl⟩ | rfl
  · exact .inl ⟨path, rfl⟩
  · cases x with
    | error e => exact .inr rfl
    | ok a => exact hf a

theorem UndefinedOrSame.map {x y : Except Error α} (f : α → β) (h : UndefinedOrSame x y) :
    UndefinedOrSame (x.map f) (y.map f) := by
  rcases h with ⟨path, rfl⟩ | rfl
  · exact .inl ⟨path, rfl⟩
  · exact .inr rfl

theorem UndefinedOrSame.mapM {f g : α → Except Error β} (h : ∀ a, UndefinedOrSame (f a) (g a)) (l : List α) :
    UndefinedOrSame (l.mapM f) (l.mapM g) := by
  induction l with
  | nil => exact .refl _
  | cons a l ih =>
      rw [List.mapM_cons, List.mapM_cons]
      exact (h a).bind fun b => ih.bind fun bs => .refl _

theorem UndefinedOrSame.foldlM {f g : β → α → Except Error β} (h : ∀ b a, UndefinedOrSame (f b a) (g b a))
    (l : List α) (b : β) : UndefinedOrSame (l.foldlM f b) (l.foldlM g b) := by
  induction l generalizing b with
  | nil => exact .refl _
  | cons a l ih =>
      rw [List.foldlM_cons, List.foldlM_cons]
      exact (h b a).bind ih

end Outcome

open Outcome

/-! ## Variables and operands -/

namespace ScopeStack

theorem undefined_undefinedOrSame (path : Text) : UndefinedOrSame (undefined true path) (undefined false path) :=
  .inl ⟨path, rfl⟩

theorem dotted_undefinedOrSame (s : ScopeStack) (path : Text) :
    UndefinedOrSame (s.dotted true path) (s.dotted false path) := by
  unfold dotted
  cases Text.splitAtChar '.' path with
  | nil => exact undefined_undefinedOrSame path
  | cons root keys =>
      simp only
      cases (s.lookup root).bind (·.descend? keys) with
      | none => exact undefined_undefinedOrSame path
      | some v => exact .refl _

theorem indexValue_undefinedOrSame (s : ScopeStack) (name : Text) :
    UndefinedOrSame (s.indexValue true name) (s.indexValue false name) := by
  unfold indexValue
  cases Value.ofWord? name with
  | none => exact dotted_undefinedOrSame s name
  | some v => exact .refl _

theorem expand_undefinedOrSame (s : ScopeStack) (fragment : Bracket.Fragment) :
    UndefinedOrSame (s.expand true fragment) (s.expand false fragment) := by
  cases fragment with
  | character c => exact .refl _
  | name t => exact (indexValue_undefinedOrSame s t).bind fun v => .refl _

theorem bracketed_undefinedOrSame (e : PathEngine) (s : ScopeStack) (path : Text) :
    UndefinedOrSame (s.bracketed e true path) (s.bracketed e false path) := by
  unfold bracketed
  cases s.scopeOf? (Bracket.root path) with
  | none => exact undefined_undefinedOrSame path
  | some scope =>
      have hwritten : UndefinedOrSame (s.expanded true path) (s.expanded false path) :=
        (UndefinedOrSame.mapM (expand_undefinedOrSame s) _).map List.flatten
      refine hwritten.bind fun written => (UndefinedOrSame.refl _).bind fun found => ?_
      cases found with
      | nil => exact undefined_undefinedOrSame path
      | cons v rest => exact .refl _

theorem valueOf_undefinedOrSame (e : PathEngine) (s : ScopeStack) (path : Text) :
    UndefinedOrSame (s.valueOf e true path) (s.valueOf e false path) := by
  unfold valueOf
  split
  · exact bracketed_undefinedOrSame e s path
  · exact dotted_undefinedOrSame s path

end ScopeStack

/-- Strictness changes nothing about an operand but for undefined variables, also those in the bounds of a range. -/
theorem Operand.resolve_undefinedOrSame (e : PathEngine) (s : ScopeStack) (o : Operand) :
    UndefinedOrSame (o.resolve e true s) (o.resolve e false s) := by
  induction o with
  | literal v => exact .refl _
  | overlong => exact .refl _
  | path written => exact s.valueOf_undefinedOrSame e written
  | range firstText lastText first last ihfirst ihlast =>
      unfold resolve
      refine ihfirst.bind fun v => (UndefinedOrSame.refl (bound firstText v)).bind fun a => ?_
      exact ihlast.bind fun w => (UndefinedOrSame.refl (bound lastText w)).bind fun b => .refl _

/-! ## Guards and outputs -/

namespace Context

/-- A context in which undefined variables are errors, or are not. -/
def withStrictness (strict : Bool) (c : Context) : Context :=
  { c with config := { c.config with strictVariables := .bool strict } }

theorem resolve_withStrictness (strict : Bool) (c : Context) (t : Text) :
    (c.withStrictness strict).resolve t = c.scopes.resolve c.engine strict t := by
  cases strict <;> rfl

theorem resolve_undefinedOrSame (c : Context) (t : Text) :
    UndefinedOrSame ((c.withStrictness true).resolve t) ((c.withStrictness false).resolve t) := by
  rw [resolve_withStrictness, resolve_withStrictness]
  exact Operand.resolve_undefinedOrSame c.engine c.scopes (Operand.ofText t)

end Context

section

variable (c : Context)

theorem Condition.interpret_undefinedOrSame (condition : Condition) :
    UndefinedOrSame (condition.interpret (c.withStrictness true)) (condition.interpret (c.withStrictness false)) := by
  obtain ⟨left, _ | ⟨comparator, right⟩⟩ := condition
  · exact c.resolve_undefinedOrSame left
  · refine (c.resolve_undefinedOrSame left).bind fun v => (c.resolve_undefinedOrSame right).bind fun w => ?_
    exact .refl _

theorem Expression.evaluate_undefinedOrSame (e : Expression) :
    UndefinedOrSame (e.evaluate (c.withStrictness true)) (e.evaluate (c.withStrictness false)) := by
  unfold evaluate Logic.evaluate
  split
  · exact .refl _
  · exact (UndefinedOrSame.mapM (Condition.interpret_undefinedOrSame c) e.conditions).bind fun values => .refl _

theorem Block.choose_undefinedOrSame {α : Type} (guarded : List (Expression × α)) (otherwise : Option α) :
    UndefinedOrSame (choose (c.withStrictness true) guarded otherwise)
      (choose (c.withStrictness false) guarded otherwise) := by
  induction guarded with
  | nil => exact .refl _
  | cons alternative rest ih =>
      obtain ⟨guard, a⟩ := alternative
      refine (guard.evaluate_undefinedOrSame c).bind fun truth => ?_
      cases truth with
      | false => exact .refl _
      | true => exact ih

theorem Output.render_undefinedOrSame (o : Output) :
    UndefinedOrSame (o.render (c.withStrictness true)) (o.render (c.withStrictness false)) := by
  have hstep : ∀ v f, UndefinedOrSame (step (c.withStrictness true) v f) (step (c.withStrictness false) v f) := by
    intro v f
    exact (UndefinedOrSame.mapM c.resolve_undefinedOrSame f.arguments).bind fun args => .refl _
  refine (c.resolve_undefinedOrSame o.name).bind fun v => ?_
  exact (UndefinedOrSame.foldlM hstep o.applied v).bind fun w => .refl _

end

/-! ## Renderings -/

namespace Rendering

variable {α β : Type}

/-- Strictness makes no difference but for undefined variables: where they are errors, the rendering ends with
one, or it has the outcome it has where they are not, and leaves the same context but for the strictness. -/
def StrictnessAgrees (act : Rendering α) : Prop :=
  ∀ c : Context, (∃ path, (act (c.withStrictness true)).1 = .error (.undefined path)) ∨
    ∃ outcome, ∃ d : Context, act (c.withStrictness true) = (outcome, d.withStrictness true) ∧
      act (c.withStrictness false) = (outcome, d.withStrictness false)

theorem strictnessAgrees_pure (a : α) : StrictnessAgrees (pure a) := fun c => .inr ⟨.ok a, c, rfl, rfl⟩

theorem strictnessAgrees_ofRead {f : Context → Except Error α}
    (h : ∀ c : Context, UndefinedOrSame (f (c.withStrictness true)) (f (c.withStrictness false))) :
    StrictnessAgrees (ofRead f) := by
  intro c
  rcases h c with ⟨path, hpath⟩ | hsame
  · exact .inl ⟨path, hpath⟩
  · exact .inr ⟨f (c.withStrictness true), c, rfl, by rw [hsame]; rfl⟩

theorem strictnessAgrees_set (name : Text) (v : Value) : StrictnessAgrees (change (Context.set name v)) :=
  fun c => .inr ⟨.ok (), c.set name v, rfl, rfl⟩

theorem StrictnessAgrees.bind {x : Rendering α} {f : α → Rendering β} (hx : StrictnessAgrees x)
    (hf : ∀ c a, (x c).1 = .ok a → StrictnessAgrees (f a)) : StrictnessAgrees (x >>= f) := by
  intro c
  rcases hx c with ⟨path, hpath⟩ | ⟨outcome, d, hstrict, hlax⟩
  · have hrun : x (c.withStrictness true) = (.error (.undefined path), (x (c.withStrictness true)).2) :=
      Prod.ext hpath rfl
    rw [Outcome.bind_apply_error hrun]
    exact .inl ⟨path, rfl⟩
  · cases outcome with
    | error e =>
        rw [Outcome.bind_apply_error hstrict, Outcome.bind_apply_error hlax]
        exact .inr ⟨.error e, d, rfl, rfl⟩
    | ok a =>
        rw [Outcome.bind_apply_ok hstrict, Outcome.bind_apply_ok hlax]
        exact hf _ a (by rw [hstrict]) d

/-- The error of an undefined variable gets out of a scope as it is: the scope can be left, because what is rendered
inside keeps the others. -/
theorem StrictnessAgrees.inScope {act : Rendering α} (hkeeps : KeepsOuter act) (h : StrictnessAgrees act) :
    StrictnessAgrees (inScope act) := by
  intro c
  rw [hkeeps.inScope_eq, hkeeps.inScope_eq]
  rcases h c.push with hpath | ⟨outcome, d, hstrict, hlax⟩
  · exact .inl hpath
  · refine .inr ⟨outcome, c, ?_, ?_⟩
    · exact congrArg (·.1, c.withStrictness true) hstrict
    · exact congrArg (·.1, c.withStrictness false) hlax

/-- That strictness makes no difference but for undefined variables passes from the parts of a rendering to the
whole, together with what scopes need. -/
theorem compositional_strictnessAgrees :
    Compositional fun {α} (act : Rendering α) => KeepsOuter act ∧ StrictnessAgrees act where
  pure a := ⟨keepsOuter_pure a, strictnessAgrees_pure a⟩
  bind hx hf := ⟨hx.1.bind fun c a ha => (hf c a ha).1, hx.2.bind fun c a ha => (hf c a ha).2⟩
  emitted v := ⟨keepsOuter_ofRead _, strictnessAgrees_ofRead fun _ => .refl v.emittedText⟩
  output o := ⟨keepsOuter_ofRead o.render, strictnessAgrees_ofRead fun c => o.render_undefinedOrSame c⟩
  assign name v := ⟨keepsOuter_set name v, strictnessAgrees_set name v⟩
  choose guarded otherwise :=
    ⟨keepsOuter_ofRead _, strictnessAgrees_ofRead fun c => Block.choose_undefinedOrSame c guarded otherwise⟩
  inScope h := ⟨h.1.inScope, h.2.inScope h.1⟩

end Rendering

/-- **Strictness only adds errors of undefined variables**: the strict rendering of a body ends with one, or both
renderings end with the same text or the same error, and with the same scopes. -/
theorem Node.renderAll_undefined_or_same (nodes : List Node) (c : Context) :
    (∃ path, (renderAll nodes (c.withStrictness true)).1 = .error (.undefined path)) ∨
      (renderAll nodes (c.withStrictness true)).1 = (renderAll nodes (c.withStrictness false)).1 ∧
        (renderAll nodes (c.withStrictness true)).2.scopes = (renderAll nodes (c.withStrictness false)).2.scopes := by
  rcases (Rendering.compositional_strictnessAgrees.renderAll nodes).2 c with hpath | ⟨outcome, d, hstrict, hlax⟩
  · exact .inl hpath
  · rw [hstrict, hlax]
    exact .inr ⟨rfl, rfl⟩

end Liquid
