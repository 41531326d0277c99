import Liquid.Proofs.Node

/-!
# What a rendering leaves as it was

A node may assign names, but only in the innermost scope.  A block enters a scope before it looks at its guards,
and leaves it however its rendering ends: the scope it leaves is the one it entered, because nothing that is
rendered inside touches any other scope.

## Main definitions

* `Rendering.KeepsOuter` — nothing but the innermost scope is changed.

## Main statements

* `Rendering.KeepsOuter.inScope_eq` — a scope is entered and left again.
* `Node.keepsOuter_renderAll` — a body changes nothing but the innermost scope.
* `Node.render_block_keeps_context` — a block changes nothing.
-/

namespace Liquid

namespace Rendering

variable {α β : Type}

/-- Nothing but the innermost scope is changed, however the rendering ends. -/
def KeepsOuter (act : Rendering α) : Prop :=
  ∀ c, ∃ inner, (act c).2 = { c with scopes := { c.scopes with inner := inner } }

theorem keepsOuter_pure (a : α) : KeepsOuter (pure a) := fun c => ⟨c.scopes.inner, rfl⟩

theorem keepsOuter_ofRead (f : Context → Except Error α) : KeepsOuter (ofRead f) := fun c => ⟨c.scopes.inner, rfl⟩

theorem keepsOuter_set (name : Text) (v : Value) : KeepsOuter (change (Context.set name v)) :=
  fun c => ⟨c.scopes.inner.set name v, rfl⟩

theorem KeepsOuter.bind {x : Rendering α} {f : α → Rendering β} (hx : KeepsOuter x)
    (hf : ∀ c a, (x c).1 = .ok a → KeepsOuter (f a)) : KeepsOuter (x >>= f) := by
  intro c
  obtain ⟨inner, hinner⟩ := hx c
  cases hr : x c with
  | mk outcome d =>
      rw [hr] at hinner
      cases outcome with
      | error e =>
          rw [Outcome.bind_apply_error hr]
          exact ⟨inner, hinner⟩
      | ok a =>
          rw [Outcome.bind_apply_ok hr]
          obtain ⟨inner', hinner'⟩ := hf c a (by rw [hr]) d
          refine ⟨inner', ?_⟩
          rw [hinner', show d = _ from hinner]

/-- **A scope is entered and left again**: the outcome is that of the rendering inside, and the context is the
one before. -/
theorem KeepsOuter.inScope_eq {act : Rendering α} (h : KeepsOuter act) (c : Context) :
    inScope act c = ((act c.push).1, c) := by
  obtain ⟨inner, hinner⟩ := h c.push
  have hpop : (act c.push).2.pop? = some (inner, c) := by
    rw [hinner]
    rfl
  exact run_inScope rfl hpop

theorem KeepsOuter.inScope {act : Rendering α} (h : KeepsOuter act) : KeepsOuter (inScope act) := by
  intro c
  rw [h.inScope_eq]
  exact ⟨c.scopes.inner, rfl⟩

/-- That nothing but the innermost scope is changed passes from the parts of a rendering to the whole. -/
theorem compositional_keepsOuter : Compositional KeepsOuter where
  pure := keepsOuter_pure
  bind := KeepsOuter.bind
  emitted _ := keepsOuter_ofRead _
  output o := keepsOuter_ofRead o.render
  assign := keepsOuter_set
  choose _ _ := keepsOuter_ofRead _
  inScope := KeepsOuter.inScope

end Rendering

namespace Node

open Rendering

/-- **A body changes nothing but the innermost scope**, however its rendering ends. -/
theorem keepsOuter_renderAll (nodes : List Node) : KeepsOuter (renderAll nodes) :=
  compositional_keepsOuter.renderAll nodes

/-- What a block does inside the scope it enters changes nothing but that scope. -/
theorem keepsOuter_renderInside (b : Block Node) : KeepsOuter (b.renderInside renderAll) :=
  compositional_keepsOuter.renderInside fun node _ => compositional_keepsOuter.render node

/-- **A block leaves the context as it was**, whether it ends with a text or with an error from a guard, an output,
a filter or a block inside.  Its outcome is that of the branch it renders in a scope on top of the others; when that
ends, the others are all there as they were, and the scope that is left is the one that was entered. -/
theorem render_block_keeps_context (b : Block Node) (c : Context) :
    (render (.block b) c).2 = c ∧
      (render (.block b) c).1 = (b.renderInside renderAll c.push).1.map (fun t => .text (t.getD [])) ∧
      (b.renderInside renderAll c.push).2.scopes.outer = c.scopes.scopes := by
  have hscope : inScope (b.renderInside renderAll) c = ((b.renderInside renderAll c.push).1, c) :=
    (keepsOuter_renderInside b).inScope_eq c
  have houter : (b.renderInside renderAll c.push).2.scopes.outer = c.scopes.scopes := by
    obtain ⟨inner, hinner⟩ := keepsOuter_renderInside b c.push
    rw [hinner]
    rfl
  rw [render_block, Block.renderWith_eq]
  cases hr : (b.renderInside renderAll c.push).1 with
  | error e =>
      rw [hr] at hscope
      rw [Outcome.bind_apply_error hscope]
      exact ⟨rfl, rfl, houter⟩
  | ok t =>
      rw [hr] at hscope
      rw [Outcome.bind_apply_ok hscope]
      exact ⟨rfl, rfl, houter⟩

end Node
end Liquid
