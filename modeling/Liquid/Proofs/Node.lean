import Liquid.Node
import Liquid.Proofs.Outcome

/-!
# Induction on nodes

What holds of a rendering is shown from the parts it is made of: steps that read the context, assignments, steps
one after the other, and scopes of their own.  A property that passes through these holds of every node, to any
depth of blocks in blocks.

## Main definitions

* `Block.renderInside` — what a block does inside the scope it enters.
* `Rendering.Compositional` — a property of renderings that passes from the parts to the whole.

## Main statements

* `Node.induction` — induction on nodes, with the statement for all nodes of a block.
* `Rendering.Compositional.render`, `Rendering.Compositional.renderAll` — such a property holds of every node and
  of every body.
-/

namespace Liquid

namespace Block

variable {ν α : Type}

/-- What is chosen is one of the alternatives. -/
theorem mem_of_choose_eq {ctx : Context} {guarded : List (Expression × α)} {otherwise : Option α} {a : α}
    (h : choose ctx guarded otherwise = .ok (some a)) : a ∈ guarded.map Prod.snd ∨ otherwise = some a := by
  induction guarded with
  | nil =>
      rw [choose, Except.ok.injEq] at h
      exact .inr h
  | cons alternative rest ih =>
      obtain ⟨guard, act⟩ := alternative
      rw [choose, Outcome.bind_eq_ok_iff] at h
      obtain ⟨truth, -, h⟩ := h
      cases truth with
      | true =>
          rcases ih h with hmem | hlast
          · exact .inl (List.mem_cons_of_mem act hmem)
          · exact .inr hlast
      | false =>
          simp only [Bool.false_eq_true, if_false, pure, Except.pure, Except.ok.injEq, Option.some.injEq] at h
          rw [h]
          exact .inl List.mem_cons_self

/-- What a block chooses to render is the body of one of its branches. -/
theorem exists_body_of_choose_eq {renderBody : List ν → Rendering α} {b : Block ν} {ctx : Context} {act : Rendering α}
    (h : choose ctx (b.branches.map fun branch => (branch.guard, renderBody branch.body))
      (b.otherwise.map renderBody) = .ok (some act)) :
    ∃ body, act = renderBody body ∧ ∀ node ∈ body, node ∈ b.nodes := by
  rcases mem_of_choose_eq h with hguarded | hlast
  · simp only [List.map_map, List.mem_map, Function.comp_apply] at hguarded
    obtain ⟨branch, hbranch, rfl⟩ := hguarded
    refine ⟨branch.body, rfl, fun node hnode => ?_⟩
    exact List.mem_append_left _ (List.mem_flatMap.2 ⟨branch, hbranch, hnode⟩)
  · obtain ⟨body, hbody, rfl⟩ := Option.map_eq_some_iff.1 hlast
    refine ⟨body, rfl, fun node hnode => ?_⟩
    rw [nodes, hbody]
    exact List.mem_append_right _ hnode

/-- What a block does inside the scope it enters: it chooses a branch and renders its body. -/
def renderInside (renderBody : List ν → Rendering α) (b : Block ν) : Rendering (Option α) := do
  match ← Rendering.ofRead fun ctx => choose ctx
      (b.branches.map fun branch => (branch.guard, renderBody branch.body)) (b.otherwise.map renderBody) with
  | none => return none
  | some act => return some (← act)

theorem renderWith_eq (renderBody : List ν → Rendering α) (b : Block ν) :
    b.renderWith renderBody = Rendering.inScope (b.renderInside renderBody) := rfl

end Block

/-- **Induction on nodes**: a statement is shown for a block when it holds of all nodes in the block. -/
theorem Node.induction {motive : Node → Prop} (text : ∀ t, motive (.text t)) (value : ∀ v, motive (.value v))
    (output : ∀ o, motive (.output o)) (assign : ∀ name v, motive (.assign name v))
    (block : ∀ b : Block Node, (∀ node ∈ b.nodes, motive node) → motive (.block b)) (node : Node) : motive node := by
  refine @Node.rec motive (fun b => ∀ node ∈ b.nodes, motive node)
    (fun branches => ∀ node ∈ branches.flatMap Branch.body, motive node)
    (fun branch => ∀ node ∈ branch.body, motive node) (fun otherwise => ∀ node ∈ otherwise.getD [], motive node)
    (fun nodes => ∀ node ∈ nodes, motive node) text value output assign block ?_ ?_ ?_ ?_ ?_ ?_ ?_ ?_ node
  · intro guardTag earlier latest otherwise hearlier hlatest hotherwise node hnode
    simp only [Block.nodes, Block.branches, List.flatMap_append, List.flatMap_singleton, List.mem_append] at hnode
    rcases hnode with (hnode | hnode) | hnode
    · exact hearlier node hnode
    · exact hlatest node hnode
    · exact hotherwise node hnode
  · simp
  · intro branch rest hbranch hrest node hnode
    rw [List.flatMap_cons, List.mem_append] at hnode
    exact hnode.elim (hbranch node) (hrest node)
  · intro source guard body hbody
    exact hbody
  · simp
  · intro body hbody
    exact hbody
  · simp
  · intro first rest hfirst hrest
    exact List.forall_mem_cons.2 ⟨hfirst, hrest⟩

namespace Rendering

/-- A property of renderings that holds of what nodes do themselves, and passes through steps one after the other
and through scopes.  What follows a step has to have it only for the results that the step can have. -/
structure Compositional (P : ∀ {α : Type}, Rendering α → Prop) : Prop where
  pure : ∀ {α : Type} (a : α), P (Pure.pure a : Rendering α)
  bind : ∀ {α β : Type} {x : Rendering α} {f : α → Rendering β}, P x →
    (∀ c a, (x c).1 = .ok a → P (f a)) → P (x >>= f)
  emitted : ∀ v : Value, P (ofRead fun _ => v.emittedText)
  output : ∀ o : Output, P (ofRead o.render)
  assign : ∀ (name : Text) (v : Value), P (change (Context.set name v))
  choose : ∀ {α : Type} (guarded : List (Expression × α)) (otherwise : Option α),
    P (ofRead fun ctx => Block.choose ctx guarded otherwise)
  inScope : ∀ {α : Type} {act : Rendering α}, P act → P (inScope act)

namespace Compositional

open Node

variable {P : ∀ {α : Type}, Rendering α → Prop}

theorem renderAll_of_forall (h : Compositional P) {nodes : List Node} (hnodes : ∀ node ∈ nodes, P (render node)) :
    P (Node.renderAll nodes) := by
  induction nodes with
  | nil => exact h.pure []
  | cons node rest ih =>
      rw [List.forall_mem_cons] at hnodes
      have hemitted : P (Node.emitted (render node)) := h.bind hnodes.1 fun _ v _ => h.emitted v
      rw [Node.renderAll]
      exact h.bind hemitted fun _ t _ => h.bind (ih hnodes.2) fun _ rest _ => h.pure (t ++ rest)

/-- Inside its scope, a block does nothing but choose a branch and render the nodes of it. -/
theorem renderInside (h : Compositional P) {b : Block Node} (hnodes : ∀ node ∈ b.nodes, P (render node)) :
    P (b.renderInside Node.renderAll) := by
  refine h.bind (h.choose _ _) fun c chosen hchosen => ?_
  cases chosen with
  | none => exact h.pure none
  | some act =>
      obtain ⟨body, rfl, hbody⟩ := Block.exists_body_of_choose_eq hchosen
      have hrendered := h.renderAll_of_forall fun node hnode => hnodes node (hbody node hnode)
      exact h.bind hrendered fun _ t _ => h.pure (some t)

/-- **What passes through the parts of renderings holds of every node.** -/
theorem render (h : Compositional P) (node : Node) : P (Node.render node) := by
  induction node using Node.induction with
  | text t => exact h.pure (Value.text t)
  | value v => exact h.pure v
  | output o => exact h.output o
  | assign name v => exact h.bind (h.assign name v) fun _ _ _ => h.pure (Value.text [])
  | block b ih =>
      rw [render_block, Block.renderWith_eq]
      exact h.bind (h.inScope (h.renderInside ih)) fun _ t _ => h.pure (Value.text (t.getD []))

/-- **What passes through the parts of renderings holds of every body.** -/
theorem renderAll (h : Compositional P) (nodes : List Node) : P (Node.renderAll nodes) :=
  h.renderAll_of_forall fun node _ => h.render node

end Compositional

end Rendering
end Liquid
