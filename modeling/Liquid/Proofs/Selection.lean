import Liquid.Proofs.Assembly
import Liquid.Proofs.Frame

/-!
# What a block renders

A block goes through its alternatives in the order in which they were opened.  It evaluates one guard after the
other up to the first that is false, or up to an alternative without a guard, and renders the nodes of that
alternative.  The loop is stated in any monad.  It is run once as a rendering, which gives the rendering of the
block, and once as a rendering that takes notes of the guards it evaluates and the nodes it renders; the notes
tell what is done and, above all, what is not.

## Main definitions

* `Block.select`, `Block.renderSelected` — the loop over the alternatives, and the nodes of the selected one.
* `RenderEvent`, `Noting` — what is noted, and renderings that take notes.
* `Node.renderNoting` — a block rendered with notes.
* `Node.Renders` — nodes rendered one by one.

## Main statements

* `Node.render_block_eq_inScope` — a block is rendered by the loop.
* `Node.render_eq_renderNoting` — taking notes changes nothing.
* `Node.run_select_of_true`, `Node.run_select_of_false`, `Node.run_select_of_error` — what a guard makes of the loop.
* `Node.exists_renders` — the nodes of a body are rendered in order, up to the first that fails.
* `Node.render_block_selects` — what a block evaluates and renders.
-/

namespace Liquid

namespace Rendering

/-- A guard evaluated in the context. -/
def evaluated (guard : Expression) : Rendering Bool := ofRead fun ctx => guard.evaluate ctx

theorem inScope_bind_pure {α β : Type} (act : Rendering α) (f : α → β) :
    inScope (act >>= fun a => pure (f a)) = inScope act >>= fun a => pure (f a) := by
  funext c
  rw [Outcome.bind_pure_apply, inScope, inScope, Outcome.bind_pure_apply]
  cases (act c.push).2.pop? <;> rfl

end Rendering

/-! ## The loop over the alternatives -/

namespace Block

section

variable {ν : Type} {m : Type → Type} [Monad m]

/-- The first alternative whose guard is false, or that has none. -/
def select (evaluate : Expression → m Bool) : List (Alternative ν) → m (Option (Alternative ν))
  | [] => return none
  | alternative :: rest =>
    match alternative.guard with
    | none => return some alternative
    | some (_, guard) => do
      if ← evaluate guard then select evaluate rest else return some alternative

/-- Nodes rendered in order. -/
def renderNodes (renderNode : ν → m Text) : List ν → m Text
  | [] => return []
  | node :: rest => do
    let t ← renderNode node
    return t ++ (← renderNodes renderNode rest)

/-- The nodes of the selected alternative, and nothing when no alternative is selected. -/
def renderSelected (evaluate : Expression → m Bool) (renderNode : ν → m Text) (b : Block ν) : m Text := do
  match ← select evaluate b.alternatives with
  | none => return []
  | some alternative => renderNodes renderNode alternative.body

end

variable {ν α β : Type}

/-- What the alternatives offer makes no difference to the choice among them. -/
theorem choose_map (ctx : Context) (f : α → β) (guarded : List (Expression × α)) (otherwise : Option α) :
    choose ctx (guarded.map fun p => (p.1, f p.2)) (otherwise.map f) =
      (choose ctx guarded otherwise).map (Option.map f) := by
  induction guarded with
  | nil => rfl
  | cons alternative rest ih =>
      obtain ⟨guard, a⟩ := alternative
      rw [List.map_cons, choose, choose]
      cases guard.evaluate ctx with
      | error e => rfl
      | ok truth =>
          cases truth with
          | false => rfl
          | true => exact ih

/-- The alternatives are gone through as a block chooses among its branches. -/
theorem run_select_evaluated (ctx : Context) (branches : List (Branch ν)) (otherwise : Option (List ν)) :
    select Rendering.evaluated
        (branches.map Branch.alternative ++ (otherwise.map fun body => ⟨none, body⟩).toList) ctx =
      (choose ctx (branches.map fun branch => (branch.guard, branch.alternative))
        (otherwise.map fun body => ⟨none, body⟩), ctx) := by
  induction branches with
  | nil => cases otherwise <;> rfl
  | cons branch rest ih =>
      cases hguard : branch.guard.evaluate ctx with
      | error e =>
          have hread : Rendering.evaluated branch.guard ctx = (.error e, ctx) := congrArg (·, ctx) hguard
          rw [List.map_cons, List.map_cons, List.cons_append, select, choose, hguard]
          exact Outcome.bind_apply_error hread _
      | ok truth =>
          have hread : Rendering.evaluated branch.guard ctx = (.ok truth, ctx) := congrArg (·, ctx) hguard
          rw [List.map_cons, List.map_cons, List.cons_append, select, choose, hguard]
          refine (Outcome.bind_apply_ok hread _).trans ?_
          cases truth with
          | false => rfl
          | true => exact ih

end Block

/-! ## Taking notes -/

/-- What a block does that can be noted, and the context in which it does it. -/
inductive RenderEvent
  | guard (guard : Expression) (ctx : Context)
  | node (node : Node) (ctx : Context)

/-- A rendering that takes notes. -/
abbrev Noting (α : Type) := ExceptT Error (StateM (Context × List RenderEvent)) α

namespace Noting

variable {α β : Type}

/-- A rendering with a note of what it is and of the context in which it begins. -/
def noted (event : Context → RenderEvent) (act : Rendering α) : Noting α := fun s =>
  ((act s.1).1, (act s.1).2, s.2 ++ [event s.1])

/-- A rendering with notes is the same as one without. -/
def Erases (noting : Noting α) (act : Rendering α) : Prop := ∀ s, ((noting s).1, (noting s).2.1) = act s.1

theorem Erases.pure (a : α) : Erases (Pure.pure a) (Pure.pure a) := fun _ => rfl

theorem Erases.noted (event : Context → RenderEvent) (act : Rendering α) : Erases (noted event act) act := fun _ => rfl

theorem Erases.bind {x : Noting α} {x' : Rendering α} {f : α → Noting β} {f' : α → Rendering β} (hx : Erases x x')
    (hf : ∀ a, Erases (f a) (f' a)) : Erases (x >>= f) (x' >>= f') := by
  intro s
  have hs := hx s
  cases hr : x s with
  | mk outcome s' =>
      rw [hr] at hs
      cases outcome with
      | error e => rw [Outcome.bind_apply_error hr, Outcome.bind_apply_error hs.symm]
      | ok a =>
          rw [Outcome.bind_apply_ok hr, Outcome.bind_apply_ok hs.symm]
          exact hf a s'

section

variable {ν : Type} {evaluate : Expression → Noting Bool} {evaluate' : Expression → Rendering Bool}
  {renderNode : ν → Noting Text} {renderNode' : ν → Rendering Text}

theorem Erases.select (h : ∀ guard, Erases (evaluate guard) (evaluate' guard)) (alternatives : List (Alternative ν)) :
    Erases (Block.select evaluate alternatives) (Block.select evaluate' alternatives) := by
  induction alternatives with
  | nil => exact .pure none
  | cons alternative rest ih =>
      obtain ⟨guard, body⟩ := alternative
      cases guard with
      | none => exact .pure _
      | some guard =>
          refine (h guard.2).bind fun truth => ?_
          cases truth with
          | true => exact ih
          | false => exact .pure _

theorem Erases.renderNodes (h : ∀ node, Erases (renderNode node) (renderNode' node)) (nodes : List ν) :
    Erases (Block.renderNodes renderNode nodes) (Block.renderNodes renderNode' nodes) := by
  induction nodes with
  | nil => exact .pure []
  | cons node rest ih => exact (h node).bind fun t => ih.bind fun rest => .pure (t ++ rest)

theorem Erases.renderSelected (hguard : ∀ guard, Erases (evaluate guard) (evaluate' guard))
    (hnode : ∀ node, Erases (renderNode node) (renderNode' node)) (b : Block ν) :
    Erases (b.renderSelected evaluate renderNode) (b.renderSelected evaluate' renderNode') := by
  refine (Erases.select hguard b.alternatives).bind fun selected => ?_
  cases selected with
  | none => exact .pure []
  | some alternative => exact .renderNodes hnode alternative.body

end

end Noting

/-! ## A block rendered with notes -/

namespace Node

open Noting Rendering

/-- A guard evaluated with a note. -/
def evaluateNoting (guard : Expression) : Noting Bool := noted (.guard guard) (evaluated guard)

/-- What a node emits, with a note. -/
def emittedNoting (node : Node) : Noting Text := noted (.node node) (emitted (render node))

/-- A block rendered with notes: how it ends, and what it does inside the scope it enters. -/
def renderNoting (b : Block Node) (c : Context) : Except Error Text × List RenderEvent :=
  let outcome := b.renderSelected evaluateNoting emittedNoting (c.push, [])
  (outcome.1, outcome.2.2)

theorem renderAll_eq_renderNodes (nodes : List Node) :
    renderAll nodes = Block.renderNodes (fun node => emitted (render node)) nodes := by
  induction nodes with
  | nil => rw [renderAll, Block.renderNodes]
  | cons node rest ih => rw [renderAll, Block.renderNodes, ih]

/-- What a block chooses to render is what it selects from its alternatives. -/
theorem choose_renderAll (b : Block Node) (c : Context) :
    Block.choose c (b.branches.map fun branch => (branch.guard, renderAll branch.body)) (b.otherwise.map renderAll) =
      (Block.choose c (b.branches.map fun branch => (branch.guard, branch.alternative))
        (b.otherwise.map fun body => ⟨none, body⟩)).map (Option.map fun selected => renderAll selected.body) := by
  rw [← Block.choose_map, List.map_map, Option.map_map]
  rfl

/-- Inside its scope, a block goes through its alternatives and renders the nodes of the selected one. -/
theorem renderSelected_eq (b : Block Node) :
    b.renderSelected evaluated (fun node => emitted (render node)) = do return (← b.renderInside renderAll).getD [] := by
  funext c
  have hselect := Block.run_select_evaluated c b.branches b.otherwise
  rw [← Block.alternatives] at hselect
  have hinside : (ofRead fun ctx => Block.choose ctx (b.branches.map fun branch => (branch.guard, renderAll branch.body))
      (b.otherwise.map renderAll)) c = (_, c) := congrArg (·, c) (choose_renderAll b c)
  rw [Outcome.bind_pure_apply, Block.renderSelected, Block.renderInside]
  -- Both sides make the same choice before anything is rendered, so the cases are those of the choice.
  cases hchosen : Block.choose c (b.branches.map fun branch => (branch.guard, branch.alternative))
      (b.otherwise.map fun body => ⟨none, body⟩) with
  | error e =>
      rw [hchosen] at hselect hinside
      rw [Outcome.bind_apply_error hselect, Outcome.bind_apply_error hinside]
      rfl
  | ok selected =>
      rw [hchosen] at hselect hinside
      rw [Outcome.bind_apply_ok hselect, Outcome.bind_apply_ok hinside]
      cases selected with
      | none => rfl
      | some alternative =>
          change Block.renderNodes (fun node => emitted (render node)) alternative.body c =
            (((renderAll alternative.body >>= fun t => pure (some t)) c).1.map (·.getD []),
              ((renderAll alternative.body >>= fun t => pure (some t)) c).2)
          rw [← renderAll_eq_renderNodes, Outcome.bind_pure_apply]
          cases renderAll alternative.body c with
          | mk outcome d => cases outcome <;> rfl

/-- **A block is rendered by the loop over its alternatives**, in a scope of its own. -/
theorem render_block_eq_inScope (b : Block Node) :
    render (.block b) = do
      return .text (← inScope (b.renderSelected evaluated fun node => emitted (render node))) := by
  rw [render_block, Block.renderWith_eq, renderSelected_eq, inScope_bind_pure, bind_assoc]
  simp only [pure_bind]

/-- **Taking notes changes nothing** about how the rendering of a block ends. -/
theorem render_eq_renderNoting (b : Block Node) (c : Context) :
    render (.block b) c = ((renderNoting b c).1.map .text, c) := by
  have herases : Erases (b.renderSelected evaluateNoting emittedNoting)
      (b.renderSelected evaluated fun node => emitted (render node)) :=
    .renderSelected (fun guard => .noted (.guard guard) _) (fun node => .noted (.node node) _) b
  have hkeeps : KeepsOuter (b.renderSelected evaluated fun node => emitted (render node)) := by
    rw [renderSelected_eq]
    exact (keepsOuter_renderInside b).bind fun _ t _ => keepsOuter_pure (t.getD [])
  rw [render_block_eq_inScope, Outcome.bind_pure_apply, hkeeps.inScope_eq, ← herases (c.push, [])]
  rfl

/-! ## What is noted -/

section

variable {branch : Branch Node} {c : Context}

theorem run_evaluateNoting {guard : Expression} {outcome : Except Error Bool} (h : guard.evaluate c = outcome)
    (events : List RenderEvent) : evaluateNoting guard (c, events) = (outcome, c, events ++ [.guard guard c]) := by
  rw [evaluateNoting, noted, evaluated, ofRead, h]

/-- What is noted when the guards of branches are evaluated. -/
def guardEvents (c : Context) (branches : List (Branch Node)) : List RenderEvent :=
  branches.map fun branch => .guard branch.guard c

/-- Branches whose guards are true are passed. -/
theorem run_select_of_true {branches : List (Branch Node)} (h : ∀ branch ∈ branches, branch.guard.evaluate c = .ok true)
    (rest : List (Alternative Node)) (events : List RenderEvent) :
    Block.select evaluateNoting (branches.map Branch.alternative ++ rest) (c, events) =
      Block.select evaluateNoting rest (c, events ++ guardEvents c branches) := by
  induction branches generalizing events with
  | nil => rw [guardEvents, List.map_nil, List.map_nil, List.append_nil, List.nil_append]
  | cons branch branches ih =>
      rw [List.forall_mem_cons] at h
      have hrest := ih h.2 (events ++ [.guard branch.guard c])
      rw [List.append_assoc] at hrest
      exact (Outcome.bind_apply_ok (run_evaluateNoting h.1 events) _).trans hrest

/-- A branch whose guard is false is selected, and no guard behind it is evaluated. -/
theorem run_select_of_false (h : branch.guard.evaluate c = .ok false) (rest : List (Alternative Node))
    (events : List RenderEvent) :
    Block.select evaluateNoting (branch.alternative :: rest) (c, events) =
      (.ok (some branch.alternative), c, events ++ [.guard branch.guard c]) :=
  Outcome.bind_apply_ok (run_evaluateNoting h events) _

/-- An error of a guard ends the selection. -/
theorem run_select_of_error {e : Error} (h : branch.guard.evaluate c = .error e) (rest : List (Alternative Node))
    (events : List RenderEvent) :
    Block.select evaluateNoting (branch.alternative :: rest) (c, events) =
      (.error e, c, events ++ [.guard branch.guard c]) :=
  Outcome.bind_apply_error (run_evaluateNoting h events) _

end

/-- `Renders c nodes outcome d rendered`: the nodes are rendered one by one, each in the context that the one before it
leaves and the first in `c`, up to the first that fails.  `d` is the context that is left, and `rendered` are the nodes
that are rendered, each with its context. -/
inductive Renders : Context → List Node → Except Error Text → Context → List (Node × Context) → Prop
  | nil (c : Context) : Renders c [] (.ok []) c []
  | error {c d : Context} {node : Node} {e : Error} (rest : List Node) (h : emitted (render node) c = (.error e, d)) :
      Renders c (node :: rest) (.error e) d [(node, c)]
  | cons {c d d' : Context} {node : Node} {rest : List Node} {t : Text} {outcome : Except Error Text}
      {rendered : List (Node × Context)} (h : emitted (render node) c = (.ok t, d))
      (hrest : Renders d rest outcome d' rendered) :
      Renders c (node :: rest) (outcome.map (t ++ ·)) d' ((node, c) :: rendered)

/-- The nodes that are rendered are the first ones. -/
theorem Renders.isPrefix {c d : Context} {nodes : List Node} {outcome : Except Error Text}
    {rendered : List (Node × Context)} (h : Renders c nodes outcome d rendered) :
    rendered.map Prod.fst <+: nodes := by
  induction h with
  | nil c => exact List.prefix_rfl
  | error rest h => exact ⟨rest, rfl⟩
  | cons h hrest ih => exact List.prefix_cons_inj _ |>.2 ih

/-- What is noted when nodes are rendered. -/
def nodeEvents (rendered : List (Node × Context)) : List RenderEvent := rendered.map fun p => .node p.1 p.2

/-- **Nodes are rendered in order**, up to the first that fails, and each is noted. -/
theorem exists_renders (nodes : List Node) (c : Context) (events : List RenderEvent) :
    ∃ outcome d rendered, Renders c nodes outcome d rendered ∧
      Block.renderNodes emittedNoting nodes (c, events) = (outcome, d, events ++ nodeEvents rendered) := by
  induction nodes generalizing c events with
  | nil => exact ⟨.ok [], c, [], .nil c, by rw [nodeEvents, List.map_nil, List.append_nil]; rfl⟩
  | cons node rest ih =>
      have hnode : emittedNoting node (c, events) =
          ((emitted (render node) c).1, (emitted (render node) c).2, events ++ [.node node c]) := rfl
      cases hrun : emitted (render node) c with
      | mk outcome d =>
          rw [hrun] at hnode
          cases outcome with
          | error e => exact ⟨.error e, d, [(node, c)], .error rest hrun, Outcome.bind_apply_error hnode _⟩
          | ok t =>
              -- The other nodes begin in the context that this one leaves, with its note taken.
              obtain ⟨outcome, d', rendered, hrenders, hrest⟩ := ih d (events ++ [.node node c])
              refine ⟨_, d', (node, c) :: rendered, .cons hrun hrenders, ?_⟩
              rw [List.append_assoc] at hrest
              refine (Outcome.bind_apply_ok hnode _).trans ?_
              cases outcome with
              | error e => exact Outcome.bind_apply_error hrest _
              | ok rest => exact Outcome.bind_apply_ok hrest _

/-- The block evaluates the guards of these branches, then renders the nodes of this body, and nothing else; how the
body ends is how the block ends. -/
def Fires (b : Block Node) (c : Context) (evaluated : List (Branch Node)) (body : List Node) : Prop :=
  ∃ d rendered, Renders c.push body (renderNoting b c).1 d rendered ∧ rendered.map Prod.fst <+: body ∧
    (renderNoting b c).2 = guardEvents c.push evaluated ++ nodeEvents rendered

theorem renderNoting_eq_of_error {b : Block Node} {c : Context} {e : Error} {events : List RenderEvent}
    (h : Block.select evaluateNoting b.alternatives (c.push, []) = (.error e, c.push, events)) :
    renderNoting b c = (.error e, events) := by
  rw [renderNoting, Block.renderSelected, Outcome.bind_apply_error h]

theorem fires_of_select {b : Block Node} {c : Context} {evaluated : List (Branch Node)}
    {guard : Option (Text × Expression)} {body : List Node}
    (h : Block.select evaluateNoting b.alternatives (c.push, []) =
      (.ok (some ⟨guard, body⟩), c.push, guardEvents c.push evaluated)) :
    Fires b c evaluated body := by
  obtain ⟨outcome, d, rendered, hrenders, hrun⟩ := exists_renders body c.push (guardEvents c.push evaluated)
  have hnoting : renderNoting b c = (outcome, guardEvents c.push evaluated ++ nodeEvents rendered) := by
    rw [renderNoting, Block.renderSelected, Outcome.bind_apply_ok h]
    exact congrArg (fun outcome => (outcome.1, outcome.2.2)) hrun
  rw [Fires, hnoting]
  exact ⟨d, rendered, hrenders, hrenders.isPrefix, rfl⟩

/-- The alternatives of a block from one of its branches on. -/
theorem alternatives_eq_of_branches_eq {ν : Type} {b : Block ν} {before after : List (Branch ν)} {branch : Branch ν}
    (h : b.branches = before ++ branch :: after) :
    b.alternatives = before.map Branch.alternative ++ branch.alternative ::
      (after.map Branch.alternative ++ (b.otherwise.map fun body => ⟨none, body⟩).toList) := by
  simp [Block.alternatives, h]

/-- **What a block evaluates and renders.**  It goes through its alternatives in a scope of its own, empty at first, and
the notes are those of this loop.  Where all guards before a branch are true, the block evaluates these guards and that
of the branch, in order.  If the latter is false, it then renders the body of the branch, and if it fails, the block
fails with its error.  Where all guards are true, the block evaluates them and renders the branch without a guard; if
there is none, it renders to the empty text. -/
theorem render_block_selects (b : Block Node) (c : Context) :
    render (.block b) = (do
      return .text (← inScope (b.renderSelected evaluated fun node => emitted (render node)))) ∧
    render (.block b) c = ((renderNoting b c).1.map .text, c) ∧
    (∀ before branch after, b.branches = before ++ branch :: after →
      (∀ earlier ∈ before, earlier.guard.evaluate c.push = .ok true) →
        (branch.guard.evaluate c.push = .ok false → Fires b c (before ++ [branch]) branch.body) ∧
        ∀ e, branch.guard.evaluate c.push = .error e →
          renderNoting b c = (.error e, guardEvents c.push (before ++ [branch]))) ∧
    ((∀ branch ∈ b.branches, branch.guard.evaluate c.push = .ok true) →
      (∀ body, b.otherwise = some body → Fires b c b.branches body) ∧
      (b.otherwise = none → renderNoting b c = (.ok [], guardEvents c.push b.branches))) := by
  refine ⟨render_block_eq_inScope b, render_eq_renderNoting b c, ?_, ?_⟩
  · intro before branch after hbranches hbefore
    have hpass := run_select_of_true hbefore (branch.alternative :: (after.map Branch.alternative ++
      (b.otherwise.map fun body => ⟨none, body⟩).toList)) []
    rw [← alternatives_eq_of_branches_eq hbranches, List.nil_append] at hpass
    have hevents : guardEvents c.push before ++ [.guard branch.guard c.push] =
        guardEvents c.push (before ++ [branch]) := by
      rw [guardEvents, guardEvents, List.map_append]
      rfl
    refine ⟨fun hfalse => ?_, fun e herror => ?_⟩
    · rw [run_select_of_false hfalse, hevents] at hpass
      exact fires_of_select hpass
    · rw [run_select_of_error herror, hevents] at hpass
      exact renderNoting_eq_of_error hpass
  · intro htrue
    have hpass := run_select_of_true htrue (b.otherwise.map fun body => ⟨none, body⟩).toList []
    rw [← Block.alternatives, List.nil_append] at hpass
    refine ⟨fun body hbody => ?_, fun hnone => ?_⟩
    · rw [hbody] at hpass
      exact fires_of_select hpass
    · rw [hnone] at hpass
      rw [renderNoting, Block.renderSelected, Outcome.bind_apply_ok hpass]
      rfl

/-- A branch `a` that is passed, a branch `m` that is not defined, and a branch without a guard, where undefined
variables are errors: the block ends with the error of `m`, and nothing is rendered. -/
theorem render_block_selects_undefined :
    let a : Expression := ⟨[⟨['a'], none⟩], [.and]⟩
    let m : Expression := ⟨[⟨['m'], none⟩], [.and]⟩
    let b : Block Node :=
      ⟨Block.tagName, [⟨['a'], a, [.text ['x']]⟩], ⟨['m'], m, [.text ['y']]⟩, some [.text ['z']]⟩
    let c : Context := ⟨.single [(['a'], .int 1)], .empty, { strictVariables := .bool true }⟩
    render (.block b) c = (.error (.undefined ['m']), c) ∧
      (renderNoting b c).2 = [.guard a c.push, .guard m c.push] := by
  intro a m b c
  have ha : a.evaluate c.push = .ok true := Outcome.eq_ok_of_toOption (by decide +kernel)
  have hm : m.evaluate c.push = .error (.undefined ['m']) := by decide +kernel
  obtain ⟨-, hrender, hbranch, -⟩ := render_block_selects b c
  have herror := (hbranch [⟨['a'], a, [.text ['x']]⟩] _ [] rfl (by simpa using ha)).2 _ hm
  rw [hrender, herror]
  exact ⟨rfl, rfl⟩

end Node
end Liquid
