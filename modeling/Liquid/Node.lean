import Liquid.Block
import Liquid.Output

/-!
# Nodes

The body of a block is a list of nodes: texts, values, outputs, assignments and blocks.  A node renders to a
value; a body renders to what its nodes emit, one after the other.

## Main definitions

* `Node` — the nodes.
* `Node.render`, `Node.renderAll` — a node and a body rendered.

## Main statements

* `Node.render_block` — a block renders its body as a list of nodes.
-/

namespace Liquid

/-- A part of a template. -/
inductive Node
  | text (t : Text)
  | value (v : Value)
  | output (o : Output)
  /-- Assigns a name in the innermost scope and emits nothing. -/
  | assign (name : Text) (v : Value)
  | block (b : Block Node)

namespace Node

/-- What a template emits for the value of a rendering. -/
def emitted (act : Rendering Value) : Rendering Text := do
  let v ← act
  Rendering.ofRead fun _ => v.emittedText

mutual

/-- Renders a node. -/
def render : Node → Rendering Value
  | .text t => pure (.text t)
  | .value v => pure v
  | .output o => Rendering.ofRead o.render
  | .assign name v => do
    Rendering.change (Context.set name v)
    return .text []
  | .block b => renderBlock b

/-- Renders a block. -/
def renderBlock : Block Node → Rendering Value
  | ⟨_, earlier, latest, otherwise⟩ => do
    let t ← Block.renderChosen (alternatives earlier ++ [alternative latest]) (lastAlternative otherwise)
    return .text (t.getD [])

/-- What a guarded branch offers to be rendered. -/
def alternative : Branch Node → Expression × Rendering Text
  | ⟨_, guard, body⟩ => (guard, renderAll body)

/-- What guarded branches offer to be rendered. -/
def alternatives : List (Branch Node) → List (Expression × Rendering Text)
  | [] => []
  | branch :: rest => alternative branch :: alternatives rest

/-- What the branch without a guard offers to be rendered. -/
def lastAlternative : Option (List Node) → Option (Rendering Text)
  | none => none
  | some body => some (renderAll body)

/-- Renders nodes in order. -/
def renderAll : List Node → Rendering Text
  | [] => pure []
  | node :: rest => do
    let t ← emitted (render node)
    return t ++ (← renderAll rest)

end

theorem alternative_eq (branch : Branch Node) : alternative branch = (branch.guard, renderAll branch.body) := by
  cases branch
  rfl

theorem alternatives_eq (branches : List (Branch Node)) :
    alternatives branches = branches.map fun branch => (branch.guard, renderAll branch.body) := by
  induction branches with
  | nil => simp [alternatives]
  | cons branch rest ih => simp [alternatives, alternative_eq, ih]

theorem lastAlternative_eq (body : Option (List Node)) : lastAlternative body = body.map renderAll := by
  cases body <;> simp [lastAlternative]

/-- A block renders its body as a list of nodes. -/
theorem render_block (b : Block Node) :
    render (.block b) = do return .text ((← b.renderWith renderAll).getD []) := by
  obtain ⟨_, earlier, latest, otherwise⟩ := b
  simp [render, renderBlock, Block.renderWith, Block.branches, alternatives_eq, alternative_eq,
    lastAlternative_eq]

end Node
end Liquid
