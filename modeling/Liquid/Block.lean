import Liquid.Logic
import Liquid.Rendering

/-!
# Conditional blocks

A block `unless` has branches: guarded ones, each with an expression, and at the end perhaps one without.  It
renders the first branch whose guard is false, or else the branch without a guard, in a scope of its own.
While a block is built, nodes go into the branch that was opened last.

## Main definitions

* `Branch`, `Block` — branches and blocks of nodes of any type.
* `Block.opened`, `Block.addNode`, `Block.addBranch`, `Block.addElse`, `Block.addTag` — how a block is built.
* `Block.choose` — the branch to render.
* `Block.renderWith` — a block rendered, given how bodies are.

## Main statements

* `Block.nodes_addNode` — a node is added after all others.
-/

namespace Liquid

/-- A guarded branch: its guard as it is written and as it is read, and its body. -/
structure Branch (ν : Type) where
  source : Text
  guard : Expression
  body : List ν := []

/-- A block.  It always has a guarded branch; the branch without a guard, if there is one, is the last. -/
structure Block (ν : Type) where
  /-- The tag that messages about its guards name. -/
  guardTag : Text
  /-- The guarded branches before the last of them. -/
  earlier : List (Branch ν)
  /-- The last guarded branch. -/
  latest : Branch ν
  /-- The body of the branch without a guard. -/
  otherwise : Option (List ν)

namespace Block

variable {ν : Type}

/-- The tag of a block. -/
def tagName : Text := "unless".toList

/-- The tag that opens the branch without a guard. -/
def elseName : Text := "else".toList

/-- The guarded branches in order. -/
def branches (b : Block ν) : List (Branch ν) := b.earlier ++ [b.latest]

/-- Whether a block has a branch without a guard. -/
def hasElse (b : Block ν) : Bool := b.otherwise.isSome

/-- The number of branches. -/
def size (b : Block ν) : Nat := b.branches.length + (if b.hasElse then 1 else 0)

/-- The body of the branch that was opened last. -/
def currentBody (b : Block ν) : List ν := b.otherwise.getD b.latest.body

/-- All nodes in the order of the branches. -/
def nodes (b : Block ν) : List ν := b.branches.flatMap Branch.body ++ b.otherwise.getD []

/-! ## Building -/

/-- The block that a markup opens.  `guardTag` is the tag that messages about guards name. -/
def opened (guardTag markup : Text) : Except SyntaxError (Block ν) := do
  let guard ← Expression.parse guardTag markup
  return ⟨guardTag, [], ⟨markup, guard, []⟩, none⟩

/-- One more node in the branch that was opened last. -/
def addNode (b : Block ν) (node : ν) : Block ν :=
  match b.otherwise with
  | some body => { b with otherwise := some (body ++ [node]) }
  | none => { b with latest := { b.latest with body := b.latest.body ++ [node] } }

/-- One more guarded branch. -/
def addBranch (b : Block ν) (source : Text) : Except SyntaxError (Block ν) :=
  if b.hasElse then .error ⟨.branchAfterElse tagName, some source, none⟩
  else do
    let guard ← Expression.parse b.guardTag source
    return { b with earlier := b.branches, latest := ⟨source, guard, []⟩ }

/-- The branch without a guard. -/
def addElse (b : Block ν) : Except SyntaxError (Block ν) :=
  if b.hasElse then .error ⟨.duplicateElse tagName, none, none⟩ else .ok { b with otherwise := some [] }

/-- A tag that is found inside the block. -/
def addTag (b : Block ν) (tag : Text) : Except SyntaxError (Block ν) :=
  if tag = elseName then b.addElse else .error ⟨.unknownTag tag tagName, none, none⟩

/-! ## Rendering -/

/-- The first alternative whose guard is false, or the one without a guard. -/
def choose {α : Type} (ctx : Context) (guarded : List (Expression × α)) (otherwise : Option α) :
    Except Error (Option α) :=
  match guarded with
  | [] => .ok otherwise
  | (guard, a) :: rest => do
    if ← guard.evaluate ctx then choose ctx rest otherwise else return some a

/-- The place of the branch to render among the branches. -/
def chosenIndex (ctx : Context) (b : Block ν) : Except Error (Option Nat) :=
  choose ctx ((b.branches.map Branch.guard).zipIdx) (b.otherwise.map fun _ => b.branches.length)

/-- Renders the first alternative whose guard is false, or the one without a guard, in a scope of its own. -/
def renderChosen {α : Type} (guarded : List (Expression × Rendering α)) (otherwise : Option (Rendering α)) :
    Rendering (Option α) :=
  Rendering.inScope do
    match ← Rendering.ofRead fun ctx => choose ctx guarded otherwise with
    | none => return none
    | some act => return some (← act)

/-- Renders a block, given how the body of a branch is rendered. -/
def renderWith {α : Type} (renderBody : List ν → Rendering α) (b : Block ν) : Rendering (Option α) :=
  renderChosen (b.branches.map fun branch => (branch.guard, renderBody branch.body))
    (b.otherwise.map renderBody)

/-! ## First facts -/

@[simp] theorem nodes_addNode (b : Block ν) (node : ν) : (b.addNode node).nodes = b.nodes ++ [node] := by
  unfold addNode nodes branches
  split <;> simp_all

@[simp] theorem hasElse_addNode (b : Block ν) (node : ν) : (b.addNode node).hasElse = b.hasElse := by
  unfold addNode hasElse
  split <;> simp_all

end Block
end Liquid
