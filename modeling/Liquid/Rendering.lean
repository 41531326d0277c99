import Liquid.Context

/-!
# Renderings

A rendering reads and changes a context, and ends with a result or an error.  The context is there after an
error as well.

## Main definitions

* `Rendering` — the renderings.
* `Rendering.ofRead` — a rendering that only reads the context.
* `Rendering.inScope` — a rendering in a scope of its own.

## Main statements

* `Rendering.run_inScope` — what a rendering in a scope of its own ends with.
-/

namespace Liquid

/-- What reads and changes a context, and ends with a result or an error. -/
abbrev Rendering (α : Type) := ExceptT Error (StateM Context) α

namespace Rendering

/-- A rendering that only reads the context. -/
def ofRead {α : Type} (f : Context → Except Error α) : Rendering α := fun c => (f c, c)

/-- A rendering that changes the context. -/
def change (f : Context → Context) : Rendering Unit := fun c => (.ok (), f c)

/-- Enters a scope. -/
def push : Rendering Unit := change Context.push

/-- Leaves the innermost scope, and tells what was in it. -/
def pop : Rendering Scope := fun c =>
  match c.pop? with
  | some (scope, c) => (.ok scope, c)
  | none => (.error .outermostScope, c)

/-- A rendering in a scope of its own.  The scope is left however the rendering ends; if there is no scope left
to leave, that is the error. -/
def inScope {α : Type} (act : Rendering α) : Rendering α := fun c =>
  let outcome := act c.push
  match outcome.2.pop? with
  | some popped => (outcome.1, popped.2)
  | none => (.error .outermostScope, outcome.2)

/-- A rendering in a scope of its own, of which the context is known up to the innermost scope. -/
theorem run_inScope {α : Type} {act : Rendering α} {c d : Context} {scope : Scope} {result : Except Error α}
    (h : act c.push = (result, d)) (hpop : d.pop? = some (scope, c)) : inScope act c = (result, c) := by
  simp [inScope, h, hpop]

end Rendering
end Liquid
