import Liquid.Path.Select

/-!
# Path engines

A path with brackets is not followed by this library but by an engine, which it is given.  The engine is asked with the
path, written from a root, and the value at the root; it answers with the values that the path leads to, or it fails.
What is relied on of an engine is said where it is relied on.

## Main definitions

* `PathFailure` — how an engine fails.
* `PathEngine` — an engine.
* `PathEngine.standard` — the engine that reads and selects by the paths of this library.
-/

namespace Liquid

/-- How an engine fails: it does not read the path, or a step of it has no answer.  An engine compares nothing by the
relations of conditions. -/
inductive PathFailure
  | malformed
  | fault (f : Fault) (h : f ≠ .unknownRelation)

/-- A failure from a fault. -/
def PathFailure.ofFault (f : Fault) : PathFailure := if h : f = .unknownRelation then malformed else fault f h

/-- An engine that follows written paths. -/
class PathEngine where
  /-- The values that a path, written from the root `$`, leads to from the value at the root. -/
  find : Text → Value → Except PathFailure (List Value)

/-- The engine that reads and selects by the paths of this library. -/
instance PathEngine.standard : PathEngine where
  find t root :=
    match Path.parse? t with
    | .error .malformed => .error .malformed
    | .error .tooManyDigits => .error (.ofFault .tooManyDigits)
    | .ok path => (path.values root).mapError PathFailure.ofFault

/-- The error of a variable that an engine fails to follow. -/
def PathFailure.error (written : Text) : PathFailure → Error
  | malformed => .malformed ⟨.invalidPath, some written, none⟩
  | fault f _ => .fault f

/-- The values that a path, written without its root, leads to from a value. -/
def Value.select (root : Value) (written : Text) (e : PathEngine := .standard) : Except Error (List Value) :=
  (e.find ("$.".toList ++ written) root).mapError (PathFailure.error written)

end Liquid
