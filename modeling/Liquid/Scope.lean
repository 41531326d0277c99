import Liquid.Error
import Liquid.Value.Basic

/-!
# Scopes

The variables of a template live in scopes.  Scopes are stacked; a name is looked up from the innermost scope
outwards, and assigned in the innermost.  There is always at least one scope.

## Main definitions

* `Scope` — names with values, in the order of their first assignment.
* `ScopeStack` — the scopes, innermost first.

## Main statements

* `ScopeStack.pop_push` — leaving a scope undoes entering it.
* `ScopeStack.lookup_set` — an assigned value is found.
-/

namespace Liquid

/-- Names with values. -/
abbrev Scope := List (Text × Value)

namespace Scope

/-- A scope with one name assigned; a name that is there keeps its place. -/
def set (name : Text) (v : Value) : Scope → Scope
  | [] => [(name, v)]
  | (n, w) :: rest => if n = name then (name, v) :: rest else (n, w) :: set name v rest

/-- The value of a name. -/
def get? (s : Scope) (name : Text) : Option Value := s.lookup name

/-- The scope with the given assignments, later ones replacing earlier ones. -/
def ofList (entries : List (Text × Value)) : Scope := entries.foldl (fun s e => s.set e.1 e.2) []

/-- The mapping that a scope is. -/
def toMapping (s : Scope) : Value := .mapping (s.map fun e => (.text e.1, e.2))

@[simp] theorem get?_nil (name : Text) : get? [] name = none := rfl

theorem get?_cons (n name : Text) (v : Value) (s : Scope) :
    get? ((n, v) :: s) name = if name = n then some v else s.get? name := by
  unfold get?
  rw [List.lookup_cons]
  by_cases h : name = n
  · simp [h]
  · simp [h, beq_eq_false_iff_ne.2 h]

theorem get?_set (s : Scope) (name other : Text) (v : Value) :
    (s.set name v).get? other = if other = name then some v else s.get? other := by
  induction s with
  | nil => exact get?_cons name other v []
  | cons e rest ih =>
    obtain ⟨n, w⟩ := e
    unfold set
    split
    · next hn =>
      subst hn
      rw [get?_cons, get?_cons]
      split <;> rfl
    · next hn =>
      rw [get?_cons, get?_cons, ih]
      by_cases h : other = n
      · subst h; simp [hn]
      · simp [h]

end Scope

/-- A stack of scopes, of which there is at least one. -/
structure ScopeStack where
  inner : Scope
  outer : List Scope

namespace ScopeStack

/-- The scopes, innermost first. -/
def scopes (s : ScopeStack) : List Scope := s.inner :: s.outer

/-- The number of scopes. -/
def depth (s : ScopeStack) : Nat := s.outer.length + 1

/-- The stack of one scope. -/
def single (scope : Scope) : ScopeStack := ⟨scope, []⟩

/-- A stack with an empty scope on top. -/
def push (s : ScopeStack) : ScopeStack := ⟨[], s.inner :: s.outer⟩

/-- The innermost scope and the stack without it; none when it is the only one. -/
def pop? (s : ScopeStack) : Option (Scope × ScopeStack) :=
  match s.outer with
  | [] => none
  | scope :: outer => some (s.inner, ⟨scope, outer⟩)

/-- A stack without its innermost scope, as far as it has another one. -/
def dropInner (s : ScopeStack) : ScopeStack := (s.pop?.map Prod.snd).getD s

/-- A stack with a name assigned in the innermost scope. -/
def set (name : Text) (v : Value) (s : ScopeStack) : ScopeStack := { s with inner := s.inner.set name v }

/-- The value of a name in the innermost scope that has it. -/
def lookup (s : ScopeStack) (name : Text) : Option Value := s.scopes.findSome? (·.get? name)

/-- The innermost scope that has a name. -/
def scopeOf? (s : ScopeStack) (name : Text) : Option Scope := s.scopes.find? fun scope => (scope.get? name).isSome

@[simp] theorem depth_push (s : ScopeStack) : s.push.depth = s.depth + 1 := rfl

@[simp] theorem pop_push (s : ScopeStack) : s.push.pop? = some ([], s) := rfl

@[simp] theorem dropInner_push (s : ScopeStack) : s.push.dropInner = s := rfl

@[simp] theorem outer_set (name : Text) (v : Value) (s : ScopeStack) : (s.set name v).outer = s.outer := rfl

theorem pop?_eq_none_iff {s : ScopeStack} : s.pop? = none ↔ s.depth = 1 := by
  obtain ⟨inner, outer⟩ := s
  cases outer <;> simp [pop?, depth]

theorem lookup_set (name other : Text) (v : Value) (s : ScopeStack) :
    (s.set name v).lookup other = if other = name then some v else s.lookup other := by
  simp only [lookup, scopes, set, List.findSome?_cons, Scope.get?_set]
  by_cases h : other = name <;> simp [h]

end ScopeStack
end Liquid
