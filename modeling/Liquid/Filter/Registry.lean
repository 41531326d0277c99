import Liquid.Filter.Basic
import Liquid.Text.Identifier

/-!
# The registry of filters

Filters are registered under names.  A name is an identifier; what is registered must be a filter, and if it
declares its parameters, the piped value must have a place among them.  The registry keeps two tables, one of the
filters and one of the parameters that they declare.  Registering a name again replaces its filter, and replaces or
removes its parameters.  A call is checked against the table of parameters.

## Main definitions

* `Registry.registering` — one more filter, or why not.
* `Registry.names` — the registered names in order.
* `Registry.invoke` — a call by name.

## Main statements

* `Registry.find?_put` — the filter that was put under a name is the one that is found.
-/

namespace Liquid

/-- Entries under names. -/
abbrev Table (α : Type) := List (Text × α)

namespace Table

variable {α : Type}

/-- A table without the entry of a name. -/
def erase (table : Table α) (name : Text) : Table α := table.filter (·.1 ≠ name)

/-- A table with an entry for a name, in the place of the one it had. -/
def set (table : Table α) (name : Text) (a : α) : Table α := (name, a) :: table.erase name

theorem lookup_cons (name other : Text) (a : α) (table : Table α) :
    List.lookup other ((name, a) :: table) = if other = name then some a else table.lookup other := by
  rw [List.lookup_cons]
  by_cases h : other = name
  · simp [h]
  · simp [h, beq_eq_false_iff_ne.2 h]

theorem lookup_erase (table : Table α) (name other : Text) :
    (table.erase name).lookup other = if other = name then none else table.lookup other := by
  induction table with
  | nil => simp [erase]
  | cons e table ih =>
    obtain ⟨n, a⟩ := e
    unfold erase at ih ⊢
    by_cases hn : n = name
    · subst hn
      rw [List.filter_cons_of_neg (by simp), ih, lookup_cons]
      split <;> rfl
    · rw [List.filter_cons_of_pos (by simp [hn]), lookup_cons, lookup_cons, ih]
      by_cases h : other = n
      · subst h; simp [hn]
      · simp [h]

theorem lookup_set (table : Table α) (name other : Text) (a : α) :
    (table.set name a).lookup other = if other = name then some a else table.lookup other := by
  rw [set, lookup_cons, lookup_erase]
  split <;> rfl

end Table

/-- Named filters, and the parameters that they declare. -/
structure Registry where
  filters : Table Filter
  signatures : Table Signature

namespace Registry

/-- The registry without filters. -/
def empty : Registry := ⟨[], []⟩

/-- The filter registered under a name. -/
def find? (r : Registry) (name : Text) : Option Filter := r.filters.lookup name

/-- Whether a name is registered. -/
def contains (r : Registry) (name : Text) : Bool := (r.find? name).isSome

/-- The registry with `f` under `name`.  What an earlier filter of this name declared goes with it. -/
def put (r : Registry) (name : Text) (f : Filter) : Registry where
  filters := r.filters.set name f
  signatures :=
    match f.signature with
    | some s => r.signatures.set name s
    | none => r.signatures.erase name

/-- Registers a filter; `none` stands for something that is no filter. -/
def registering (name : Text) (candidate : Option Filter) : ExceptT Error (StateM Registry) Unit :=
  if !Text.isIdentifier name then throw (.invalidFilterName name)
  else
    match candidate with
    | none => throw (.notCallable name)
    | some f =>
      if !f.signature.all Signature.acceptsInput then throw (.noInput name)
      else do
        modify fun r => { r with filters := r.filters.set name f }
        match f.signature with
        | some s => modify fun r => { r with signatures := r.signatures.set name s }
        | none => modify fun r => { r with signatures := r.signatures.erase name }

/-- The registry with one more filter, or why there is none. -/
def register (r : Registry) (name : Text) (candidate : Option Filter) : Except Error Registry :=
  let (outcome, r') := registering name candidate r
  outcome.map fun _ => r'

/-- The registered names in the order of their code points. -/
def names (r : Registry) : List Text := Text.sorted (r.filters.map Prod.fst)

/-- The filter registered under a name; an unknown name is an error. -/
def get (r : Registry) (name : Text) : Except Error Filter :=
  match r.find? name with
  | some f => .ok f
  | none => .error (.unknownFilter name)

/-- How a call with a number of arguments fails to fit the parameters under a name; without any, all calls fit. -/
def mismatch? (r : Registry) (name : Text) (count : Nat) : Option Mismatch :=
  (r.signatures.lookup name).bind (·.mismatch? (count + 1))

/-- Calls the filter registered under a name, in any monad with errors.  The call is checked before the filter
runs. -/
def invokeWith {m : Type → Type} [Monad m] [MonadExceptOf Error m] (run : Filter → Value → List Value → m Value)
    (r : Registry) (name : Text) (v : Value) (args : List Value) : m Value :=
  match r.get name with
  | .error e => throw e
  | .ok f =>
    match r.mismatch? name args.length with
    | some mismatch => throw (Error.arguments name args.length mismatch)
    | none => run f v args

/-- Calls the filter registered under a name. -/
def invoke (r : Registry) (name : Text) (v : Value) (args : List Value) : Except Error Value :=
  r.invokeWith Filter.run name v args

theorem find?_put (r : Registry) (name other : Text) (f : Filter) :
    (r.put name f).find? other = if other = name then some f else r.find? other :=
  Table.lookup_set r.filters name other f

end Registry
end Liquid
