import Liquid.Error
import Liquid.Value.Basic

/-!
# Filters

A filter takes the value that is piped into it and further arguments.  It may declare its parameters; a call
can then be checked against them before the filter runs.

## Main definitions

* `Filter` — parameters, if declared, and what the filter does.
* `Signature.mismatch?` — how a call with a number of arguments fails to fit.
-/

namespace Liquid

/-- How a parameter takes its argument. -/
inductive ParameterKind
  /-- By its place. -/
  | positional
  /-- All arguments from its place on. -/
  | rest
  /-- By its name only. -/
  | named
  /-- All arguments by name. -/
  | namedRest
  deriving DecidableEq

/-- A parameter of a filter. -/
structure Parameter where
  name : Text
  kind : ParameterKind := .positional
  /-- Whether the parameter may be left out. -/
  optional : Bool := false
  deriving DecidableEq

namespace Parameter

/-- Whether a call without an argument for this parameter fails. -/
def isRequired (p : Parameter) : Bool :=
  match p.kind with
  | .positional | .named => !p.optional
  | .rest | .namedRest => false

/-- Whether the parameter takes arguments by their place. -/
def takesPlaced (p : Parameter) : Bool :=
  match p.kind with
  | .positional | .rest => true
  | .named | .namedRest => false

end Parameter

/-- The parameters of a filter. -/
abbrev Signature := List Parameter

namespace Signature

/-- The parameters `names`, of which those from the `required`-th on may be left out. -/
def ofNames (required : Nat) (names : List String) : Signature :=
  names.zipIdx.map fun p => { name := p.1.toList, optional := required ≤ p.2 }

/-- Whether a piped value has a place among the parameters. -/
def acceptsInput (s : Signature) : Bool := s.any Parameter.takesPlaced

/-- How a call with `count` arguments by place fails to fit, if it does. -/
def mismatch? : Signature → (count : Nat) → Option Mismatch
  | ps, 0 => (ps.find? Parameter.isRequired).map fun p => .missing p.name
  | [], _ + 1 => some .tooMany
  | p :: ps, count + 1 =>
    match p.kind with
    | .positional => mismatch? ps count
    | .rest => mismatch? ps 0
    | .named | .namedRest => some .tooMany

end Signature

/-- A filter: its parameters, if it declares them, and what it does with a value and arguments. -/
structure Filter where
  signature : Option Signature
  run : Value → List Value → Except Error Value

end Liquid
