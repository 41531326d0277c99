import Liquid.Config
import Liquid.Filter.Registry
import Liquid.Operand

/-!
# Contexts

What a template is rendered against: the scopes with its variables, the filters, the settings, and the engine that
follows paths with brackets.

## Main definitions

* `Context` — scopes, filters, settings and engine.
* `Context.resolve` — the value of an operand.
* `Context.invoke` — a filter applied to a value.
-/

namespace Liquid

/-- The scopes, the filters and the settings of a rendering, and the engine that follows paths with brackets. -/
structure Context where
  scopes : ScopeStack
  filters : Registry
  config : Config
  [engine : PathEngine]

namespace Context

/-- The value of the operand that a text is. -/
def resolve (c : Context) (t : Text) : Except Error Value := c.scopes.resolve c.engine c.config.isStrict t

/-- The value of an operand that may be left out. -/
def resolveOptional (c : Context) : Option Text → Except Error Value
  | none => .ok .nil
  | some t => c.resolve t

/-- The value of a variable. -/
def valueOf (c : Context) (path : Text) : Except Error Value :=
  c.scopes.valueOf c.engine c.config.isStrict path

/-- A filter applied to a value. -/
def invoke (c : Context) (name : Text) (v : Value) (args : List Value) : Except Error Value :=
  c.filters.invoke name v args

/-- A context with an empty scope on top. -/
def push (c : Context) : Context := { c with scopes := c.scopes.push }

/-- A context with a name assigned in the innermost scope. -/
def set (name : Text) (v : Value) (c : Context) : Context := { c with scopes := c.scopes.set name v }

/-- The innermost scope, and the context without it; none when it is the only one. -/
def pop? (c : Context) : Option (Scope × Context) :=
  c.scopes.pop?.map fun p => (p.1, { c with scopes := p.2 })

@[simp] theorem pop?_push (c : Context) : c.push.pop? = some ([], c) := rfl

end Context
end Liquid
