import Liquid.Context
import Liquid.Markup.FilterChain
import Liquid.Number.Shortest

/-!
# Outputs

An output is a markup such as `user.name | upcase | truncate: 10`.  It is read once into a name and a chain of
filters; where outputs are escaped, `escape` is added to the chain.  Rendering resolves the name, then applies
the filters from left to right, with their arguments resolved anew.  The name of layout content skips its
first filter.

## Main definitions

* `Output.parse` — the output that a markup is.
* `Output.format` — numbers as they are put out.
* `Output.render` — the value of an output.
-/

namespace Liquid

/-- An output, read under settings. -/
structure Output where
  markup : Text
  config : Config
  chain : FilterChain

namespace Output

/-- The filters of an output: those of its chain, and escaping where outputs are escaped. -/
def filtersUnder (config : Config) (filters : List FilterCall) : List FilterCall :=
  if config.escapes then FilterChain.escaped filters else filters

/-- The output that a markup is under settings. -/
def parse (config : Config) (markup : Text) : Except SyntaxError Output := do
  let chain ← FilterChain.parse markup
  return ⟨markup, config, ⟨chain.name, filtersUnder config chain.filters⟩⟩

/-- The name of an output. -/
def name (o : Output) : Text := o.chain.name

/-- The filters of an output. -/
def filters (o : Output) : List FilterCall := o.chain.filters

/-- An output as it is shown. -/
def shown (o : Output) : Text := "Variable(".toList ++ Text.quote o.markup ++ [')']

/-- A value as it is put out: a double precision number that is whole is written with grouped digits and one
decimal place; everything else stays as it is. -/
def format : Value → Value
  | .double (.finite negative m e) =>
    if Binary64.isWhole m e then .text (Binary64.grouped negative (Binary64.wholePart m e))
    else .double (.finite negative m e)
  | v => v

/-- The filters that are applied: the name of layout content skips the first one. -/
def applied (o : Output) : List FilterCall :=
  if o.config.isLayoutName (Text.strip o.name) then o.filters.drop 1 else o.filters

/-- A filter applied to a value, with its arguments resolved. -/
def step (c : Context) (v : Value) (f : FilterCall) : Except Error Value := do
  c.invoke f.name v (← f.arguments.mapM c.resolve)

/-- The value of an output. -/
def render (o : Output) (c : Context) : Except Error Value := do
  let v ← c.resolve o.name
  return format (← o.applied.foldlM (step c) v)

end Output
end Liquid
