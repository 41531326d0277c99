import Liquid.Json

/-!
# Settings

A template is compiled and rendered under settings: whether outputs are escaped, which name holds the content
of a layout, and whether an undefined variable is an error.  Settings come as named values of any type; what
counts as not given switches a setting off.

## Main definitions

* `Config.ofEntries` — the settings that named values give.
* `Config.load` — settings from a file.
* `Config.layoutNames` — the names that hold content of a layout.
-/

namespace Liquid

/-- Settings, as they were given. -/
structure Config where
  autoEscape : Value := .bool false
  layoutVariable : Value := .nil
  strictVariables : Value := .bool false

namespace Config

instance : Inhabited Config := ⟨{}⟩

/-- Whether outputs are escaped. -/
def escapes (c : Config) : Bool := !c.autoEscape.isVacant

/-- Whether an undefined variable is an error. -/
def isStrict (c : Config) : Bool := !c.strictVariables.isVacant

/-- The name that always holds content of a layout. -/
def defaultLayoutName : Text := "content_for_layout".toList

/-- The names that hold content of a layout. -/
def layoutNames (c : Config) : List Value :=
  let first := Value.text defaultLayoutName
  if c.layoutVariable.isVacant || Value.equal c.layoutVariable first then [first]
  else [first, c.layoutVariable]

/-- Whether a name holds content of a layout. -/
def isLayoutName (c : Config) (name : Text) : Bool := c.layoutNames.any (Value.equal (.text name))

/-- The names of the settings. -/
def keys : List Text :=
  ["auto_escape".toList, "layout_variable_name".toList, "strict_variables".toList]

/-- The settings that named values give; unknown names are an error. -/
def ofEntries (entries : List (Text × Value)) : Except Error Config :=
  let unknown := (entries.map Prod.fst).filter (!keys.contains ·)
  if unknown.isEmpty then
    let get (key : String) (default : Value) := (entries.lookup key.toList).getD default
    .ok { autoEscape := get "auto_escape" (.bool false)
          layoutVariable := get "layout_variable_name" .nil
          strictVariables := get "strict_variables" (.bool false) }
  else .error (.unknownKeys (Text.sorted unknown))

/-- The steps of a file's path below the directory of the settings; an empty step and `.` lead nowhere.  A path
from the top of the file system is none of them. -/
def pathBelow? (path : Text) : Option (List Text) :=
  if path.head? = some '/' then none
  else some ((Text.splitAtChar '/' path).filter fun step => step ≠ [] ∧ step ≠ ['.'])

/-- The settings in the file `name.json` among files with their texts. -/
def load (files : List (Text × Text)) (name : Text) : Except Error Config :=
  match files.find? fun f => pathBelow? f.1 = pathBelow? (name ++ ".json".toList) with
  | none => .error (.missingConfig name)
  | some (_, t) => do
    match ← (Json.read t).mapError Error.fault with
    | .mapping es => ofEntries (es.filterMap fun e => e.1.asText?.map fun key => (key, e.2))
    | _ => .error (.configNotMapping name)

end Config
end Liquid
