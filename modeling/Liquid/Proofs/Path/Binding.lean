import Mathlib.Data.List.Induction
import Liquid.Proofs.Path.Composition
import Liquid.Proofs.Path.Indexing

/-!
# The binding of a root

A variable is the name of a root and steps behind it.  Its steps are followed from the value that the innermost scope
with the root gives to it, and from nothing else.  So an outer binding of the root never shows through, not even where
a step is missing under the inner one.  In mappings it does not matter how a key is written, behind a point or between
quotes in brackets.

## Main definitions

* `PathEngine.arrive` — what the steps of a variable lead to from the value of its root.
* `Value.entryAlong?` — the entry that keys lead to, one mapping inside the other.
* `Value.MappingsAlong` — values in which keys are followed through mappings only.

## Main statements

* `ScopeStack.valueOf_spelling` — a variable is what its steps lead to from the innermost binding of its root.
* `ScopeStack.find_keys` — the entry that keys in brackets lead to.
* `Context.resolve_shadowed` — the value of an operand depends on the innermost binding of its root alone.
* `Context.resolve_keys` — keys behind points and keys in brackets.
-/

namespace Liquid

namespace Value

/-- The entry that keys lead to, one mapping inside the other. -/
def entryAlong? (v : Value) (keys : List Text) : Option Value := keys.foldlM valueAt? v

/-- Keys are followed through mappings only: every value in which one of them is looked up is a mapping, and the key
`size`, which is the number of entries behind a point, is not missing in it. -/
def MappingsAlong : Value → List Text → Prop
  | _, [] => True
  | v, key :: keys => ∃ entries, v = .mapping entries ∧ (lookupText key entries = none → key ≠ "size".toList) ∧
      ∀ w, lookupText key entries = some w → MappingsAlong w keys

/-- Steps through mappings are steps to their entries. -/
theorem descend?_of_mappingsAlong {v : Value} {keys : List Text} (h : v.MappingsAlong keys) :
    v.descend? keys = v.entryAlong? keys := by
  induction keys generalizing v with
  | nil => rfl
  | cons key keys ih =>
      obtain ⟨entries, rfl, hsize, hrest⟩ := h
      have hchild : child? (.mapping entries) key = valueAt? (.mapping entries) key := by
        rw [child?, valueAt?]
        cases hkey : lookupText key entries with
        | none => exact if_neg (hsize hkey)
        | some w => rfl
      rw [descend?, entryAlong?, List.foldlM_cons, List.foldlM_cons, hchild]
      refine Option.bind_congr fun w hw => ?_
      exact ih (hrest w hw)

theorem entryAlong?_append (v : Value) (keys : List Text) (key : Text) :
    v.entryAlong? (keys ++ [key]) = (v.entryAlong? keys).bind (·.valueAt? key) := by
  rw [entryAlong?, List.foldlM_append, ← entryAlong?]
  simp

/-- Before the last of the keys there are mappings only, and the last one is looked up in a mapping. -/
theorem MappingsAlong.append {v : Value} {keys : List Text} {key : Text} (h : v.MappingsAlong (keys ++ [key])) :
    v.MappingsAlong keys ∧ ∀ w, v.entryAlong? keys = some w → ∃ entries, w = .mapping entries := by
  induction keys generalizing v with
  | nil =>
      obtain ⟨entries, rfl, -, -⟩ := h
      refine ⟨trivial, fun w hw => ⟨entries, ?_⟩⟩
      exact (Option.some.inj hw).symm
  | cons first rest ih =>
      obtain ⟨entries, rfl, hsize, hrest⟩ := h
      refine ⟨⟨entries, rfl, hsize, fun w hw => (ih (hrest w hw)).1⟩, fun w hw => ?_⟩
      rw [entryAlong?, List.foldlM_cons, Option.bind_eq_bind, Option.bind_eq_some_iff] at hw
      obtain ⟨u, hu, hw⟩ := hw
      exact (ih (hrest u hu)).2 w hw

end Value

/-- What the steps of a variable lead to from the value of its root.  Without brackets they are steps by names of any
kind; with a bracket they are followed by the engine, from a mapping with the root alone. -/
def PathEngine.arrive (e : PathEngine) (name : Text) (steps : List Path.Step) (v : Value) : Except Error (List Value) :=
  if steps.all Path.Step.isName then .ok (v.descend? (steps.map Path.Step.label)).toList
  else (Value.mapping [(.text name, v)]).select (Path.spelling name steps) e

namespace Path

variable {name : Text} {steps : List Step}

theorem spelling_cons_name (name t : Text) (steps : List Step) :
    spelling name (.name t :: steps) = name ++ '.' :: spelling t steps := by
  simp [spelling, Step.texts, Step.text]

theorem splitAtChar_spelling (hname : Text.isIdentifier name = true) (hsteps : ∀ s ∈ steps, s.WellFormed)
    (hnames : steps.all Step.isName = true) :
    Text.splitAtChar '.' (spelling name steps) = name :: steps.map Step.label := by
  induction steps generalizing name with
  | nil =>
      have hpoint : '.' ∉ name := not_mem_of_isIdentifier hname (by decide)
      simp [spelling, Step.texts, Text.splitAtChar_of_not_mem hpoint]
  | cons s steps ih =>
      have hpoint : '.' ∉ name := not_mem_of_isIdentifier hname (by decide)
      rw [List.forall_mem_cons] at hsteps
      rw [List.all_cons, Bool.and_eq_true] at hnames
      cases s with
      | name t =>
          rw [spelling_cons_name, Text.splitAtChar_append, Text.splitAtChar_of_not_mem hpoint,
            ih hsteps.1 hsteps.2 hnames.2, List.singleton_append, List.map_cons, Step.label]
      | index t => exact absurd hnames.1 Bool.false_ne_true
      | key t => exact absurd hnames.1 Bool.false_ne_true

theorem getLast?_append_isBlank {a b : Text} (ha : ∀ d ∈ a.getLast?, Text.isBlank d = false)
    (hb : ∀ d ∈ b.getLast?, Text.isBlank d = false) : ∀ d ∈ (a ++ b).getLast?, Text.isBlank d = false := by
  intro d hd
  rw [List.getLast?_append, Option.mem_def, Option.or_eq_some_iff] at hd
  rcases hd with hd | ⟨-, hd⟩
  · exact hb d hd
  · exact ha d hd

theorem getLast?_identifier_isBlank {t : Text} (h : Text.isIdentifier t = true) :
    ∀ d ∈ t.getLast?, Text.isBlank d = false := fun _ hd =>
  Text.isBlank_of_identifierPart (Text.isIdentifierPart_of_mem h (List.mem_of_getLast? hd))

/-- No blank stands at the end of a step. -/
theorem Step.getLast?_isBlank {s : Step} (hs : s.WellFormed) : ∀ d ∈ s.text.getLast?, Text.isBlank d = false := by
  have hclosed : ∀ inner : Text, ∀ d ∈ (inner ++ [']']).getLast?, Text.isBlank d = false := by
    intro inner d hd
    obtain rfl : ']' = d := by simpa using hd
    decide
  cases s with
  | name t =>
      have hpoint : ∀ d ∈ ['.'].getLast?, Text.isBlank d = false := by
        intro d hd
        obtain rfl : '.' = d := by simpa using hd
        decide
      exact getLast?_append_isBlank hpoint (getLast?_identifier_isBlank hs)
  | index t => exact hclosed ('[' :: t)
  | key t =>
      have htext : (key t).text = '[' :: '\'' :: (t ++ ['\'']) ++ [']'] := by simp [text]
      rw [htext]
      exact hclosed _

/-- No blank stands at the end of a variable. -/
theorem getLast?_spelling_isBlank (hname : Text.isIdentifier name = true) (hsteps : ∀ s ∈ steps, s.WellFormed) :
    ∀ d ∈ (spelling name steps).getLast?, Text.isBlank d = false := by
  refine getLast?_append_isBlank (getLast?_identifier_isBlank hname) ?_
  induction steps with
  | nil => exact nofun
  | cons s steps ih =>
      rw [List.forall_mem_cons] at hsteps
      exact getLast?_append_isBlank (Step.getLast?_isBlank hsteps.1) (ih hsteps.2)

/-! ## Keys -/

/-- An identifier is a key that is written as it is meant. -/
theorem wellFormed_key {t : Text} (h : Text.isIdentifier t = true) : (Step.key t).WellFormed := by
  refine ⟨not_mem_of_isIdentifier h (by decide), not_mem_of_isIdentifier h (by decide), ?_⟩
  rintro rfl
  exact not_mem_of_isIdentifier h (c := '*') (by decide) List.mem_cons_self

end Path

namespace ScopeStack

open Liquid.Path

variable {e : PathEngine} {strict : Bool} {s : ScopeStack} {name : Text} {steps : List Step} {v : Value}

/-- Names with points between them, from the binding of the first one. -/
theorem dotted_spelling (hname : Text.isIdentifier name = true) (hsteps : ∀ s ∈ steps, s.WellFormed)
    (hnames : steps.all Step.isName = true) : s.dotted strict (spelling name steps) =
      reached strict (spelling name steps) (.ok ((s.lookup name).bind (·.descend? (steps.map Step.label))).toList) := by
  rw [dotted, splitAtChar_spelling hname hsteps hnames]
  cases h : (s.lookup name).bind (·.descend? (steps.map Step.label)) <;> simp [h] <;> rfl

theorem valueOf_eq_ite (hname : Text.isIdentifier name = true) (hsteps : ∀ s ∈ steps, s.WellFormed) :
    s.valueOf e strict (spelling name steps) =
      if steps.all Step.isName then s.dotted strict (spelling name steps)
      else s.bracketed e strict (spelling name steps) := by
  rw [valueOf, contains_bracket_spelling hname hsteps]
  cases steps.all Step.isName <;> rfl

theorem valueOf_of_lookup_eq_none (hname : Text.isIdentifier name = true) (hsteps : ∀ s ∈ steps, s.WellFormed)
    (hnone : s.lookup name = none) :
    s.valueOf e strict (spelling name steps) = undefined strict (spelling name steps) := by
  rw [valueOf_eq_ite hname hsteps]
  split
  · next hnames =>
      rw [dotted_spelling hname hsteps hnames, hnone]
      rfl
  · exact bracketed_of_lookup_eq_none (by rw [Bracket.root_spelling hname, hnone])

/-- **A variable is what its steps lead to from the innermost binding of its root**, and from nothing else. -/
theorem valueOf_spelling (he : e.GoesDownwards) (hname : Text.isIdentifier name = true)
    (hsteps : ∀ s ∈ steps, s.WellFormed) (hliteral : ∀ s ∈ steps, s.Literal) (hv : s.lookup name = some v) :
    s.valueOf e strict (spelling name steps) = reached strict (spelling name steps) (e.arrive name steps v) := by
  rw [valueOf_eq_ite hname hsteps, PathEngine.arrive]
  split
  · next hnames => rw [dotted_spelling hname hsteps hnames, hv, Option.bind_some]
  · have halone : (Value.mapping [(.text name, v)]).valueAt? name = some v := by
      simp [Value.valueAt?, Value.lookupText, Value.lookupKey, Value.found_text]
    have hhome : (s.home name).valueAt? name = some v := (s.valueAt?_home name).trans hv
    obtain ⟨below, hbelow⟩ := he hname hsteps
    rw [bracketed_spelling (List.forall_mem_cons.2 ⟨hname, hsteps⟩) hliteral hv, Value.select, Value.select,
      hbelow _ v halone, hbelow _ v hhome]

/-- **Keys in brackets** lead to their entry, one mapping inside the other. -/
theorem find_keys {keys : List Text} (he : e.SelectsEntries) (hname : Text.isIdentifier name = true)
    (hplain : isPlainName name = true) (hkeys : ∀ key ∈ keys, (Step.key key).WellFormed) (hv : s.lookup name = some v)
    (hmappings : v.MappingsAlong keys) :
    e.find ("$.".toList ++ spelling name (keys.map .key)) (s.home name) = .ok (v.entryAlong? keys).toList := by
  -- The engine is asked the path without its last key first, so the induction takes the keys from the end.
  induction keys using List.reverseRecOn with
  | nil =>
      rw [List.map_nil, spelling_nil]
      exact he.root hname hplain ((s.valueAt?_home name).trans hv)
  | append_singleton keys key ih =>
      rw [List.forall_mem_append, List.forall_mem_singleton] at hkeys
      obtain ⟨hbefore, hlast⟩ := hmappings.append
      have hfound := ih hkeys.1 hbefore
      have hsteps : ∀ s ∈ keys.map Step.key, s.WellFormed := List.forall_mem_map.2 hkeys.1
      rw [List.map_append, List.map_singleton, Value.entryAlong?_append]
      cases hentry : v.entryAlong? keys with
      | none =>
          rw [hentry] at hfound
          exact @PathEngine.SelectsEntries.key e he name key _ _ [] hname hsteps hkeys.2 hfound
      | some w =>
          obtain ⟨entries, rfl⟩ := hlast w hentry
          rw [hentry] at hfound
          have hkey := @PathEngine.SelectsEntries.key e he name key _ _ [entries] hname hsteps hkeys.2 hfound
          rw [hkey, List.filterMap_cons, List.filterMap_nil, Option.bind_some, Value.valueAt?]
          cases Value.lookupText key entries <;> rfl

end ScopeStack

namespace Context

open Liquid.Path

/-! ## Operands -/

theorem ofWord?_spelling {name : Text} {steps : List Step} (hne : steps ≠ []) :
    Value.ofWord? (spelling name steps) = none := by
  obtain ⟨s, rest, rfl⟩ := List.exists_cons_of_ne_nil hne
  cases s with
  | name t => exact ofWord?_eq_none (d := '.') (by decide) (by simp [spelling, Step.texts, Step.text])
  | index t => exact ofWord?_eq_none (d := '[') (by decide) (by simp [spelling, Step.texts, Step.text])
  | key t => exact ofWord?_eq_none (d := '[') (by decide) (by simp [spelling, Step.texts, Step.text])

/-- A variable is no literal, unless it is a root alone. -/
theorem resolve_spelling {c : Context} {name : Text} {steps : List Step} (hname : Text.isIdentifier name = true)
    (hplain : isPlainName name = true) (hword : steps = [] → Value.ofWord? name = none)
    (hsteps : ∀ s ∈ steps, s.WellFormed) : c.resolve (spelling name steps) = c.valueOf (spelling name steps) := by
  refine resolve_eq_valueOf hname hplain (getLast?_spelling_isBlank hname hsteps) ?_
  by_cases hne : steps = []
  · subst hne
    exact (congrArg Value.ofWord? (List.append_nil name)).trans (hword rfl)
  · exact ofWord?_spelling hne

section

variable {c : Context} {name : Text} {steps : List Step}

theorem resolve_of_lookup_eq_none (hname : Text.isIdentifier name = true) (hplain : isPlainName name = true)
    (hword : steps = [] → Value.ofWord? name = none) (hsteps : ∀ s ∈ steps, s.WellFormed)
    (hnone : c.scopes.lookup name = none) :
    c.resolve (spelling name steps) = ScopeStack.undefined c.config.isStrict (spelling name steps) := by
  rw [resolve_spelling hname hplain hword hsteps]
  exact ScopeStack.valueOf_of_lookup_eq_none hname hsteps hnone

/-- **Shadowing is total.**  An operand that is a root and steps has the same outcome in contexts with the same settings
and the same engine in which the innermost binding of the root is the same, or missing in both.  It is what the steps
lead to from this binding alone; where they lead nowhere it is undefined, whatever the outer scopes bind the root to. -/
theorem resolve_shadowed {d : Context} (hdownwards : c.engine.GoesDownwards) (hname : Text.isIdentifier name = true)
    (hplain : isPlainName name = true) (hword : steps = [] → Value.ofWord? name = none)
    (hsteps : ∀ s ∈ steps, s.WellFormed) (hliteral : ∀ s ∈ steps, s.Literal) (hconfig : c.config = d.config)
    (hengine : c.engine = d.engine) (hroot : c.scopes.lookup name = d.scopes.lookup name) :
    c.resolve (spelling name steps) = d.resolve (spelling name steps) ∧
    (c.scopes.lookup name = none →
      c.resolve (spelling name steps) = ScopeStack.undefined c.config.isStrict (spelling name steps)) ∧
    ∀ v, c.scopes.lookup name = some v → c.resolve (spelling name steps) =
      ScopeStack.reached c.config.isStrict (spelling name steps) (c.engine.arrive name steps v) := by
  have hreached : ∀ v, c.scopes.lookup name = some v → c.resolve (spelling name steps) =
      ScopeStack.reached c.config.isStrict (spelling name steps) (c.engine.arrive name steps v) := by
    intro v hv
    rw [resolve_spelling hname hplain hword hsteps]
    exact ScopeStack.valueOf_spelling hdownwards hname hsteps hliteral hv
  refine ⟨?_, resolve_of_lookup_eq_none hname hplain hword hsteps, hreached⟩
  cases hv : c.scopes.lookup name with
  | none =>
      rw [resolve_of_lookup_eq_none hname hplain hword hsteps hv, hconfig]
      exact (resolve_of_lookup_eq_none hname hplain hword hsteps (hroot.symm.trans hv)).symm
  | some v =>
      rw [hreached v hv, resolve_spelling hname hplain hword hsteps, hconfig, hengine]
      exact (ScopeStack.valueOf_spelling (hengine ▸ hdownwards) hname hsteps hliteral (hroot.symm.trans hv)).symm

/-- A key that is missing in the inner mapping `m` and stands in the outer one. -/
theorem resolve_shadowed_missing_key :
    let inner : Scope := [(['m'], .mapping [(.text ['a'], .int 1)])]
    let outer : Scope := [(['m'], .mapping [(.text ['b'], .int 2)]), (['x'], .int 3)]
    let c : Context := ⟨⟨inner, [outer]⟩, .standard ⟨2024, 2, 29, 0, 0, 0, 0, none⟩, { strictVariables := .bool true }⟩
    let d : Context := ⟨.single inner, .standard ⟨2024, 2, 29, 0, 0, 0, 0, none⟩, { strictVariables := .bool true }⟩
    c.resolve "m['b']".toList = d.resolve "m['b']".toList ∧
      c.resolve "m['b']".toList = .error (.undefined "m['b']".toList) := by
  intro inner outer c d
  have hsteps : ∀ s ∈ [Step.key ['b']], s.WellFormed := List.forall_mem_singleton.2 (by decide)
  have hword : [Step.key ['b']] = [] → Value.ofWord? ['m'] = none := fun h => absurd h (List.cons_ne_nil _ _)
  obtain ⟨hsame, -, -⟩ := @resolve_shadowed c ['m'] [.key ['b']] d PathEngine.goesDownwards_standard (by decide)
    (by decide) hword hsteps (List.forall_mem_singleton.2 (by decide)) rfl rfl rfl
  have hread : [Step.name ['m'], .key ['b']].mapM Step.selector? = some [.fields [['m']], .fields [['b']]] := by decide
  have hv : d.scopes.lookup ['m'] = some (.mapping [(.text ['a'], .int 1)]) := rfl
  have hmissing : d.resolve "m['b']".toList = .error (.undefined "m['b']".toList) := by
    refine (resolve_spelling (by decide) (by decide) hword hsteps).trans ?_
    have hliteral : ∀ s ∈ [Step.key ['b']], s.Literal := List.forall_mem_singleton.2 (by decide)
    refine (ScopeStack.bracketed_standard (by decide) hsteps hliteral hread hv).trans ?_
    have hentry : Value.lookupText ['b'] [(.text ['a'], .int 1)] = none := by
      simp [Value.lookupText, Value.lookupKey, Value.found_text]
    simp only [follow_cons, Step.enter, Value.valueAt?, hentry]
    rfl
  exact ⟨hsame, hsame.trans hmissing⟩

end

/-! ## Two notations of keys -/

section

variable {c : Context} {name : Text} {keys : List Text}

/-- **Keys behind points and keys in brackets** lead to the same entries.  If the keys are followed through mappings
only, both notations give the entry that the last key has, be it `nil`, or both are undefined. -/
theorem resolve_keys (hengine : c.engine.SelectsEntries) (hname : Text.isIdentifier name = true)
    (hplain : isPlainName name = true) (hne : keys ≠ []) (hkeys : ∀ key ∈ keys, Text.isIdentifier key = true)
    (hmappings : ∀ v, c.scopes.lookup name = some v → v.MappingsAlong keys) :
    let behindPoints := spelling name (keys.map .name)
    let inBrackets := spelling name (keys.map .key)
    match (c.scopes.lookup name).bind (·.entryAlong? keys) with
    | some w => c.resolve behindPoints = .ok w ∧ c.resolve inBrackets = .ok w
    | none => c.resolve behindPoints = ScopeStack.undefined c.config.isStrict behindPoints ∧
        c.resolve inBrackets = ScopeStack.undefined c.config.isStrict inBrackets := by
  intro behindPoints inBrackets
  have hpoints : c.resolve behindPoints = ScopeStack.reached c.config.isStrict behindPoints
      (.ok ((c.scopes.lookup name).bind (·.entryAlong? keys)).toList) := by
    have hsteps : ∀ s ∈ keys.map Step.name, s.WellFormed := List.forall_mem_map.2 hkeys
    have hnames : (keys.map Step.name).all Step.isName = true := by simp [Step.isName]
    have hlabels : (keys.map Step.name).map Step.label = keys := by simp [Step.label, Function.comp_def]
    rw [resolve_spelling hname hplain (fun h => absurd h (by simpa using hne)) hsteps, valueOf,
      ScopeStack.valueOf_eq_ite hname hsteps, if_pos hnames, ScopeStack.dotted_spelling hname hsteps hnames, hlabels]
    cases hv : c.scopes.lookup name with
    | none => rfl
    | some v => rw [Option.bind_some, Option.bind_some, Value.descend?_of_mappingsAlong (hmappings v hv)]
  have hbrackets : c.resolve inBrackets = ScopeStack.reached c.config.isStrict inBrackets
      (.ok ((c.scopes.lookup name).bind (·.entryAlong? keys)).toList) := by
    have hquoted : ∀ key ∈ keys, (Step.key key).WellFormed := fun key hkey => wellFormed_key (hkeys key hkey)
    have hsteps : ∀ s ∈ keys.map Step.key, s.WellFormed := List.forall_mem_map.2 hquoted
    have hword : keys.map Step.key = [] → Value.ofWord? name = none := fun h => absurd h (by simpa using hne)
    cases hv : c.scopes.lookup name with
    | none => exact resolve_of_lookup_eq_none hname hplain hword hsteps hv
    | some v =>
        have hliteral : ∀ s ∈ keys.map Step.key, s.Literal :=
          List.forall_mem_map.2 fun key hkey => not_mem_of_isIdentifier (hkeys key hkey) (by decide)
        have hbracket : (keys.map Step.key).all Step.isName ≠ true := by
          obtain ⟨key, rest, rfl⟩ := List.exists_cons_of_ne_nil hne
          simp [Step.isName]
        have hfound := ScopeStack.find_keys hengine hname hplain hquoted hv (hmappings v hv)
        rw [resolve_spelling hname hplain hword hsteps, valueOf, ScopeStack.valueOf_eq_ite hname hsteps,
          if_neg hbracket, ScopeStack.bracketed_spelling (List.forall_mem_cons.2 ⟨hname, hsteps⟩) hliteral hv,
          Value.select_eq_ok hfound]
        rfl
  cases hentry : (c.scopes.lookup name).bind (·.entryAlong? keys) with
  | none =>
      rw [hentry] at hpoints hbrackets
      exact ⟨hpoints, hbrackets⟩
  | some w =>
      rw [hentry] at hpoints hbrackets
      exact ⟨hpoints, hbrackets⟩

/-- A key of an inner mapping that is bound to `nil`, where undefined variables are errors. -/
theorem resolve_keys_nil :
    let m : Value := .mapping [(.text ['a'], .mapping [(.text ['b'], .nil)])]
    let c : Context := ⟨.single [(['m'], m)], .standard ⟨2024, 2, 29, 0, 0, 0, 0, none⟩,
      { strictVariables := .bool true }⟩
    m.MappingsAlong [['a'], ['b']] ∧ c.resolve "m.a.b".toList = .ok .nil ∧
      c.resolve "m['a']['b']".toList = .ok .nil := by
  intro m c
  have hinner : Value.lookupText ['a'] [(.text ['a'], .mapping [(.text ['b'], .nil)])] =
      some (.mapping [(.text ['b'], .nil)]) := by
    simp [Value.lookupText, Value.lookupKey, Value.found_text]
  have hlast : Value.lookupText ['b'] [(.text ['b'], .nil)] = some .nil := by
    simp [Value.lookupText, Value.lookupKey, Value.found_text]
  have hmappings : m.MappingsAlong [['a'], ['b']] := by
    refine ⟨_, rfl, by simp [hinner], fun w hw => ?_⟩
    obtain rfl := Option.some.inj (hinner.symm.trans hw)
    exact ⟨_, rfl, by simp [hlast], fun _ _ => trivial⟩
  have hentry : (c.scopes.lookup ['m']).bind (·.entryAlong? [['a'], ['b']]) = some .nil := by
    change m.entryAlong? [['a'], ['b']] = some .nil
    simp [m, Value.entryAlong?, Value.valueAt?, hinner, hlast]
  have hkeys : ∀ key ∈ [['a'], ['b']], Text.isIdentifier key = true := by decide
  have h := @resolve_keys c ['m'] [['a'], ['b']] PathEngine.selectsEntries_standard (by decide) (by decide) (by simp)
    hkeys fun v hv => by
      obtain rfl := Option.some.inj hv
      exact hmappings
  rw [hentry] at h
  exact ⟨hmappings, h⟩

end

end Context

end Liquid
