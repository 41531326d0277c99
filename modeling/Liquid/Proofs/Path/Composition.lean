import Liquid.Context
import Liquid.Filter.Standard
import Liquid.Proofs.Path.Navigation

/-!
# Paths with one more name

A variable with one more name behind it is a step from the value of the variable.  Without brackets it is any step;
behind a bracket only the entries of mappings are reached, because a path with brackets is followed as a whole.

## Main statements

* `ScopeStack.dotted_append` — one more name without brackets.
* `ScopeStack.bracketed_append` — one more name behind a bracket.
* `Context.valueOf_append_name` — both.
* `Context.valueOf_size_behind_bracket` — the size of an item of a list is not reached.
-/

namespace Liquid

namespace ScopeStack

open Liquid.Path

variable {s : ScopeStack} {name key : Text} {steps : List Step} {x : Value}

/-- **Without brackets one more name is a step**, where what is undefined is `nil`. -/
theorem dotted_append {path : Text} (hkey : '.' ∉ key) (hx : s.dotted false path = .ok x) :
    s.dotted false (path ++ '.' :: key) = .ok ((x.child? key).getD .nil) := by
  unfold dotted at hx ⊢
  rw [Text.splitAtChar_append, Text.splitAtChar_of_not_mem hkey]
  cases hpath : Text.splitAtChar '.' path with
  | nil => exact absurd hpath (Text.splitAtChar_ne_nil '.' path)
  | cons root keys =>
      rw [hpath] at hx
      have hdescend : (s.lookup root).bind (·.descend? (keys ++ [key])) =
          ((s.lookup root).bind (·.descend? keys)).bind (·.child? key) := by
        cases s.lookup root with
        | none => rfl
        | some v =>
            rw [Option.bind_some, Option.bind_some, Value.descend?_append]
            simp [Value.descend?]
      simp only [List.cons_append, hdescend]
      cases hv : (s.lookup root).bind (·.descend? keys) with
      | none =>
          simp only [hv, undefined, Bool.false_eq_true, if_false, Except.ok.injEq] at hx
          subst hx
          simp [undefined]
      | some v =>
          simp only [hv, Except.ok.injEq] at hx
          subst hx
          cases hchild : v.child? key <;> simp [hchild, undefined]

theorem spelling_append_name (name key : Text) (steps : List Step) :
    spelling name steps ++ '.' :: key = spelling name (steps ++ [.name key]) := by
  simp [spelling, Step.texts, Step.text]

theorem bracketed_eq_nil (e : PathEngine) (steps : List Step) (hname : Text.isIdentifier name = true)
    (hv : s.lookup name = none) : s.bracketed e false (spelling name steps) = .ok .nil := by
  rw [bracketed_of_lookup_eq_none]
  · rfl
  · rw [Bracket.root_spelling hname, hv]

theorem forall_mem_append_name {P : Step → Prop} (hsteps : ∀ s ∈ steps, P s) (hkey : P (.name key)) :
    ∀ s ∈ steps ++ [.name key], P s := by
  intro s hs
  rcases List.mem_append.1 hs with hs | hs
  · exact hsteps s hs
  · rw [List.mem_singleton.1 hs]
    exact hkey

/-- **Behind a bracket one more name is an entry of a mapping**, where what is undefined is `nil`. -/
theorem bracketed_append {e : PathEngine} {v : Value} (he : e.EntersMappings) (hname : Text.isIdentifier name = true)
    (hsteps : ∀ s ∈ steps, s.WellFormed) (hliteral : ∀ s ∈ steps, s.Literal) (hkey : Text.isIdentifier key = true)
    (hplain : isPlainName key = true) (hv : s.lookup name = some v)
    (hx : s.bracketed e false (spelling name steps) = .ok x) :
    s.bracketed e false (spelling name steps ++ '.' :: key) = .ok ((x.valueAt? key).getD .nil) := by
  have hwhole : ∀ s ∈ Step.name name :: steps, s.WellFormed := List.forall_mem_cons.2 ⟨hname, hsteps⟩
  have hwhole' := forall_mem_append_name hsteps (show (Step.name key).WellFormed from hkey)
  have hliteral' := forall_mem_append_name hliteral (show (Step.name key).Literal from trivial)
  rw [bracketed_spelling hwhole hliteral hv] at hx
  rw [spelling_append_name, bracketed_spelling (List.forall_mem_cons.2 ⟨hname, hwhole'⟩) hliteral' hv]
  cases hfind : e.find ("$.".toList ++ spelling name steps) (s.home name) with
  | error failure =>
      rw [Value.select, hfind] at hx
      cases hx
  | ok found =>
      have hsingle := he.single hname hsteps hfind
      rw [Value.select_eq_ok hfind] at hx
      rw [Value.select_eq_ok (he.name hname hsteps hkey hplain hfind)]
      rcases found with _ | ⟨w, _ | ⟨_, _⟩⟩
      · obtain rfl : Value.nil = x := Except.ok.inj hx
        rfl
      · obtain rfl : w = x := Except.ok.inj hx
        cases hentry : w.valueAt? key <;> simp [hentry] <;> rfl
      · simp at hsingle

end ScopeStack

namespace Path

theorem contains_bracket_spelling {name : Text} {steps : List Step} (hname : Text.isIdentifier name = true)
    (hsteps : ∀ s ∈ steps, s.WellFormed) : (spelling name steps).contains '[' = !steps.all Step.isName := by
  have hroot : name.contains '[' = false := by simpa using not_mem_of_isIdentifier hname (by decide)
  have htexts : (Step.texts steps).contains '[' = !steps.all Step.isName := by
    induction steps with
    | nil => rfl
    | cons s steps ih =>
        rw [List.forall_mem_cons] at hsteps
        rw [Step.texts_cons, List.contains_append, ih hsteps.2, List.all_cons, Bool.not_and]
        cases s with
        | name t =>
            have ht : '[' ∉ t := not_mem_of_isIdentifier hsteps.1 (by decide)
            simp [Step.text, Step.isName, ht]
        | index t => simp [Step.text, Step.isName]
        | key t => simp [Step.text, Step.isName]
  rw [spelling, List.contains_append, hroot, htexts, Bool.false_or]

end Path

namespace Context

open Liquid.Path

/-- **A variable with one more name behind it.**  If the variable is written without brackets, the name is a step into
its value, and what it does not lead to is `nil`.  If the variable has a bracket, a plain name leads to the entry of a
mapping or is `nil`. -/
theorem valueOf_append_name {c : Context} {name key : Text} {steps : List Step} {x : Value}
    (hengine : c.engine.EntersMappings) (hlax : c.config.isStrict = false) (hname : Text.isIdentifier name = true)
    (hsteps : ∀ s ∈ steps, s.WellFormed) (hliteral : ∀ s ∈ steps, s.Literal) (hkey : Text.isIdentifier key = true)
    (hx : c.valueOf (spelling name steps) = .ok x) :
    (steps.all Step.isName = true →
      c.valueOf (spelling name steps ++ '.' :: key) = .ok ((x.child? key).getD .nil)) ∧
    (steps.all Step.isName = false → isPlainName key = true →
      c.valueOf (spelling name steps ++ '.' :: key) = .ok ((x.valueAt? key).getD .nil)) := by
  have hpoint : '.' ∉ key := not_mem_of_isIdentifier hkey (by decide)
  have hbracket : '[' ∉ key := not_mem_of_isIdentifier hkey (by decide)
  have hcontains := contains_bracket_spelling hname hsteps
  have hcontainsKey : (spelling name steps ++ '.' :: key).contains '[' = !steps.all Step.isName := by
    rw [List.contains_append, hcontains]
    simp [hbracket]
  simp only [valueOf, ScopeStack.valueOf, hlax, hcontains, hcontainsKey] at hx ⊢
  cases hall : steps.all Step.isName with
  | true =>
      simp only [hall, Bool.not_true, Bool.false_eq_true, if_false] at hx ⊢
      exact ⟨fun _ => ScopeStack.dotted_append hpoint hx, fun h => absurd h (by decide)⟩
  | false =>
      simp only [hall, Bool.not_false, if_true] at hx ⊢
      refine ⟨fun h => absurd h (by decide), fun _ hplain => ?_⟩
      cases hv : c.scopes.lookup name with
      | none =>
          have hnil := ScopeStack.bracketed_eq_nil c.engine (steps ++ [Step.name key]) hname hv
          rw [ScopeStack.bracketed_eq_nil c.engine steps hname hv, Except.ok.injEq] at hx
          subst hx
          rw [ScopeStack.spelling_append_name, hnil]
          rfl
      | some v => exact ScopeStack.bracketed_append hengine hname hsteps hliteral hkey hplain hv hx

/-- An entry of a mapping in a list. -/
theorem valueOf_append_name_item :
    let item : Value := .mapping [(.text "name".toList, .int 7)]
    let c : Context := ⟨.single [("items".toList, .list [item])], .standard ⟨2024, 2, 29, 0, 0, 0, 0, none⟩, {}⟩
    c.config.isStrict = false ∧ c.valueOf "items[0]".toList = .ok item ∧
      c.valueOf "items[0].name".toList = .ok (.int 7) := by
  intro item c
  have hv : c.scopes.lookup "items".toList = some (.list [item]) := rfl
  have hread : [Step.name "items".toList, .index ['0']].mapM Step.selector? =
      some [.fields ["items".toList], .index [0]] := by decide
  have hitem : c.valueOf (spelling "items".toList [.index ['0']]) = .ok item :=
    (ScopeStack.bracketed_standard (by decide) (by decide) (by decide) hread hv).trans rfl
  have hkey : Text.isIdentifier "name".toList = true := by decide
  obtain ⟨-, hentry⟩ := valueOf_append_name (c := c) PathEngine.entersMappings_standard rfl (by decide) (by decide)
    (by decide) hkey hitem
  have hname : item.valueAt? "name".toList = some (.int 7) := by
    simp [item, Value.valueAt?, Value.lookupText, Value.lookupKey, Value.found_text]
  refine ⟨rfl, hitem, (hentry rfl (by decide)).trans ?_⟩
  rw [hname]
  rfl

/-- A list in a list: the value of `items[0]` has a size, which `items[0].size` does not reach. -/
theorem valueOf_size_behind_bracket :
    let items : Value := .list [.list [.int 1, .int 2]]
    let c : Context := ⟨.single [("items".toList, items)], .standard ⟨2024, 2, 29, 0, 0, 0, 0, none⟩, {}⟩
    c.config.isStrict = false ∧ c.valueOf "items[0]".toList = .ok (.list [.int 1, .int 2]) ∧
      (Value.list [.int 1, .int 2]).child? "size".toList = some (.int 2) ∧
      c.valueOf ("items[0]".toList ++ '.' :: "size".toList) ≠ .ok (.int 2) := by
  intro items c
  have hv : c.scopes.lookup "items".toList = some items := rfl
  have hitem : c.valueOf "items[0]".toList = .ok (.list [.int 1, .int 2]) := by
    have hread : [Step.name "items".toList, .index ['0']].mapM Step.selector? =
        some [.fields ["items".toList], .index [0]] := by decide
    exact (ScopeStack.bracketed_standard (by decide) (by decide) (by decide) hread hv).trans rfl
  have hsize : c.valueOf ("items[0]".toList ++ '.' :: "size".toList) = .ok .nil := by
    have hread : [Step.name "items".toList, .index ['0'], .name "size".toList].mapM Step.selector? =
        some [.fields ["items".toList], .index [0], .fields ["size".toList]] := by decide
    exact (ScopeStack.bracketed_standard (by decide) (by decide) (by decide) hread hv).trans rfl
  refine ⟨rfl, hitem, rfl, ?_⟩
  rw [hsize]
  simp

end Context

end Liquid
