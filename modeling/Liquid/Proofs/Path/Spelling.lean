import Liquid.Proofs.Path.Reading
import Liquid.Variable

/-!
# Written variables

A variable with brackets is handed to an engine together with the mapping that the innermost scope with its root is.
Before that the names between brackets are replaced; a root and steps have none, so they are handed over as they are
written.  What the engine finds first is the value of the variable.

## Main definitions

* `ScopeStack.home` — the mapping that an engine starts from.
* `ScopeStack.reached` — the value of a variable, from what an engine finds.

## Main statements

* `Bracket.fragments_spelling` — a path without brackets around names is left as it is.
* `ScopeStack.bracketed_of_expanded` — what an engine is asked for a variable.
* `ScopeStack.bracketed_spelling` — what it is asked for a root and steps.
* `ScopeStack.select_key` — a quoted key behind a root.
-/

namespace Liquid

theorem Value.found_text (s t : Text) : found (.text s) (.text t) = (s == t) := by
  simp [found, isSame, equal]

namespace Scope

theorem valueAt?_toMapping (scope : Scope) (name : Text) : scope.toMapping.valueAt? name = scope.get? name := by
  induction scope with
  | nil => rfl
  | cons e rest ih =>
      obtain ⟨n, v⟩ := e
      rw [get?_cons, ← ih]
      simp only [toMapping, Value.valueAt?, Value.lookupText, Value.lookupKey, List.map_cons, List.find?_cons,
        Value.found_text]
      by_cases h : name = n
      · simp [h]
      · simp [h, beq_eq_false_iff_ne.2 h]

end Scope

/-! ## Brackets -/

namespace Path

theorem isBlank_eq_false {c : Char} (hlow : 33 ≤ c.toNat) (hhigh : c.toNat < 128) : Text.isBlank c = false := by
  simp only [Text.isBlank, Bool.or_eq_false_iff, Bool.and_eq_false_iff, decide_eq_false_iff_not, beq_eq_false_iff_ne]
  omega

theorem not_mem_of_isIdentifier {t : Text} {c : Char} (h : Text.isIdentifier t = true)
    (hc : Text.isIdentifierPart c = false) : c ∉ t := by
  intro hmem
  have hpart := Text.isIdentifierPart_of_mem h hmem
  simp [hc] at hpart

theorem numeral_parts {t : Text} (h : isNumeral t = true) : ∀ c ∈ t, c = '-' ∨ c.isDigit = true := by
  cases t with
  | nil => simp
  | cons d t =>
      intro c hc
      rw [isNumeral] at h
      split at h
      · next hd =>
          rw [Bool.and_eq_true, List.all_eq_true] at h
          rcases List.mem_cons.1 hc with rfl | hc
          · exact .inl hd
          · exact .inr (h.2 c hc)
      · rw [Bool.and_eq_true, List.all_eq_true] at h
        rcases List.mem_cons.1 hc with rfl | hc
        · exact .inr h.1
        · exact .inr (h.2 c hc)

end Path

namespace Bracket

variable {c : Char} {t rest : Text}

theorem nameAt?_eq_none (hblank : Text.isBlank c = false) (hstart : isNameStart c = false) :
    nameAt? (c :: rest) = none := by
  have hdrop : Text.dropBlanks (c :: rest) = c :: rest := by simp [Text.dropBlanks, hblank]
  simp [nameAt?, hdrop, hstart]

theorem fragments_append (h : '[' ∉ t) : fragments (t ++ rest) = t.map .character ++ fragments rest := by
  induction t with
  | nil => rfl
  | cons c t ih =>
      simp only [List.mem_cons, not_or] at h
      rw [List.cons_append, fragments_cons_of_ne (Ne.symm h.1), ih h.2]
      rfl

theorem fragments_bracket (h : nameAt? t = none) : fragments ('[' :: t) = .character '[' :: fragments t := by
  rw [fragments, if_pos rfl]
  split
  · next he => simp [h] at he
  · rfl

theorem fragments_name {name after : Text} (h : nameAt? t = some (name, after)) :
    fragments ('[' :: t) = .name name :: fragments after := by
  rw [fragments, if_pos rfl]
  split
  · next he =>
      rw [h, Option.some.injEq, Prod.mk.injEq] at he
      obtain ⟨rfl, rfl⟩ := he
      rfl
  · next he => simp [h] at he

theorem isNameStart_eq_false (h : Path.Symbol.isNameStart c = false) : isNameStart c = false := by
  simp only [Path.Symbol.isNameStart, Bool.or_eq_false_iff] at h
  simp [isNameStart, h.1.1, h.1.2]

open Liquid.Path in
/-- The bracket of a step is no bracket around a name. -/
theorem fragments_step {s : Step} (hs : s.WellFormed) (hliteral : s.Literal) :
    fragments (s.text ++ rest) = s.text.map .character ++ fragments rest := by
  cases s with
  | name t =>
      have ht : '[' ∉ t := not_mem_of_isIdentifier hs (by decide)
      exact fragments_append (by simp [Step.text, ht])
  | index t =>
      cases t with
      | nil => simp [Step.WellFormed, isNumeral] at hs
      | cons c t =>
          have hparts := numeral_parts hs
          have hname : nameAt? (c :: (t ++ [']'] ++ rest)) = none := by
            rcases hparts c (by simp) with rfl | hdigit
            · exact nameAt?_eq_none (by decide) (by decide)
            · have hrange := Text.toNat_of_isDigit hdigit
              have hstart := isNameStart_eq_false (Path.isNameStart_of_isDigit hdigit)
              exact nameAt?_eq_none (isBlank_eq_false (by omega) (by omega)) hstart
          have ht : '[' ∉ c :: (t ++ [']']) := by
            have hnumeral : '[' ∉ c :: t := fun hmem => absurd (hparts '[' hmem) (by decide)
            simpa using hnumeral
          rw [Step.text, List.cons_append, List.cons_append, List.cons_append, fragments_bracket hname,
            ← List.cons_append, fragments_append ht]
          rfl
  | key t =>
      have hname : nameAt? ('\'' :: (t ++ ['\'', ']'] ++ rest)) = none := nameAt?_eq_none (by decide) (by decide)
      have ht : '[' ∉ '\'' :: (t ++ ['\'', ']']) := by
        have hliteral : '[' ∉ t := hliteral
        simp [hliteral]
      rw [Step.text, List.cons_append, List.cons_append, fragments_bracket hname, ← List.cons_append,
        fragments_append ht]
      rfl

open Liquid.Path in
/-- **A path without brackets around names is left as it is.** -/
theorem fragments_spelling {name : Text} {steps : List Step} (hsteps : ∀ s ∈ Step.name name :: steps, s.WellFormed)
    (hliteral : ∀ s ∈ steps, s.Literal) :
    fragments (spelling name steps) = (spelling name steps).map .character := by
  rw [List.forall_mem_cons] at hsteps
  obtain ⟨hname, hsteps⟩ := hsteps
  have hroot : '[' ∉ name := not_mem_of_isIdentifier hname (by decide)
  rw [spelling, fragments_append hroot, List.map_append]
  congr 1
  induction steps with
  | nil => simp [Step.texts, fragments]
  | cons s steps ih =>
      rw [List.forall_mem_cons] at hsteps hliteral
      rw [Step.texts_cons, fragments_step hsteps.1 hliteral.1, ih hliteral.2 hsteps.2, List.map_append]

open Liquid.Path in
theorem root_append {name rest : Text} (hname : Text.isIdentifier name = true) (hrest : Stops rest) :
    root (name ++ rest) = name := by
  have hpoint : '.' ∉ name := not_mem_of_isIdentifier hname (by decide)
  have hbracket : '[' ∉ name := not_mem_of_isIdentifier hname (by decide)
  refine (Symbol.takeWhile_append_stop ?_ ?_).1
  · intro c hc
    have hne : c ≠ '.' ∧ c ≠ '[' := ⟨fun he => hpoint (he ▸ hc), fun he => hbracket (he ▸ hc)⟩
    simp [hne.1, hne.2]
  · intro c hc
    rcases hrest c hc with rfl | rfl <;> rfl

open Liquid.Path in
theorem root_spelling {name : Text} (hname : Text.isIdentifier name = true) (steps : List Step) :
    root (spelling name steps) = name := root_append hname (Step.stops_texts steps)

end Bracket

namespace ScopeStack

variable {strict : Bool} {s : ScopeStack} {name : Text}

/-- The innermost scope that has a name gives the name its value. -/
theorem scopeOf?_cases (s : ScopeStack) (name : Text) : (s.scopeOf? name = none ∧ s.lookup name = none) ∨
    ∃ scope v, s.scopeOf? name = some scope ∧ scope.get? name = some v ∧ s.lookup name = some v := by
  unfold scopeOf? lookup
  induction s.scopes with
  | nil => exact .inl ⟨rfl, rfl⟩
  | cons scope scopes ih =>
      cases hv : scope.get? name with
      | none => simpa [hv] using ih
      | some v => exact .inr ⟨scope, v, by simp [hv], hv, by simp [hv]⟩

theorem expand_characters (t : Text) : (t.map Bracket.Fragment.character).mapM (s.expand strict) =
    .ok (t.map fun c => [c]) := by
  induction t with
  | nil => rfl
  | cons c t ih =>
      rw [List.map_cons, List.mapM_cons, ih]
      rfl

theorem expanded_eq {path : Text} (h : Bracket.fragments path = path.map .character) :
    s.expanded strict path = .ok path := by
  rw [expanded, h, expand_characters]
  simp [Except.map, ← List.flatMap_def]

/-- The mapping that the innermost scope with a name is. -/
def home (s : ScopeStack) (name : Text) : Value := ((s.scopeOf? name).getD []).toMapping

/-- At home a name has its innermost value. -/
theorem valueAt?_home (s : ScopeStack) (name : Text) : (s.home name).valueAt? name = s.lookup name := by
  rw [home, Scope.valueAt?_toMapping]
  rcases scopeOf?_cases s name with ⟨hscope, hnone⟩ | ⟨scope, v, hscope, hget, hlookup⟩
  · rw [hscope, hnone]
    rfl
  · rw [hscope, hlookup]
    exact hget

/-- The value of a variable, from what an engine finds: the first value.  Without one the variable is undefined. -/
def reached (strict : Bool) (path : Text) (found : Except Error (List Value)) : Except Error Value := do
  match ← found with
  | [] => undefined strict path
  | v :: _ => return v

section Spelling

open Liquid.Path

variable {e : PathEngine} {steps : List Step} {v : Value}

theorem bracketed_of_lookup_eq_none {path : Text} (h : s.lookup (Bracket.root path) = none) :
    s.bracketed e strict path = undefined strict path := by
  rcases scopeOf?_cases s (Bracket.root path) with ⟨hscope, -⟩ | ⟨scope, v, -, -, hv⟩
  · rw [bracketed, hscope]
  · simp [hv] at h

/-- **A path with brackets whose names have been replaced** is asked of the engine, from the home of its root. -/
theorem bracketed_of_expanded {path written : Text} (hroot : Bracket.root path = name)
    (hexpanded : s.expanded strict path = .ok written) (hv : s.lookup name = some v) :
    s.bracketed e strict path = reached strict path ((s.home name).select written e) := by
  rcases scopeOf?_cases s name with ⟨-, hnone⟩ | ⟨scope, v', hscope, -, -⟩
  · simp [hnone] at hv
  · rw [bracketed, home, hroot, hscope]
    simp only [hexpanded, bind, Except.bind]
    rfl

/-- A root and steps are asked of the engine as they are written. -/
theorem bracketed_spelling (hsteps : ∀ s ∈ Step.name name :: steps, s.WellFormed) (hliteral : ∀ s ∈ steps, s.Literal)
    (hv : s.lookup name = some v) : s.bracketed e strict (spelling name steps) =
      reached strict (spelling name steps) ((s.home name).select (spelling name steps) e) :=
  bracketed_of_expanded (Bracket.root_spelling (hsteps (.name name) (by simp)) steps)
    (expanded_eq (Bracket.fragments_spelling hsteps hliteral)) hv

end Spelling

end ScopeStack

/-! ## What engines are relied on for -/

section Laws

open Liquid.Path

variable {e : PathEngine} {name key : Text} {entries : List (Value × Value)}

theorem Value.select_eq_ok {root : Value} {written : Text} {found : List Value}
    (h : e.find ("$.".toList ++ written) root = .ok found) : root.select written e = .ok found := by
  rw [select, h]
  rfl

/-- A quoted key behind a plain root selects the entry of the mapping that the root is. -/
theorem ScopeStack.select_key {s : ScopeStack} (he : e.SelectsEntries) (hname : Text.isIdentifier name = true)
    (hplain : isPlainName name = true) (hkey : (Step.key key).WellFormed)
    (hv : s.lookup name = some (.mapping entries)) :
    (s.home name).select (spelling name [.key key]) e = .ok (Value.lookupText key entries).toList := by
  have hroot : e.find ("$.".toList ++ spelling name []) (s.home name) = .ok ([entries].map .mapping) := by
    rw [spelling_nil]
    exact he.root hname hplain ((s.valueAt?_home name).trans hv)
  have hentry := he.key hname (List.forall_mem_nil _) hkey hroot
  rw [List.nil_append] at hentry
  rw [Value.select_eq_ok hentry, List.filterMap_cons, List.filterMap_nil]
  cases Value.lookupText key entries <;> rfl

end Laws

end Liquid
