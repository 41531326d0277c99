import Liquid.Proofs.Path.Spelling

/-!
# The standard engine

A path of a root and steps leads to one place at most: each step takes the value that has been reached to one of its
entries or items, or nowhere.  So the engine that reads and selects by the paths of this library keeps all that is
relied on of engines.

## Main definitions

* `Value.itemAt?` — what a number in brackets leads to.
* `Path.follow` — what steps lead to, one after the other.

## Main statements

* `Path.Leads.along` — selecting by the selectors of steps is following the steps.
* `PathEngine.find_standard` — what the standard engine finds.
* `PathEngine.selectsEntries_standard`, `PathEngine.entersMappings_standard`, `PathEngine.goesDownwards_standard` — the
  laws.
* `ScopeStack.bracketed_standard` — the value of a variable with brackets.
-/

namespace Liquid

namespace Value

/-- The item at a position, if the value is not empty and reaches so far. -/
def itemAt? (v : Value) (i : Int) : Except Fault (Option Value) :=
  if v.isVacant then .ok none
  else do
    let length ← v.length?
    if i < (length : Int) then return some (← v.item? i) else return none

end Value

namespace Path

/-- What a step leads to from a value. -/
def Step.enter : Step → Value → Except Fault (Option Value)
  | name t, v | key t, v => .ok (v.valueAt? t)
  | index t, v => v.itemAt? ((Numeral.integer? t).getD 0)

/-- What steps lead to from a value, one after the other. -/
def follow : List Step → Value → Except Fault (Option Value)
  | [], v => .ok (some v)
  | s :: steps, v => do
    match ← s.enter v with
    | none => return none
    | some w => follow steps w

/-- What steps lead to from what other steps led to. -/
def followFrom (steps : List Step) : Option Value → Except Fault (Option Value)
  | none => .ok none
  | some v => follow steps v

theorem follow_cons (s : Step) (steps : List Step) (v : Value) :
    follow (s :: steps) v = s.enter v >>= followFrom steps := by
  rw [follow]
  cases s.enter v with
  | error e => rfl
  | ok o => cases o <;> rfl

theorem bind_followFrom_nil (outcome : Except Fault (Option Value)) : outcome >>= followFrom [] = outcome := by
  cases outcome with
  | error e => rfl
  | ok o => cases o <;> rfl

theorem follow_append (steps others : List Step) (v : Value) :
    follow (steps ++ others) v = follow steps v >>= followFrom others := by
  induction steps generalizing v with
  | nil => rfl
  | cons s steps ih =>
      rw [List.cons_append, follow_cons, follow_cons]
      cases s.enter v with
      | error e => rfl
      | ok o =>
          cases o with
          | none => rfl
          | some w => exact ih w

/-! ## Selecting by steps -/

/-- The places that were selected are the one place of a value, or none, or the selection failed. -/
inductive Leads : Except Fault (List Place) → Except Fault (Option Value) → Prop
  | failed (e : Fault) : Leads (.error e) (.error e)
  | nowhere : Leads (.ok []) (.ok none)
  | place (v : Value) (above : Place) : Leads (.ok [v :: above]) (.ok (some v))

theorem selectFields_single {t : Text} (ht : t ≠ ['*']) (v : Value) (above : Place) :
    selectFields [t] (v :: above) = .ok ((v.valueAt? t).toList.map (· :: v :: above)) := by
  have hstar : [t].contains ['*'] = false := by simpa using Ne.symm ht
  cases v with
  | mapping entries =>
      simp only [selectFields, Place.value, List.headD_cons, hstar, Bool.false_eq_true, if_false, Value.valueAt?]
      cases h : Value.lookupText t entries <;> simp [h]
  | _ => simp [selectFields, Place.value, Value.valueAt?, Ne.symm ht]

theorem selectIndices_single (n : Int) (v : Value) (above : Place) :
    selectIndices [n] (v :: above) = (v.itemAt? n).map fun o => o.toList.map (· :: v :: above) := by
  have hvalue : Place.value (v :: above) = v := rfl
  simp only [selectIndices, hvalue, Value.itemAt?, List.mapM_cons, List.mapM_nil]
  cases hv : v.isVacant with
  | true => rfl
  | false =>
      cases v.length? with
      | error e => rfl
      | ok length =>
          by_cases hn : n < (length : Int)
          · cases v.item? n with
            | error e => simp [bind, Except.bind, hn, Except.map]
            | ok w => simp [bind, Except.bind, hn, Except.map, pure, Except.pure]
          · simp [bind, Except.bind, hn, Except.map, pure, Except.pure]

/-- A selector of a step selects what the step leads to. -/
theorem select_step {s : Step} {selector : Path} (hs : s.WellFormed) (hselector : s.selector? = some selector)
    (v : Value) (above : Place) :
    select selector (v :: above) = (s.enter v).map fun o => o.toList.map (· :: v :: above) := by
  cases s with
  | name t =>
      have hstar : t ≠ ['*'] := by
        rintro rfl
        exact Bool.false_ne_true hs
      simp only [Step.selector?, Option.ite_none_right_eq_some, Option.some.injEq] at hselector
      obtain ⟨-, rfl⟩ := hselector
      exact selectFields_single hstar v above
  | key t =>
      obtain ⟨-, -, hstar⟩ := hs
      simp only [Step.selector?, Option.some.injEq] at hselector
      subst hselector
      exact selectFields_single hstar v above
  | index t =>
      obtain ⟨n, hn, rfl⟩ := Option.map_eq_some_iff.1 hselector
      rw [Step.enter, hn]
      exact selectIndices_single n v above

namespace Leads

variable {p : Path} {place : Place} {outcome : Except Fault (Option Value)}

theorem step {s : Step} {selector : Path} (h : Leads (p.select place) outcome) (hs : s.WellFormed)
    (hselector : s.selector? = some selector) :
    Leads ((p.child selector).select place) (outcome >>= followFrom [s]) := by
  rw [select]
  generalize p.select place = places at h
  cases h with
  | failed e => exact .failed e
  | nowhere => exact .nowhere
  | place v above =>
      have hfollow : (Except.ok (some v) >>= followFrom [s]) = s.enter v := by
        change follow [s] v = _
        rw [follow_cons, bind_followFrom_nil]
      rw [hfollow]
      simp only [bind, Except.bind, List.mapM_cons, List.mapM_nil, select_step hs hselector v above]
      cases s.enter v with
      | error e => exact .failed e
      | ok o =>
          cases o with
          | none => exact .nowhere
          | some w => exact .place w _

/-- **Selecting by the selectors of steps is following the steps.** -/
theorem along {steps : List Step} {selectors : List Path} (h : Leads (p.select place) outcome)
    (hsteps : ∀ s ∈ steps, s.WellFormed) (hselectors : steps.mapM Step.selector? = some selectors) :
    Leads ((p.along selectors).select place) (outcome >>= followFrom steps) := by
  induction steps generalizing p outcome selectors with
  | nil =>
      obtain rfl : [] = selectors := by simpa using hselectors
      rw [bind_followFrom_nil]
      exact h
  | cons s steps ih =>
      rw [List.forall_mem_cons] at hsteps
      simp only [List.mapM_cons, Option.bind_eq_bind, Option.pure_def, Option.bind_eq_some_iff,
        Option.some.injEq] at hselectors
      obtain ⟨selector, hselector, others, hothers, rfl⟩ := hselectors
      have hrest := ih (h.step hsteps.1 hselector) hsteps.2 hothers
      have hfollow : outcome >>= followFrom (s :: steps) = (outcome >>= followFrom [s]) >>= followFrom steps := by
        rcases outcome with e | o | v
        · rfl
        · rfl
        · exact follow_append [s] steps v
      rw [hfollow]
      exact hrest

theorem values_eq {root : Value} (h : Leads (p.select [root]) outcome) : p.values root = outcome.map Option.toList := by
  rw [values]
  generalize p.select [root] = places at h
  cases h <;> rfl

end Leads

/-- **The values that the selectors of steps lead to from a root** are what the steps lead to. -/
theorem values_along {steps : List Step} {selectors : List Path} (hsteps : ∀ s ∈ steps, s.WellFormed)
    (hselectors : steps.mapM Step.selector? = some selectors) (root : Value) :
    (Path.root.along selectors).values root = (follow steps root).map Option.toList := by
  have hroot : Leads (Path.root.select [root]) (.ok (some root)) := .place root []
  exact (hroot.along hsteps hselectors).values_eq

end Path

/-! ## The laws -/

namespace PathEngine

open Liquid.Path

variable {name : Text} {steps : List Step} {root : Value} {found : List Value}

/-- **What the standard engine finds** is what the steps lead to, if they can be read. -/
theorem find_standard {selectors : List Path} (hname : Text.isIdentifier name = true)
    (hsteps : ∀ s ∈ steps, s.WellFormed) (hselectors : (Step.name name :: steps).mapM Step.selector? = some selectors) :
    standard.find ("$.".toList ++ spelling name steps) root =
      ((follow (.name name :: steps) root).map Option.toList).mapError PathFailure.ofFault := by
  have hwhole : ∀ s ∈ Step.name name :: steps, s.WellFormed := List.forall_mem_cons.2 ⟨hname, hsteps⟩
  have hparse : Path.parse? ("$.".toList ++ spelling name steps) = .ok (Path.root.along selectors) :=
    parse?_steps hwhole hselectors
  simp only [find, hparse, values_along hwhole hselectors]

/-- A path of which one step cannot be read is refused, whatever the root is. -/
theorem find_standard_eq_error (hname : Text.isIdentifier name = true) (hsteps : ∀ s ∈ steps, s.WellFormed)
    (hselectors : (Step.name name :: steps).mapM Step.selector? = none) :
    ∃ e, ∀ root : Value, standard.find ("$.".toList ++ spelling name steps) root = .error e := by
  have hwhole : ∀ s ∈ Step.name name :: steps, s.WellFormed := List.forall_mem_cons.2 ⟨hname, hsteps⟩
  obtain ⟨e, he⟩ := parse?_steps_eq_error hwhole hselectors
  have hparse : Path.parse? ("$.".toList ++ spelling name steps) = .error e := he
  cases e with
  | malformed => exact ⟨_, fun root => by simp only [find, hparse]; rfl⟩
  | tooManyDigits => exact ⟨_, fun root => by simp only [find, hparse]; rfl⟩

/-- What is found is one value at most, to which the steps lead. -/
theorem exists_of_find_standard (hname : Text.isIdentifier name = true) (hsteps : ∀ s ∈ steps, s.WellFormed)
    (h : standard.find ("$.".toList ++ spelling name steps) root = .ok found) :
    ∃ selectors reached, (Step.name name :: steps).mapM Step.selector? = some selectors ∧
      follow (.name name :: steps) root = .ok reached ∧ found = reached.toList := by
  cases hselectors : (Step.name name :: steps).mapM Step.selector? with
  | none =>
      obtain ⟨e, he⟩ := find_standard_eq_error hname hsteps hselectors
      exact absurd ((he root).symm.trans h) nofun
  | some selectors =>
      rw [find_standard hname hsteps hselectors] at h
      cases hfollow : follow (.name name :: steps) root with
      | error e =>
          rw [hfollow] at h
          exact absurd h nofun
      | ok reached =>
          rw [hfollow] at h
          exact ⟨selectors, reached, rfl, rfl, (Except.ok.inj h).symm⟩

/-- One more step that can be read leads on from what has been found. -/
theorem find_standard_append {s : Step} {selector : Path} (hname : Text.isIdentifier name = true)
    (hsteps : ∀ s ∈ steps, s.WellFormed) (hs : s.WellFormed) (hselector : s.selector? = some selector)
    {entry : Value → Option Value} (henter : ∀ v, s.enter v = .ok (entry v))
    (h : standard.find ("$.".toList ++ spelling name steps) root = .ok found) :
    standard.find ("$.".toList ++ spelling name (steps ++ [s])) root = .ok (found.filterMap entry) := by
  obtain ⟨selectors, reached, hselectors, hfollow, rfl⟩ := exists_of_find_standard hname hsteps h
  have hwhole : ∀ s' ∈ steps ++ [s], s'.WellFormed := by
    intro s' hs'
    rcases List.mem_append.1 hs' with hs' | hs'
    · exact hsteps s' hs'
    · rwa [List.mem_singleton.1 hs']
  have hselectors' : (Step.name name :: (steps ++ [s])).mapM Step.selector? = some (selectors ++ [selector]) := by
    rw [← List.cons_append, List.mapM_append, hselectors]
    simp [hselector]
  have hfollow' : follow (.name name :: (steps ++ [s])) root = .ok (reached.bind entry) := by
    rw [← List.cons_append, follow_append, hfollow]
    cases reached with
    | none => rfl
    | some v =>
        change follow [s] v = _
        rw [follow_cons, bind_followFrom_nil, henter]
        rfl
  rw [find_standard hname hwhole hselectors', hfollow']
  cases reached with
  | none => rfl
  | some v => cases hv : entry v <;> simp [hv, Except.map, Except.mapError]

/-- **The standard engine selects entries.** -/
theorem selectsEntries_standard : standard.SelectsEntries where
  root := by
    intro name entries v hname hplain hv
    have hselectors : [Step.name name].mapM Step.selector? = some [.fields [name]] := by
      simp [Step.selector?, hplain]
    have hentry : (Value.mapping entries).valueAt? name = some v := hv
    rw [← spelling_nil name, find_standard hname (List.forall_mem_nil _) hselectors, follow_cons,
      bind_followFrom_nil, Step.enter, hentry]
    rfl
  key := by
    intro name key steps root mappings hname hsteps hkey h
    rw [find_standard_append hname hsteps hkey rfl (fun _ => rfl) h, List.filterMap_map]
    rfl

/-- **The standard engine enters mappings**, and finds one value at most. -/
theorem entersMappings_standard : standard.EntersMappings where
  single := by
    intro name steps root found hname hsteps h
    obtain ⟨-, reached, -, -, rfl⟩ := exists_of_find_standard hname hsteps h
    cases reached <;> simp
  name := by
    intro name key steps root found hname hsteps hkey hplain h
    have hs : (Step.name key).WellFormed := hkey
    exact find_standard_append hname hsteps hs (if_pos hplain) (fun _ => rfl) h

/-- **The standard engine goes downwards.** -/
theorem goesDownwards_standard : standard.GoesDownwards := by
  intro name steps hname hsteps
  cases hselectors : (Step.name name :: steps).mapM Step.selector? with
  | none =>
      obtain ⟨e, he⟩ := find_standard_eq_error hname hsteps hselectors
      exact ⟨fun _ => .error e, fun root _ _ => he root⟩
  | some selectors =>
      refine ⟨fun v => ((follow steps v).map Option.toList).mapError PathFailure.ofFault, fun root v hv => ?_⟩
      rw [find_standard hname hsteps hselectors, follow_cons, Step.enter, hv]
      rfl

end PathEngine

open Liquid.Path in
/-- With the standard engine the value of a variable that is written with brackets is what its steps lead to from the
value of its root. -/
theorem ScopeStack.bracketed_standard {strict : Bool} {s : ScopeStack} {name : Text} {steps : List Step}
    {selectors : List Path} {v : Value} (hname : Text.isIdentifier name = true) (hsteps : ∀ s ∈ steps, s.WellFormed)
    (hliteral : ∀ s ∈ steps, s.Literal) (hselectors : (Step.name name :: steps).mapM Step.selector? = some selectors)
    (hv : s.lookup name = some v) :
    s.bracketed .standard strict (spelling name steps) = reached strict (spelling name steps)
      (((follow steps v).map Option.toList).mapError fun f =>
        (PathFailure.ofFault f).error (spelling name steps)) := by
  rw [bracketed_spelling (List.forall_mem_cons.2 ⟨hname, hsteps⟩) hliteral hv, Value.select,
    PathEngine.find_standard hname hsteps hselectors, follow_cons, Step.enter, valueAt?_home, hv]
  change reached _ _ (((follow steps v).map Option.toList).mapError PathFailure.ofFault |>.mapError _) = _
  cases follow steps v <;> rfl

end Liquid
