import Liquid.Filter.Standard
import Liquid.Proofs.Outcome
import Liquid.Rendering
import Mathlib.Data.List.Infix

/-!
# Scopes that are entered and left

Scopes are entered and left one by one, or around a run of steps that ends as it may.  What a run does to the scopes is
told by the events in it: a scope is entered, a scope is left, a name is assigned.  A run that never leaves a scope it
did not enter, and in the end has left all that it entered, changes the innermost scope only, by the assignments that
are made in it, in order.  A failure on the way does not change this: it ends the steps around it up to where it is
caught, and the scopes that these steps entered as a block are left.

## Main definitions

* `ScopeStep` — what is done to the scopes of a context, with `ScopeStep.run`.
* `ScopeEvent` — what happens to the scopes in a run, with `ScopeStep.eventsAll`.
* `ScopeEvent.replay` — the scopes after events.
* `ScopeEvent.assignedAt` — the assignments that are made where there is a number of scopes.
* `Context.Moves` — the changes of a context that events tell of.

## Main statements

* `ScopeEvent.replay_above` — what events make of a scope that is never left, and of those below it.
* `ScopeStep.moves_run` — a run is made of the changes that its events tell of.
* `ScopeStep.run_scopes` — what a run leaves behind.
-/

namespace Liquid

/-! ## Events -/

/-- What happens to scopes. -/
inductive ScopeEvent
  | entered
  | left
  | assigned (name : Text) (v : Value)

/-- A scope with names assigned in order. -/
def Scope.assign (s : Scope) (entries : List (Text × Value)) : Scope := entries.foldl (fun s e => s.set e.1 e.2) s

namespace ScopeEvent

/-- Scopes, innermost first, after an event. -/
def apply : List Scope → ScopeEvent → List Scope
  | scopes, entered => [] :: scopes
  | scopes, left => scopes.tail
  | [], assigned _ _ => []
  | scope :: outer, assigned name v => scope.set name v :: outer

/-- Scopes after events. -/
def replay (scopes : List Scope) (events : List ScopeEvent) : List Scope := events.foldl apply scopes

/-- The assignments that events make where there are `depth` scopes. -/
def assignedAt (depth : Nat) : List Scope → List ScopeEvent → List (Text × Value)
  | _, [] => []
  | scopes, event :: events =>
    let later := assignedAt depth (apply scopes event) events
    match event with
    | assigned name v => if scopes.length = depth then (name, v) :: later else later
    | _ => later

/-- **A scope that is never left takes up the assignments that are made in it**, and nothing below it changes. -/
theorem replay_above {events : List ScopeEvent} {inner : List Scope} (scope : Scope) {outer : List Scope}
    (h : ∀ before, before <+: events → outer.length + 1 ≤ (replay (inner ++ scope :: outer) before).length) :
    ∃ inner', replay (inner ++ scope :: outer) events =
      inner' ++ scope.assign (assignedAt (outer.length + 1) (inner ++ scope :: outer) events) :: outer := by
  -- `inner` holds the scopes above it at the moment: an assignment is made in it when there are none.
  induction events generalizing inner scope with
  | nil => exact ⟨inner, rfl⟩
  | cons event events ih =>
      have hlater : ∀ before, before <+: events →
          outer.length + 1 ≤ (replay (apply (inner ++ scope :: outer) event) before).length :=
        fun before hbefore => h (event :: before) ((List.prefix_cons_inj event).2 hbefore)
      cases event with
      | entered => exact @ih ([] :: inner) scope hlater
      | left =>
          cases inner with
          | nil => exact absurd (hlater [] List.nil_prefix) (Nat.not_succ_le_self _)
          | cons top inner => exact @ih inner scope hlater
      | assigned name v =>
          cases inner with
          | nil =>
              have hdepth : ([] ++ scope :: outer).length = outer.length + 1 := rfl
              rw [assignedAt, if_pos hdepth]
              exact @ih [] (scope.set name v) hlater
          | cons top inner =>
              have hdepth : (top :: inner ++ scope :: outer).length ≠ outer.length + 1 := by
                rw [List.length_append, List.length_cons, List.length_cons]
                omega
              rw [assignedAt, if_neg hdepth]
              exact @ih (top.set name v :: inner) scope hlater

/-- Events that leave the scopes they enter, and no others, change the innermost scope only. -/
theorem replay_of_balanced {events : List ScopeEvent} {scope : Scope} {outer : List Scope}
    (h : ∀ before, before <+: events → outer.length + 1 ≤ (replay (scope :: outer) before).length)
    (hdepth : (replay (scope :: outer) events).length = outer.length + 1) :
    replay (scope :: outer) events =
      scope.assign (assignedAt (outer.length + 1) (scope :: outer) events) :: outer := by
  obtain ⟨inner, hreplay⟩ := @replay_above events [] scope outer h
  rw [List.nil_append] at hreplay
  have hinner : inner = [] := by
    rw [hreplay, List.length_append, List.length_cons] at hdepth
    exact List.length_eq_zero_iff.1 (by omega)
  rw [hreplay, hinner]
  rfl

end ScopeEvent

/-! ## Changes -/

namespace Context

open ScopeEvent

/-- A context becomes another by the changes that events tell of. -/
inductive Moves : Context → List ScopeEvent → Context → Prop
  | refl (c : Context) : Moves c [] c
  | entered {c d : Context} {events : List ScopeEvent} (h : Moves c.push events d) : Moves c (.entered :: events) d
  | left {c c' d : Context} {scope : Scope} {events : List ScopeEvent} (hpop : c.pop? = some (scope, c'))
      (h : Moves c' events d) : Moves c (.left :: events) d
  | assigned {c d : Context} {name : Text} {v : Value} {events : List ScopeEvent} (h : Moves (c.set name v) events d) :
      Moves c (.assigned name v :: events) d

theorem scopes_of_pop? {c d : Context} {scope : Scope} (h : c.pop? = some (scope, d)) :
    c.scopes.scopes = scope :: d.scopes.scopes ∧ d = { c with scopes := d.scopes } := by
  obtain ⟨⟨inner, _ | ⟨top, outer⟩⟩, filters, config⟩ := c
  · exact nomatch h
  · obtain ⟨rfl, rfl⟩ := Prod.mk.inj (Option.some.inj h)
    exact ⟨rfl, rfl⟩

namespace Moves

variable {c d e : Context} {events others : List ScopeEvent}

theorem trans (h : Moves c events d) (h' : Moves d others e) : Moves c (events ++ others) e := by
  induction h with
  | refl => exact h'
  | entered _ ih => exact .entered (ih h')
  | left hpop _ ih => exact .left hpop (ih h')
  | assigned _ ih => exact .assigned (ih h')

theorem of_append (h : Moves c (events ++ others) d) : ∃ e, Moves c events e := by
  induction events generalizing c with
  | nil => exact ⟨c, .refl c⟩
  | cons event events ih =>
      cases h with
      | entered h =>
          obtain ⟨e, he⟩ := ih h
          exact ⟨e, .entered he⟩
      | left hpop h =>
          obtain ⟨e, he⟩ := ih h
          exact ⟨e, .left hpop he⟩
      | assigned h =>
          obtain ⟨e, he⟩ := ih h
          exact ⟨e, .assigned he⟩

theorem scopes_eq_replay (h : Moves c events d) : d.scopes.scopes = replay c.scopes.scopes events := by
  induction h with
  | refl => rfl
  | entered _ ih => exact ih
  | left hpop _ ih =>
      rw [ih, (scopes_of_pop? hpop).1]
      rfl
  | assigned _ ih => exact ih

/-- Nothing but the scopes changes. -/
theorem eq_withScopes (h : Moves c events d) : d = { c with scopes := d.scopes } := by
  induction h with
  | refl => rfl
  | entered _ ih => exact ih
  | left hpop _ ih =>
      obtain ⟨-, hkept⟩ := scopes_of_pop? hpop
      refine ih.trans ?_
      rw [hkept]
  | assigned _ ih => exact ih

/-- There is a scope at every moment. -/
theorem replay_ne_nil (h : Moves c events d) {before : List ScopeEvent} (hbefore : before <+: events) :
    replay c.scopes.scopes before ≠ [] := by
  obtain ⟨others, rfl⟩ := hbefore
  obtain ⟨e, he⟩ := h.of_append
  rw [← he.scopes_eq_replay]
  exact List.cons_ne_nil _ _

/-- **Changes that leave the scopes they enter, and no others, change the innermost scope only.** -/
theorem eq_of_balanced (h : Moves c events d)
    (hbelow : ∀ before, before <+: events → c.scopes.depth ≤ (replay c.scopes.scopes before).length)
    (hdepth : d.scopes.depth = c.scopes.depth) :
    d = { c with scopes := ⟨c.scopes.inner.assign (assignedAt c.scopes.depth c.scopes.scopes events),
      c.scopes.outer⟩ } := by
  have hlength : (replay c.scopes.scopes events).length = c.scopes.depth := by
    rw [← h.scopes_eq_replay]
    exact hdepth
  have hscopes := h.scopes_eq_replay.trans (replay_of_balanced hbelow hlength)
  obtain ⟨hinner, houter⟩ := List.cons.inj hscopes
  rw [h.eq_withScopes]
  exact congrArg (fun scopes => { c with scopes }) (congrArg₂ ScopeStack.mk hinner houter)

end Moves
end Context

namespace Rendering

variable {c : Context}

theorem pop_eq_ok (h : c.scopes.depth ≠ 1) :
    pop c = (.ok c.scopes.inner, { c with scopes := c.scopes.dropInner }) := by
  obtain ⟨⟨inner, _ | ⟨top, outer⟩⟩, filters, config⟩ := c
  · exact absurd rfl h
  · rfl

theorem pop_eq_error_iff : pop c = (.error .outermostScope, c) ↔ c.scopes.depth = 1 := by
  constructor
  · intro h
    by_contra hdepth
    rw [pop_eq_ok hdepth] at h
    exact nomatch h
  · intro h
    have hpop : c.pop? = none := by
      rw [Context.pop?, ScopeStack.pop?_eq_none_iff.2 h]
      rfl
    rw [pop, hpop]

end Rendering

/-! ## Steps -/

/-- What is done to the scopes of a context. -/
inductive ScopeStep
  | push
  | pop
  | set (name : Text) (v : Value)
  /-- A lookup, which may fail. -/
  | read (look : Context → Except Error Value)
  /-- Steps in a scope of their own. -/
  | inScope (steps : List ScopeStep)
  /-- Steps whose failure is caught. -/
  | attempt (steps : List ScopeStep)

namespace ScopeStep

open Context ScopeEvent

mutual

/-- One step; it may fail. -/
def perform : ScopeStep → Rendering Unit
  | push => Rendering.push
  | pop => do
    let _ ← Rendering.pop
    return ()
  | set name v => Rendering.change (Context.set name v)
  | read look => do
    let _ ← Rendering.ofRead look
    return ()
  | inScope steps => Rendering.inScope (run steps)
  | attempt steps => fun c => (.ok (), (run steps c).2)

/-- Steps in order, up to the first that fails. -/
def run : List ScopeStep → Rendering Unit
  | [] => pure ()
  | step :: steps => do
    perform step
    run steps

end

/-- The innermost scope is left if there is another one. -/
def leaving (c : Context) : List ScopeEvent := if c.pop?.isSome then [.left] else []

mutual

/-- What happens to the scopes of a context in a step. -/
def events : ScopeStep → Context → List ScopeEvent
  | push, _ => [.entered]
  | pop, c => leaving c
  | set name v, _ => [.assigned name v]
  | read _, _ => []
  | inScope steps, c => .entered :: (eventsAll steps c.push ++ leaving (run steps c.push).2)
  | attempt steps, c => eventsAll steps c

/-- What happens to the scopes of a context in steps, up to the first that fails. -/
def eventsAll : List ScopeStep → Context → List ScopeEvent
  | [], _ => []
  | step :: steps, c =>
    events step c ++
      match perform step c with
      | (.ok (), d) => eventsAll steps d
      | (.error _, _) => []

end

theorem moves_leaving (c : Context) : Moves c (leaving c) (Rendering.pop c).2 := by
  unfold leaving Rendering.pop
  cases hpop : c.pop? with
  | none => exact .refl c
  | some popped => exact .left hpop (.refl popped.2)

/-- A scope of its own is left like any other. -/
theorem inScope_snd {α : Type} (act : Rendering α) (c : Context) :
    (Rendering.inScope act c).2 = (Rendering.pop (act c.push).2).2 := by
  simp only [Rendering.inScope, Rendering.pop]
  split <;> simp [*]

mutual

theorem moves_perform (step : ScopeStep) (c : Context) : Moves c (step.events c) (step.perform c).2 := by
  cases step with
  | push => exact .entered (.refl c.push)
  | pop =>
      rw [events, perform, Outcome.bind_pure_apply]
      exact moves_leaving c
  | set name v => exact .assigned (.refl (c.set name v))
  | read look =>
      rw [events, perform, Outcome.bind_pure_apply]
      exact .refl c
  | inScope steps =>
      rw [events, perform, inScope_snd]
      exact .entered ((moves_run steps c.push).trans (moves_leaving _))
  | attempt steps => exact moves_run steps c

/-- **A run is made of the changes that its events tell of**, whether it fails or not. -/
theorem moves_run (steps : List ScopeStep) (c : Context) : Moves c (eventsAll steps c) (run steps c).2 := by
  cases steps with
  | nil => exact .refl c
  | cons step steps =>
      have hstep := moves_perform step c
      rw [eventsAll, run]
      cases hr : step.perform c with
      | mk outcome d =>
          rw [hr] at hstep
          cases outcome with
          | error e =>
              -- The steps behind the one that fails are not performed.
              rw [Outcome.bind_apply_error hr]
              simpa using hstep
          | ok =>
              rw [Outcome.bind_apply_ok hr]
              exact hstep.trans (moves_run steps d)

end

/-- **What a run of steps does to the scopes**, whether it fails or not.  The scopes are those that its events make of
the scopes at first, and there is one at every moment.  If the run is never below the first scopes, and ends with as
many, then it changes the innermost one only, by the assignments that are made in it; what is assigned in others is
gone.  A scope cannot be left exactly where it is the only one, and then nothing changes. -/
theorem run_scopes (steps : List ScopeStep) (c : Context) :
    let events := eventsAll steps c
    let d := (run steps c).2
    d.scopes.scopes = replay c.scopes.scopes events ∧
    (∀ before, before <+: events → replay c.scopes.scopes before ≠ []) ∧
    ((∀ before, before <+: events → c.scopes.depth ≤ (replay c.scopes.scopes before).length) →
      d.scopes.depth = c.scopes.depth →
      d = { c with scopes := ⟨c.scopes.inner.assign (assignedAt c.scopes.depth c.scopes.scopes events),
        c.scopes.outer⟩ }) ∧
    (Rendering.pop c = (.error .outermostScope, c) ↔ c.scopes.depth = 1) ∧
    (c.scopes.depth ≠ 1 → Rendering.pop c = (.ok c.scopes.inner, { c with scopes := c.scopes.dropInner })) := by
  intro events d
  have hmoves : Moves c events d := moves_run steps c
  exact ⟨hmoves.scopes_eq_replay, fun before => hmoves.replay_ne_nil, hmoves.eq_of_balanced, Rendering.pop_eq_error_iff,
    Rendering.pop_eq_ok⟩

/-- A scope around a lookup that fails is left, and so is one that is entered and left step by step. -/
theorem run_scopes_failing_read :
    let outer : List Scope := [[(['y'], .int 2)]]
    let c : Context := ⟨⟨[(['x'], .int 1)], outer⟩, .standard ⟨2024, 2, 29, 0, 0, 0, 0, none⟩,
      { strictVariables := .bool true }⟩
    let steps : List ScopeStep :=
      [.set ['a'] (.int 3), .attempt [.inScope [.set ['x'] (.int 4), .read (·.resolve ['z']), .push]], .push,
        .set ['b'] .nil, .pop, .set ['x'] (.int 5)]
    (∀ before, before <+: eventsAll steps c → c.scopes.depth ≤ (replay c.scopes.scopes before).length) ∧
      (run steps c).2.scopes.depth = c.scopes.depth ∧
      (run steps c).2 = { c with scopes := ⟨[(['x'], .int 5), (['a'], .int 3)], outer⟩ } := by
  intro outer c steps
  have hbelow : ∀ before, before <+: eventsAll steps c →
      c.scopes.depth ≤ (replay c.scopes.scopes before).length := by
    intro before hbefore
    have hall : ∀ before ∈ (eventsAll steps c).inits, c.scopes.depth ≤ (replay c.scopes.scopes before).length := by
      decide +kernel
    exact hall before ((List.mem_inits _ _).2 hbefore)
  have hdepth : (run steps c).2.scopes.depth = c.scopes.depth := by decide +kernel
  refine ⟨hbelow, hdepth, ((run_scopes steps c).2.2.1 hbelow hdepth).trans ?_⟩
  with_unfolding_all rfl

end ScopeStep
end Liquid
