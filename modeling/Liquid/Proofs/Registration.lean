import Liquid.Filter.Standard
import Mathlib.Data.Char
import Mathlib.Data.List.Lex
import Mathlib.Data.List.Sort

/-!
# Registering filters

A registry is changed by calls, of which some are refused.  Whatever their order, the table of parameters has the
parameters that the filter under each name declares, and nothing else.  This is the invariant: it holds of the empty
registry, and each call keeps it.  So the parameters of a filter that was replaced are never applied, and what a
registry does under a name is decided by the last call that was accepted under it.

## Main definitions

* `Registry.Call` — a call that registers a filter, and `Registry.Call.Accepts`, with which filter it succeeds.
* `Registry.WellFormed` — the two tables are consistent.
* `Registry.Latest` — the filter that was registered last under a name.
* `Registry.invokeRecorded` — a call by name, and the filters that run for it.

## Main statements

* `Registry.Call.run_cases` — all that a call can do.
* `Registry.WellFormed.after` — consistency after any calls.
* `Registry.find?_after` — the filter under a name is the one that was registered last.
* `Registry.registry_after_calls` — names, invocations and refusals after any calls.
-/

namespace Liquid

namespace Text

/-! ## The order of texts -/

theorem precedes_eq_true_iff {s t : Text} : precedes s t = true ↔ s < t := by
  induction s generalizing t with
  | nil => cases t <;> simp [precedes]
  | cons a s ih =>
      cases t with
      | nil => simp [precedes]
      | cons b t =>
          rw [precedes, Bool.or_eq_true, decide_eq_true_eq, Bool.and_eq_true, beq_iff_eq, ih, List.cons_lt_cons_iff]
          rfl

theorem mem_sorted {t : Text} {ts : List Text} : t ∈ sorted ts ↔ t ∈ ts := List.mem_mergeSort

/-- Texts without repetition are sorted strictly. -/
theorem pairwise_sorted {ts : List Text} (h : ts.Nodup) : (sorted ts).Pairwise (· < ·) := by
  have hle : ∀ {s t : Text}, (!precedes t s) = true ↔ s ≤ t := by
    intro s t
    rw [Bool.not_eq_true', ← Bool.not_eq_true, precedes_eq_true_iff, not_lt]
  have hsorted : (sorted ts).Pairwise fun s t => (!precedes t s) = true := by
    apply List.pairwise_mergeSort
    · intro a b c hab hbc
      exact hle.2 (le_trans (hle.1 hab) (hle.1 hbc))
    · intro a b
      rw [Bool.or_eq_true, hle, hle]
      exact le_total a b
  have hnodup : (sorted ts).Nodup := (List.mergeSort_perm ts _).nodup_iff.2 h
  exact hsorted.imp₂ (fun s t hst hne => lt_of_le_of_ne (hle.1 hst) hne) hnodup

end Text

namespace Table

variable {α : Type} {table : Table α}

theorem mem_names_iff {name : Text} : name ∈ table.map Prod.fst ↔ ∃ a, table.lookup name = some a := by
  induction table with
  | nil => simp
  | cons e table ih =>
      obtain ⟨n, a⟩ := e
      rw [List.map_cons, List.mem_cons, lookup_cons, ih]
      by_cases h : name = n
      · simp [h]
      · simp [h]

theorem nodup_set {name : Text} (h : (table.map Prod.fst).Nodup) (a : α) :
    ((table.set name a).map Prod.fst).Nodup := by
  rw [set, List.map_cons, List.nodup_cons]
  constructor
  · rw [mem_names_iff, lookup_erase, if_pos rfl]
    simp
  · exact h.sublist (List.filter_sublist.map Prod.fst)

end Table

namespace Registry

/-! ## Calls -/

/-- A call that registers a filter; `none` stands for something that is no filter. -/
structure Call where
  name : Text
  candidate : Option Filter

namespace Call

/-- What a call answers, and the registry behind it. -/
def run (c : Call) (r : Registry) : Except Error Unit × Registry := registering c.name c.candidate r

/-- A call registers the filter `f`: its name is an identifier, and the piped value has a place among the parameters,
if there are any declared. -/
structure Accepts (c : Call) (f : Filter) : Prop where
  identifier : Text.isIdentifier c.name = true
  candidate : c.candidate = some f
  input : f.signature.all Signature.acceptsInput = true

/-- A call is accepted with some filter. -/
def Succeeds (c : Call) : Prop := ∃ f, c.Accepts f

theorem Accepts.unique {c : Call} {f g : Filter} (hf : c.Accepts f) (hg : c.Accepts g) : f = g := by
  have h := hf.candidate.symm.trans hg.candidate
  rwa [Option.some.injEq] at h

theorem run_of_accepts {c : Call} {f : Filter} (h : c.Accepts f) (r : Registry) :
    c.run r = (.ok (), r.put c.name f) := by
  obtain ⟨hidentifier, hcandidate, hinput⟩ := h
  unfold run registering
  rw [hcandidate, if_neg (by simp [hidentifier])]
  simp only [hinput, Bool.not_true, Bool.false_eq_true, if_false]
  cases hsignature : f.signature with
  | none =>
      rw [put, hsignature]
      rfl
  | some s =>
      rw [put, hsignature]
      rfl

theorem run_of_not_succeeds {c : Call} (h : ¬ c.Succeeds) (r : Registry) : ∃ e, c.run r = (.error e, r) := by
  unfold run registering
  by_cases hidentifier : Text.isIdentifier c.name = true
  · rw [if_neg (by simp [hidentifier])]
    cases hcandidate : c.candidate with
    | none => exact ⟨_, rfl⟩
    | some f =>
        by_cases hinput : f.signature.all Signature.acceptsInput = true
        · exact absurd ⟨f, hidentifier, hcandidate, hinput⟩ h
        · simp only [hinput, Bool.not_false, if_true]
          exact ⟨_, rfl⟩
  · rw [if_pos (by simpa using hidentifier)]
    exact ⟨_, rfl⟩

/-- **All that a call can do**: it is accepted and puts a filter into the registry, or it is refused and leaves the
registry as it is. -/
theorem run_cases (c : Call) (r : Registry) :
    (∃ f, c.Accepts f ∧ c.run r = (.ok (), r.put c.name f)) ∨ (¬ c.Succeeds ∧ ∃ e, c.run r = (.error e, r)) := by
  by_cases h : c.Succeeds
  · obtain ⟨f, hf⟩ := h
    exact .inl ⟨f, hf, run_of_accepts hf r⟩
  · exact .inr ⟨h, run_of_not_succeeds h r⟩

theorem run_eq_ok_iff {c : Call} {r : Registry} : (c.run r).1 = .ok () ↔ c.Succeeds := by
  rcases run_cases c r with ⟨f, hf, hrun⟩ | ⟨hrefused, e, hrun⟩
  · simp only [hrun, true_iff]
    exact ⟨f, hf⟩
  · simp [hrun, hrefused]

end Call

theorem register_eq_ok_iff {r r' : Registry} {name : Text} {candidate : Option Filter} :
    r.register name candidate = .ok r' ↔ ∃ f, (⟨name, candidate⟩ : Call).Accepts f ∧ r.put name f = r' := by
  change (((⟨name, candidate⟩ : Call).run r).1.map fun _ => ((⟨name, candidate⟩ : Call).run r).2) = .ok r' ↔ _
  rcases Call.run_cases ⟨name, candidate⟩ r with ⟨f, hf, hrun⟩ | ⟨hrefused, e, hrun⟩
  · rw [hrun]
    constructor
    · intro h
      exact ⟨f, hf, Except.ok.inj h⟩
    · rintro ⟨g, hg, hput⟩
      rw [hg.unique hf] at hput
      exact congrArg Except.ok hput
  · rw [hrun]
    constructor
    · intro h
      exact nomatch h
    · rintro ⟨f, hf, -⟩
      exact absurd ⟨f, hf⟩ hrefused

/-- The registry behind calls, refused ones included. -/
def after (r : Registry) (calls : List Call) : Registry := calls.foldl (fun r c => (c.run r).2) r

theorem after_cons (r : Registry) (c : Call) (calls : List Call) :
    r.after (c :: calls) = (c.run r).2.after calls := rfl

theorem after_append (r : Registry) (calls later : List Call) :
    r.after (calls ++ later) = (r.after calls).after later := List.foldl_append

/-! ## The two tables -/

/-- The two tables are consistent: no name is there twice, and the parameters under a name are those that its filter
declares. -/
structure WellFormed (r : Registry) : Prop where
  nodup : (r.filters.map Prod.fst).Nodup
  declared : ∀ name, r.signatures.lookup name = (r.find? name).bind Filter.signature

theorem wellFormed_empty : WellFormed empty := ⟨List.nodup_nil, fun _ => rfl⟩

/-- A filter is put into both tables, whatever was there under its name. -/
theorem WellFormed.put {r : Registry} (h : WellFormed r) (name : Text) (f : Filter) : WellFormed (r.put name f) := by
  refine ⟨Table.nodup_set h.nodup f, ?_⟩
  intro other
  rw [find?_put, Registry.put]
  cases hsignature : f.signature with
  | none =>
      simp only [Table.lookup_erase, h.declared other]
      split
      · exact hsignature.symm
      · rfl
  | some s =>
      simp only [Table.lookup_set, h.declared other]
      split
      · exact hsignature.symm
      · rfl

theorem WellFormed.run {r : Registry} (h : WellFormed r) (c : Call) : WellFormed (c.run r).2 := by
  rcases c.run_cases r with ⟨f, -, hrun⟩ | ⟨-, e, hrun⟩
  · rw [hrun]
    exact h.put c.name f
  · rw [hrun]
    exact h

theorem WellFormed.after {r : Registry} (h : WellFormed r) (calls : List Call) : WellFormed (r.after calls) := by
  induction calls generalizing r with
  | nil => exact h
  | cons c calls ih => exact ih (h.run c)

/-! ## The filter registered last -/

/-- No call registers a filter under a name. -/
def Untouched (calls : List Call) (name : Text) : Prop := ∀ c ∈ calls, c.name = name → ¬ c.Succeeds

/-- The last call that is accepted under a name registers `f`. -/
def LastAccepted (calls : List Call) (name : Text) (f : Filter) : Prop :=
  ∃ before c later, calls = before ++ c :: later ∧ c.name = name ∧ c.Accepts f ∧ Untouched later name

/-- The filter that was registered last under a name: by the last call that was accepted, or without one by what was
there to begin with. -/
def Latest (start : Table Filter) (calls : List Call) (name : Text) (f : Filter) : Prop :=
  LastAccepted calls name f ∨ Untouched calls name ∧ (name, f) ∈ start

theorem lastAccepted_cons_iff {c : Call} {calls : List Call} {name : Text} {f : Filter} :
    LastAccepted (c :: calls) name f ↔
      LastAccepted calls name f ∨ c.name = name ∧ c.Accepts f ∧ Untouched calls name := by
  constructor
  · rintro ⟨before, d, later, hcalls, hname, haccepts, huntouched⟩
    cases before with
    | nil =>
        rw [List.nil_append, List.cons.injEq] at hcalls
        obtain ⟨rfl, rfl⟩ := hcalls
        exact .inr ⟨hname, haccepts, huntouched⟩
    | cons b before =>
        rw [List.cons_append, List.cons.injEq] at hcalls
        exact .inl ⟨before, d, later, hcalls.2, hname, haccepts, huntouched⟩
  · rintro (⟨before, d, later, rfl, hrest⟩ | hc)
    · exact ⟨c :: before, d, later, rfl, hrest⟩
    · exact ⟨[], c, calls, rfl, hc⟩

theorem untouched_cons_iff {c : Call} {calls : List Call} {name : Text} :
    Untouched (c :: calls) name ↔ (c.name = name → ¬ c.Succeeds) ∧ Untouched calls name := List.forall_mem_cons

/-- **The filter under a name is the one that was registered last.** -/
theorem find?_after {r : Registry} {calls : List Call} {name : Text} {f : Filter} :
    (r.after calls).find? name = some f ↔
      LastAccepted calls name f ∨ Untouched calls name ∧ r.find? name = some f := by
  induction calls generalizing r with
  | nil =>
      have hnone : ¬ LastAccepted [] name f := by
        rintro ⟨before, c, later, hcalls, -⟩
        simp at hcalls
      simp [after, hnone, Untouched]
  | cons c calls ih =>
      rw [after_cons, ih, lastAccepted_cons_iff, untouched_cons_iff]
      rcases c.run_cases r with ⟨g, hg, hrun⟩ | ⟨hrefused, e, hrun⟩
      · have hsucceeds : c.Succeeds := ⟨g, hg⟩
        rw [hrun, find?_put]
        by_cases hname : c.name = name
        · have hfilter : some g = some f ↔ c.Accepts f := by
            rw [Option.some.injEq]
            exact ⟨fun h => h ▸ hg, hg.unique⟩
          rw [if_pos hname.symm, hfilter]
          simp [hname, hsucceeds, and_comm]
        · rw [if_neg (Ne.symm hname)]
          simp [hname]
      · have hnone : ¬ c.Accepts f := fun hf => hrefused ⟨f, hf⟩
        rw [hrun]
        simp [hnone, hrefused]

theorem untouched_iff {calls : List Call} {name : Text} :
    Untouched calls name ↔ ¬ ∃ c ∈ calls, c.name = name ∧ c.Succeeds := by
  simp only [Untouched, not_exists, not_and]

theorem exists_lastAccepted_iff {calls : List Call} {name : Text} :
    (∃ f, LastAccepted calls name f) ↔ ∃ c ∈ calls, c.name = name ∧ c.Succeeds := by
  induction calls with
  | nil => simp [LastAccepted]
  | cons c calls ih =>
      simp only [lastAccepted_cons_iff, exists_or, ih, List.exists_mem_cons_iff]
      by_cases hlater : ∃ c ∈ calls, c.name = name ∧ c.Succeeds
      · simp only [hlater, true_or, or_true]
      · simp only [untouched_iff.2 hlater, and_true, exists_and_left, hlater, false_or, or_false]
        rfl

theorem exists_latest_iff {start : Table Filter} {calls : List Call} {name : Text} :
    (∃ f, Latest start calls name f) ↔
      (∃ f, (name, f) ∈ start) ∨ ∃ c ∈ calls, c.name = name ∧ c.Succeeds := by
  simp only [Latest, exists_or, exists_and_left, exists_lastAccepted_iff, untouched_iff]
  by_cases h : ∃ c ∈ calls, c.name = name ∧ c.Succeeds
  · simp [h]
  · simp [h]

/-! ## Where calls begin -/

/-- The filters that are there to begin with: none, or the standard filters at a moment. -/
def defaults : Option (Moment × Almanac) → Table Filter
  | none => []
  | some (now, almanac) => Standard.filters now almanac

/-- The registry that is there to begin with. -/
def initial : Option (Moment × Almanac) → Registry
  | none => empty
  | some (now, almanac) => standard now almanac

/-- Names and parameters of the standard filters are the same at every moment and with every almanac. -/
theorem map_signature_filters (now now' : Moment) (almanac almanac' : Almanac) :
    (Standard.filters now almanac).map (fun e => (e.1, e.2.signature)) =
      (Standard.filters now' almanac').map fun e => (e.1, e.2.signature) := by
  simp only [Standard.filters, Standard.withDefault, List.map_cons, List.map_nil]

theorem accepts_standard {now : Moment} {almanac : Almanac} {e : Text × Filter}
    (h : e ∈ Standard.filters now almanac) : (⟨e.1, some e.2⟩ : Call).Accepts e.2 := by
  have hall : ∀ d ∈ (Standard.filters ⟨2024, 2, 29, 0, 0, 0, 0, none⟩ .standard).map fun e => (e.1, e.2.signature),
      Text.isIdentifier d.1 = true ∧ d.2.all Signature.acceptsInput = true := by decide +kernel
  rw [← map_signature_filters now _ almanac] at hall
  obtain ⟨hidentifier, hinput⟩ := hall _ (List.mem_map_of_mem h)
  exact ⟨hidentifier, rfl, hinput⟩

theorem nodup_standard (now : Moment) (almanac : Almanac) : ((Standard.filters now almanac).map Prod.fst).Nodup := by
  have hnodup : (((Standard.filters ⟨2024, 2, 29, 0, 0, 0, 0, none⟩ .standard).map fun e => (e.1, e.2.signature)).map
      Prod.fst).Nodup := by decide +kernel
  rw [← map_signature_filters now _ almanac, List.map_map] at hnodup
  exact hnodup

theorem after_of_accepts {filters : Table Filter} (h : ∀ e ∈ filters, (⟨e.1, some e.2⟩ : Call).Accepts e.2)
    (r : Registry) :
    r.after (filters.map fun e => ⟨e.1, some e.2⟩) = filters.foldl (fun r e => r.put e.1 e.2) r := by
  induction filters generalizing r with
  | nil => rfl
  | cons e filters ih =>
      rw [List.forall_mem_cons] at h
      rw [List.map_cons, after_cons, Call.run_of_accepts h.1, ih h.2, List.foldl_cons]

/-- The standard filters are registered one after another, and none is refused. -/
theorem standard_eq_after (now : Moment) (almanac : Almanac) :
    standard now almanac = empty.after ((Standard.filters now almanac).map fun e => ⟨e.1, some e.2⟩) :=
  (after_of_accepts (fun _ => accepts_standard) empty).symm

theorem wellFormed_initial (start : Option (Moment × Almanac)) : WellFormed (initial start) := by
  cases start with
  | none => exact wellFormed_empty
  | some start =>
      rw [initial, standard_eq_after]
      exact wellFormed_empty.after _

theorem find?_foldl_put {filters : Table Filter} (h : (filters.map Prod.fst).Nodup) {r : Registry} {name : Text}
    {f : Filter} :
    (filters.foldl (fun r e => r.put e.1 e.2) r).find? name = some f ↔
      (name, f) ∈ filters ∨ name ∉ filters.map Prod.fst ∧ r.find? name = some f := by
  induction filters generalizing r with
  | nil => simp
  | cons e filters ih =>
      obtain ⟨n, g⟩ := e
      rw [List.map_cons, List.nodup_cons] at h
      rw [List.foldl_cons, ih h.2, find?_put]
      by_cases hname : name = n
      · subst hname
        have hnot : (name, f) ∉ filters := fun hmem => h.1 (List.mem_map.2 ⟨(name, f), hmem, rfl⟩)
        simp [hnot, h.1, eq_comm]
      · simp [hname]

theorem find?_initial {start : Option (Moment × Almanac)} {name : Text} {f : Filter} :
    (initial start).find? name = some f ↔ (name, f) ∈ defaults start := by
  cases start with
  | none => simp [initial, defaults, empty, find?]
  | some start =>
      rw [initial, standard, find?_foldl_put (nodup_standard start.1 start.2), defaults]
      simp [empty, find?]

/-! ## What a registry does -/

/-- A run of a filter that is recorded. -/
def recordedRun (f : Filter) (v : Value) (args : List Value) :
    ExceptT Error (StateM (List (Filter × Value × List Value))) Value :=
  fun runs => (f.run v args, runs ++ [(f, v, args)])

/-- What a call by name answers, and the filters that run for it. -/
def invokeRecorded (r : Registry) (name : Text) (v : Value) (args : List Value) :
    Except Error Value × List (Filter × Value × List Value) :=
  r.invokeWith recordedRun name v args []

theorem get_eq_ok_iff {r : Registry} {name : Text} {f : Filter} : r.get name = .ok f ↔ r.find? name = some f := by
  unfold get
  cases r.find? name <;> simp

theorem mem_names_iff {r : Registry} {name : Text} : name ∈ r.names ↔ ∃ f, r.find? name = some f := by
  rw [names, Text.mem_sorted, Table.mem_names_iff]
  rfl

theorem contains_iff {r : Registry} {name : Text} : r.contains name = true ↔ ∃ f, r.find? name = some f :=
  Option.isSome_iff_exists

/-- Recording changes nothing about the answer. -/
theorem fst_invokeRecorded (r : Registry) (name : Text) (v : Value) (args : List Value) :
    (r.invokeRecorded name v args).1 = r.invoke name v args := by
  unfold invokeRecorded invoke invokeWith
  cases r.get name with
  | error e => rfl
  | ok f => cases r.mismatch? name args.length <;> rfl

/-- A call is checked against the parameters that the filter under its name declares. -/
theorem WellFormed.mismatch?_eq {r : Registry} (h : WellFormed r) {name : Text} {f : Filter}
    (hf : r.find? name = some f) (count : Nat) :
    r.mismatch? name count = f.signature.bind (·.mismatch? (count + 1)) := by
  rw [mismatch?, h.declared, hf]
  rfl

theorem WellFormed.invokeRecorded_eq {r : Registry} (h : WellFormed r) {name : Text} {f : Filter}
    (hf : r.get name = .ok f) (v : Value) (args : List Value) :
    r.invokeRecorded name v args =
      match f.signature.bind (·.mismatch? (args.length + 1)) with
      | some mismatch => (.error (.arguments name args.length mismatch), [])
      | none => (f.run v args, [(f, v, args)]) := by
  rw [← h.mismatch?_eq (get_eq_ok_iff.1 hf)]
  unfold invokeRecorded invokeWith
  rw [hf]
  cases r.mismatch? name args.length <;> rfl

/-- A refused call is as if it had not been made. -/
theorem after_refused {r : Registry} {c : Call} (hc : ¬ c.Succeeds) (before later : List Call) :
    r.after (before ++ c :: later) = r.after (before ++ later) := by
  obtain ⟨e, hrun⟩ := Call.run_of_not_succeeds hc (r.after before)
  rw [after_append, after_cons, hrun, after_append]

/-- **What a registry does after any calls.**  Its names are in order, and are those it began with and those of the
calls that succeed.  A name stands for the filter that was registered last; a call is checked against the parameters
that this filter declares, and when it does not fit, no filter runs.  A call that does not succeed leaves the registry
as it is. -/
theorem registry_after_calls (start : Option (Moment × Almanac)) (calls : List Call) :
    let r := (initial start).after calls
    (r.names.Pairwise (· < ·) ∧ ∀ name,
      (name ∈ r.names ↔ (∃ f, (name, f) ∈ defaults start) ∨ ∃ c ∈ calls, c.name = name ∧ c.Succeeds) ∧
      (r.contains name = true ↔ name ∈ r.names) ∧ ((∃ f, r.get name = .ok f) ↔ name ∈ r.names)) ∧
    (∀ name f, r.get name = .ok f → Latest (defaults start) calls name f ∧ ∀ v args,
      r.invoke name v args = (r.invokeRecorded name v args).1 ∧
      r.invokeRecorded name v args =
        match f.signature.bind (·.mismatch? (args.length + 1)) with
        | some mismatch => (.error (.arguments name args.length mismatch), [])
        | none => (f.run v args, [(f, v, args)])) ∧
    ∀ before c later, calls = before ++ c :: later → let s := (initial start).after before
      ((c.run s).1 = .ok () ↔ c.Succeeds) ∧
      ((c.run s).1 ≠ .ok () → (c.run s).2 = s ∧ r = (initial start).after (before ++ later)) := by
  intro r
  have hr : WellFormed r := (wellFormed_initial start).after calls
  have hlatest : ∀ {name f}, r.find? name = some f ↔ Latest (defaults start) calls name f := by
    intro name f
    rw [Latest, ← find?_initial]
    exact find?_after
  refine ⟨⟨Text.pairwise_sorted hr.nodup, ?_⟩, ?_, ?_⟩
  · intro name
    refine ⟨?_, ?_, ?_⟩
    · simp only [mem_names_iff, hlatest]
      exact exists_latest_iff
    · rw [contains_iff, mem_names_iff]
    · simp only [get_eq_ok_iff, mem_names_iff]
  · intro name f hf
    refine ⟨hlatest.1 (get_eq_ok_iff.1 hf), ?_⟩
    intro v args
    exact ⟨(fst_invokeRecorded r name v args).symm, hr.invokeRecorded_eq hf v args⟩
  · intro before c later hcalls s
    refine ⟨Call.run_eq_ok_iff, ?_⟩
    intro hrefused
    have hc : ¬ c.Succeeds := fun h => hrefused (Call.run_eq_ok_iff.2 h)
    obtain ⟨e, hrun⟩ := Call.run_of_not_succeeds hc s
    refine ⟨by rw [hrun], ?_⟩
    rw [← after_refused hc before later, ← hcalls]

/-- A filter that declares no parameters replaces one that declares a single one: calls with any arguments run. -/
theorem registry_after_calls_replaced :
    let first : Filter := ⟨some (Signature.ofNames 1 ["value"]), fun v _ => .ok v⟩
    let last : Filter := ⟨none, fun _ args => .ok (.list args)⟩
    let r := (initial none).after [⟨['f'], some first⟩, ⟨['f'], some last⟩, ⟨['f'], none⟩]
    r.get ['f'] = .ok last ∧
      r.invokeRecorded ['f'] .nil [.int 1, .int 2] =
        (.ok (.list [.int 1, .int 2]), [(last, .nil, [.int 1, .int 2])]) := by
  intro first last r
  have hget : r.get ['f'] = .ok last := by rfl
  obtain ⟨-, hinvoke, -⟩ := registry_after_calls none [⟨['f'], some first⟩, ⟨['f'], some last⟩, ⟨['f'], none⟩]
  exact ⟨hget, ((hinvoke ['f'] last hget).2 .nil [.int 1, .int 2]).2⟩

end Registry
end Liquid
