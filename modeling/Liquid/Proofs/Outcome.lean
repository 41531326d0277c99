import Mathlib.Data.List.Forall2

/-!
# Outcomes

An operation that can fail, applied to all members of a list in order, has a result exactly when each member
has one.  An operation with a state passes on its result and its state, or its failure.

## Main definitions

* `Outcome.Avoids` — an operation that does not fail in certain ways.

## Main statements

* `Outcome.mapM_eq_ok_iff` — all results, member by member.
* `Outcome.exists_forall₂_iff` — members that each have a partner have a list of partners.
* `Outcome.forall_or_first_error` — success throughout, or a first failure.
* `Outcome.Avoids.bind`, `Outcome.Avoids.mapM` — failures that no part of an operation has are no failures of it.
* `Outcome.bind_apply_ok`, `Outcome.bind_apply_error`, `Outcome.fst_bind_apply` — an operation with a state
  followed by another one.
-/

namespace Liquid.Outcome

variable {ε α β : Type}

theorem bind_eq_ok_iff {x : Except ε α} {f : α → Except ε β} {b : β} :
    x >>= f = .ok b ↔ ∃ a, x = .ok a ∧ f a = .ok b := by
  cases x <;> simp [bind, Except.bind]

theorem bind_eq_error_iff {x : Except ε α} {f : α → Except ε β} {e : ε} :
    x >>= f = .error e ↔ x = .error e ∨ ∃ a, x = .ok a ∧ f a = .error e := by
  cases x <;> simp [bind, Except.bind]

theorem bind_pure_eq_error_iff {x : Except ε α} {f : α → β} {e : ε} :
    (do return f (← x)) = Except.error e ↔ x = .error e := by
  cases x <;> simp [bind, Except.bind, pure, Except.pure]

theorem exists_error_bind_pure_iff {x : Except ε α} {f : α → β} :
    (∃ e, (do return f (← x)) = Except.error e) ↔ ∃ e, x = .error e :=
  exists_congr fun _ => bind_pure_eq_error_iff

theorem map_eq_ok_iff {x : Except ε α} {f : α → β} {b : β} : x.map f = .ok b ↔ ∃ a, x = .ok a ∧ f a = b := by
  cases x <;> simp [Except.map]

theorem map_eq_error_iff {x : Except ε α} {f : α → β} {e : ε} : x.map f = .error e ↔ x = .error e := by
  cases x <;> simp [Except.map]

theorem eq_ok_of_toOption {x : Except ε α} {a : α} (h : x.toOption = some a) : x = .ok a := by
  cases x with
  | error e => simp [Except.toOption] at h
  | ok b =>
      rw [Except.toOption, Option.some.injEq] at h
      rw [h]

/-- Outcomes that agree after a map are the same failure, or results that the map makes the same. -/
theorem map_eq_map_iff {x y : Except ε α} {f : α → β} :
    x.map f = y.map f ↔ (∃ e, x = .error e ∧ y = .error e) ∨ ∃ a b, x = .ok a ∧ y = .ok b ∧ f a = f b := by
  cases x <;> cases y <;> simp [Except.map, eq_comm]

/-- An operation succeeds along a list exactly when it succeeds on each member. -/
theorem mapM_eq_ok_iff {f : α → Except ε β} {l : List α} {results : List β} :
    l.mapM f = .ok results ↔ List.Forall₂ (fun a b => f a = .ok b) l results := by
  induction l generalizing results with
  | nil => simp [pure, Except.pure, eq_comm]
  | cons a l ih =>
      rw [List.mapM_cons, bind_eq_ok_iff]
      constructor
      · rintro ⟨b, hb, h⟩
        obtain ⟨bs, hbs, h⟩ := bind_eq_ok_iff.1 h
        simp only [pure, Except.pure, Except.ok.injEq] at h
        subst h
        exact .cons hb (ih.1 hbs)
      · intro h
        obtain ⟨b, bs, hb, hbs, rfl⟩ := List.forall₂_cons_left_iff.1 h
        exact ⟨b, hb, bind_eq_ok_iff.2 ⟨bs, ih.2 hbs, rfl⟩⟩

/-- An operation that fails along a list fails on one of the members. -/
theorem exists_mem_of_mapM_eq_error {f : α → Except ε β} {l : List α} {e : ε} (h : l.mapM f = .error e) :
    ∃ a ∈ l, f a = .error e := by
  induction l with
  | nil => exact nomatch h
  | cons a l ih =>
      rw [List.mapM_cons, bind_eq_error_iff] at h
      rcases h with h | ⟨b, -, h⟩
      · exact ⟨a, List.mem_cons_self, h⟩
      · rcases bind_eq_error_iff.1 h with h | ⟨bs, -, h⟩
        · obtain ⟨a', ha', h⟩ := ih h
          exact ⟨a', List.mem_cons_of_mem a ha', h⟩
        · exact nomatch h

theorem forall₂_congr {R S : α → β → Prop} {l : List α} {l' : List β} (h : ∀ a ∈ l, ∀ b, R a b ↔ S a b) :
    List.Forall₂ R l l' ↔ List.Forall₂ S l l' := by
  induction l generalizing l' with
  | nil => simp
  | cons a l ih =>
      rw [List.forall_mem_cons] at h
      rw [List.forall₂_cons_left_iff, List.forall₂_cons_left_iff]
      simp only [h.1, ih h.2]

theorem exists_forall₂_iff {R : α → β → Prop} {l : List α} :
    (∃ partners, List.Forall₂ R l partners) ↔ ∀ a ∈ l, ∃ b, R a b := by
  induction l with
  | nil => simp
  | cons a l ih =>
      rw [List.forall_mem_cons, ← ih]
      constructor
      · rintro ⟨partners, h⟩
        obtain ⟨b, bs, hb, hbs, rfl⟩ := List.forall₂_cons_left_iff.1 h
        exact ⟨⟨b, hb⟩, bs, hbs⟩
      · rintro ⟨⟨b, hb⟩, bs, hbs⟩
        exact ⟨b :: bs, .cons hb hbs⟩

/-- Along a list an operation succeeds throughout, or there is a first member on which it fails. -/
theorem forall_or_first_error (f : α → Except ε β) (l : List α) :
    (∀ a ∈ l, ∃ b, f a = .ok b) ∨ ∃ before a after e, l = before ++ a :: after ∧
      (∀ a ∈ before, ∃ b, f a = .ok b) ∧ f a = .error e := by
  induction l with
  | nil => exact .inl (List.forall_mem_nil _)
  | cons a l ih =>
      cases ha : f a with
      | error e => exact .inr ⟨[], a, l, e, rfl, List.forall_mem_nil _, ha⟩
      | ok b =>
          rcases ih with hall | ⟨before, c, after, e, rfl, hbefore, hc⟩
          · exact .inl (List.forall_mem_cons.2 ⟨⟨b, ha⟩, hall⟩)
          · exact .inr ⟨a :: before, c, after, e, rfl, List.forall_mem_cons.2 ⟨⟨b, ha⟩, hbefore⟩, hc⟩

/-- What is a partner is the partner of some member. -/
theorem exists_mem_of_forall₂ {R : α → β → Prop} {l : List α} {l' : List β} (h : List.Forall₂ R l l') {b : β}
    (hb : b ∈ l') : ∃ a ∈ l, R a b := by
  induction h with
  | nil => exact nomatch hb
  | @cons a b' l l' hr _ ih =>
      rcases List.mem_cons.1 hb with rfl | hb
      · exact ⟨a, List.mem_cons_self, hr⟩
      · obtain ⟨a', ha', hr'⟩ := ih hb
        exact ⟨a', List.mem_cons_of_mem a ha', hr'⟩

/-! ## Failures that do not occur -/

section

variable {P : ε → Prop}

/-- An operation that does not fail in one of these ways. -/
def Avoids (P : ε → Prop) (x : Except ε α) : Prop := ∀ e, x = .error e → ¬ P e

theorem avoids_ok (a : α) : Avoids P (.ok a) := nofun

theorem avoids_error_iff {e : ε} : Avoids P (.error e : Except ε α) ↔ ¬ P e := by simp [Avoids]

theorem Avoids.bind {x : Except ε α} {f : α → Except ε β} (hx : Avoids P x) (hf : ∀ a, Avoids P (f a)) :
    Avoids P (x >>= f) := by
  intro e he
  rcases bind_eq_error_iff.1 he with he | ⟨a, -, he⟩
  · exact hx e he
  · exact hf a e he

theorem Avoids.map {x : Except ε α} (hx : Avoids P x) (f : α → β) : Avoids P (x.map f) :=
  fun e he => hx e (map_eq_error_iff.1 he)

theorem Avoids.mapM {f : α → Except ε β} {l : List α} (h : ∀ a ∈ l, Avoids P (f a)) : Avoids P (l.mapM f) := by
  intro e he
  obtain ⟨a, ha, he⟩ := exists_mem_of_mapM_eq_error he
  exact h a ha e he

end

/-! ## Operations that agree along a map -/

section

variable {γ δ : Type} {p : α → γ} {q : β → δ}

theorem map_bind_map {f : α → Except ε β} {g : γ → Except ε δ} (h : ∀ a, g (p a) = (f a).map q) (x : Except ε α) :
    x.map p >>= g = (x >>= f).map q := by
  cases x with
  | error e => rfl
  | ok a => exact h a

theorem bind_eq_map {f : α → Except ε β} {g : α → Except ε δ} (h : ∀ a, g a = (f a).map q) (x : Except ε α) :
    x >>= g = (x >>= f).map q := by
  cases x with
  | error e => rfl
  | ok a => exact h a

theorem mapM_map {f : α → Except ε β} {g : γ → Except ε δ} (h : ∀ a, g (p a) = (f a).map q) (l : List α) :
    (l.map p).mapM g = (l.mapM f).map (List.map q) := by
  induction l with
  | nil => rfl
  | cons a l ih =>
      rw [List.map_cons, List.mapM_cons, List.mapM_cons, h, ih]
      refine map_bind_map (fun b => ?_) (f a)
      refine map_bind_map (fun bs => ?_) (l.mapM f)
      rfl

theorem mapM_eq_map {f : α → Except ε β} {g : α → Except ε δ} (h : ∀ a, g a = (f a).map q) (l : List α) :
    l.mapM g = (l.mapM f).map (List.map q) := by
  have hmap := mapM_map (p := id) h l
  rwa [List.map_id] at hmap

theorem filterAuxM_map {test : α → Except ε Bool} {test' : γ → Except ε Bool} (h : ∀ a, test' (p a) = test a)
    (l kept : List α) :
    (l.map p).filterAuxM test' (kept.map p) = (l.filterAuxM test kept).map (List.map p) := by
  induction l generalizing kept with
  | nil => rfl
  | cons a l ih =>
      rw [List.map_cons, List.filterAuxM, List.filterAuxM, h]
      refine bind_eq_map (fun holds => ?_) (test a)
      cases holds with
      | false => exact ih kept
      | true => exact ih (a :: kept)

theorem filterM_map {test : α → Except ε Bool} {test' : γ → Except ε Bool} (h : ∀ a, test' (p a) = test a)
    (l : List α) : (l.map p).filterM test' = (l.filterM test).map (List.map p) := by
  have haux := filterAuxM_map h l []
  rw [List.map_nil] at haux
  rw [List.filterM, List.filterM, haux]
  refine map_bind_map (fun kept => ?_) (l.filterAuxM test [])
  exact congrArg Except.ok List.map_reverse.symm

end

section

variable {σ : Type} {x : ExceptT ε (StateM σ) α} {s s' : σ}

theorem bind_apply_ok {a : α} (h : x s = (.ok a, s')) (f : α → ExceptT ε (StateM σ) β) :
    (x >>= f) s = f a s' := by
  change StateT.bind x (ExceptT.bindCont f) s = _
  rw [StateT.bind, h]
  rfl

theorem bind_apply_error {e : ε} (h : x s = (.error e, s')) (f : α → ExceptT ε (StateM σ) β) :
    (x >>= f) s = (.error e, s') := by
  change StateT.bind x (ExceptT.bindCont f) s = _
  rw [StateT.bind, h]
  rfl

theorem bind_pure_apply (x : ExceptT ε (StateM σ) α) (f : α → β) (s : σ) :
    (x >>= fun a => pure (f a)) s = ((x s).1.map f, (x s).2) := by
  cases hr : x s with
  | mk outcome s' =>
      cases outcome with
      | error e => exact bind_apply_error hr _
      | ok a => exact bind_apply_ok hr _

/-- The outcomes of operations with a state follow those of operations without one, if each part does. -/
theorem fst_bind_apply {y : Except ε α} {f : α → ExceptT ε (StateM σ) β} {g : α → Except ε β} (hx : (x s).1 = y)
    (hf : ∀ a s', (f a s').1 = g a) : ((x >>= f) s).1 = y >>= g := by
  cases hr : x s with
  | mk outcome s' =>
      rw [hr] at hx
      subst hx
      cases outcome with
      | error e =>
          rw [bind_apply_error hr]
          rfl
      | ok a =>
          rw [bind_apply_ok hr]
          exact hf a s'

end

end Liquid.Outcome
