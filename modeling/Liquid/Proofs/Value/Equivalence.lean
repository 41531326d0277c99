import Liquid.Proofs.Value.Laws
import Mathlib.Data.List.Forall2

/-!
# Equality of values as an equivalence

Inside a collection a value equals itself, and what equals a third is equal.  A value that is neither a collection nor
an object is told from others by a mark; lists and tuples are equal item by item, sets and mappings if each member is
found on the other side.  That this is the same from the other side needs that a set holds no member twice and a mapping
no key: then as many members as there are on one side are found on the other one, and none is left.  Objects take part
as far as they keep the laws of equality themselves.

## Main definitions

* `Value.mark?` — what a value that is neither a collection nor an object is told from others by.
* `Value.Hereditary` — what holds of collections if it holds of their members.
* `Value.isWellFormed` — sets without repeated members and mappings without repeated keys.

## Main statements

* `Value.found_trans` — equality inside a collection is transitive among lawful values.
* `Value.found_comm`, `Value.equal_comm` — equality of well-formed lawful values is symmetric.
* `Value.isWellFormed_distinct`, `Value.isWellFormed_ofEntries` — sets and mappings are built well-formed.
-/

namespace Liquid.Value

/-! ## Equality of collections, member by member -/

theorem equalItems_iff {xs ys : List Value} :
    equalItems xs ys = true ↔ List.Forall₂ (fun x y => found x y = true) xs ys := by
  induction xs generalizing ys with
  | nil => cases ys <;> simp [equalItems]
  | cons x xs ih =>
      cases ys with
      | nil => simp [equalItems]
      | cons y ys => rw [equalItems, Bool.and_eq_true, ih, List.forall₂_cons]; rfl

theorem allFoundIn_iff {xs ys : List Value} : allFoundIn xs ys = true ↔ ∀ x ∈ xs, ∃ y ∈ ys, found x y = true := by
  induction xs with
  | nil => simp [allFoundIn]
  | cons x xs ih => rw [allFoundIn, Bool.and_eq_true, ih, List.forall_mem_cons, List.any_eq_true]; rfl

theorem allEntriesIn_iff {es fs : List (Value × Value)} :
    allEntriesIn es fs = true ↔ ∀ e ∈ es, ∃ f ∈ fs, found e.1 f.1 = true ∧ found e.2 f.2 = true := by
  induction es with
  | nil => simp [allEntriesIn]
  | cons e es ih =>
      obtain ⟨k, v⟩ := e
      rw [allEntriesIn, Bool.and_eq_true, ih, List.forall_mem_cons, List.any_eq_true]
      simp only [Bool.and_eq_true]
      rfl

/-- What a value that is neither a collection nor an object is told from others by. -/
inductive Mark
  | nil
  | place (e : Extent)
  | undefined (tag : Nat)
  | text (t : Text)
  | range (bounds : Option (Int × Int))
  | moment (zoned : Bool) (instant : Int)
  | facet (f : Facet)

/-- The mark of a value, if it is neither a collection nor an object. -/
def mark? : Value → Option Mark
  | nil => some .nil
  | bool b => some (.place (.point (if b then 1 else 0)))
  | int n => some (.place (.point n))
  | double (.notANumber tag) => some (.undefined tag)
  | double (.infinite negative) => some (.place (if negative then .bottom else .top))
  | double (.finite negative m e) => some (.place (.point (Binary64.rational negative m e)))
  | text t => some (.text t)
  | range start stop => some (.range (if rangeSize start stop = 0 then none else some (start, stop)))
  | moment m => some (.moment m.zone.isSome m.instant)
  | facet f => some (.facet f)
  | list _ | tuple _ | set _ | frozenSet _ | mapping _ | object _ _ => none

theorem mark?_eq_place_iff {v : Value} {place : Extent} :
    v.mark? = some (.place place) ↔ v.extent? = some (some place) := by
  cases v with
  | double x => rcases x with _ | (_ | _) | _ <;> simp [mark?, extent?, Binary64.extent?]
  | _ => simp [mark?, extent?]

/-- A number equals the numbers at its place, and no other value but objects. -/
theorem equal_of_extent? {v w : Value} {place : Option Extent} (h : v.extent? = some place)
    (hw : w.isObject = false) : equal v w = w.extent?.any (equalExtents place) := by
  cases v with
  | bool | int | double =>
      rw [extent?, Option.some.injEq] at h
      rw [equal, h]
      cases w.extent? with
      | none => exact equalsLeft_of_not_isObject hw _
      | some q => rfl
  | _ => exact absurd h.symm (Option.some_ne_none place)

/-- Numbers are found at the same place. -/
theorem found_iff_of_place {v w : Value} {place : Extent} (h : v.extent? = some (some place))
    (hw : w.isObject = false) : found v w = true ↔ v.mark? = w.mark? := by
  have hsame : isSame v w = false := by
    cases v with
    | double x =>
        cases x with
        | notANumber tag => exact nomatch h
        | _ => rfl
    | object => exact nomatch h
    | _ => rfl
  rw [mark?_eq_place_iff.2 h, eq_comm (b := w.mark?), mark?_eq_place_iff, found, hsame, equal_of_extent? h hw,
    Bool.false_or]
  rcases w.extent? with _ | _ | place'
  · simp
  · simp [equalExtents]
  · simpa [equalExtents] using eq_comm

/-- What is not a number is found where it is itself. -/
theorem found_iff_of_notANumber {tag : Nat} {w : Value} (hw : w.isObject = false) :
    found (double (.notANumber tag)) w = true ↔ mark? (double (.notANumber tag)) = w.mark? := by
  have hextent : extent? (double (.notANumber tag)) = some none := rfl
  rw [found, equal_of_extent? hextent hw]
  cases w with
  | double x => rcases x with _ | _ | _ <;> simp [mark?, isSame, extent?, equalExtents]
  | _ => simp [mark?, isSame, extent?, equalExtents]

theorem equalRanges_iff {a b c d : Int} : equalRanges a b c d = true ↔
    (if rangeSize a b = 0 then none else some (a, b)) = if rangeSize c d = 0 then none else some (c, d) := by
  rw [equalRanges]
  simp only [Bool.or_eq_true, Bool.and_eq_true, beq_iff_eq]
  constructor
  · rintro (⟨ha, hc⟩ | ⟨rfl, rfl⟩)
    · rw [if_pos ha, if_pos hc]
    · rfl
  · intro h
    split at h <;> split at h <;> simp_all

namespace Lawful

variable {S : Value → Prop} {m n : Moment}

/-- A moment of a region is in a zone. -/
theorem isSome_zone_of_sameRegion (h : m.sameRegion n = true) : m.zone.isSome = true ∧ n.zone.isSome = true := by
  unfold Moment.sameRegion Moment.region? at h
  cases hm : m.zone <;> cases hn : n.zone <;> simp [hm, hn] at h ⊢

theorem sameRegion_comm (m n : Moment) : m.sameRegion n = n.sameRegion m := by
  unfold Moment.sameRegion
  cases m.region? <;> cases n.region? <;> simp [Bool.beq_comm]

/-- Lawful moments are the same if both or neither have a zone and they are the same instant. -/
theorem sameInstant_iff (h : Lawful S) (hm : S (moment m)) (hn : S (moment n)) :
    m.sameInstant n = true ↔ m.zone.isSome = n.zone.isSome ∧ m.instant = n.instant := by
  rw [Moment.sameInstant]
  cases hregion : m.sameRegion n with
  | true =>
      obtain ⟨hmzone, hnzone⟩ := isSome_zone_of_sameRegion hregion
      have hforth := h.clock hm hn hregion
      have hback := h.clock hn hm ((sameRegion_comm n m).trans hregion)
      rw [if_pos rfl, beq_iff_eq, hmzone, hnzone, eq_self, true_and]
      omega
  | false => simp [h.unambiguous hm, h.unambiguous hn]

end Lawful

/-- **A value that is neither a collection nor an object is found where its mark is.** -/
theorem found_iff_of_mark? {S : Value → Prop} (hS : Lawful S) {v w : Value} (h : v.mark? ≠ none) (hv : S v)
    (hw : S w) (hobject : w.isObject = false) : found v w = true ↔ v.mark? = w.mark? := by
  cases v with
  | bool | int => exact found_iff_of_place rfl hobject
  | double x =>
      cases hplace : x.extent? with
      | some place => exact found_iff_of_place (congrArg some hplace) hobject
      | none =>
          cases x with
          | notANumber tag => exact found_iff_of_notANumber hobject
          | infinite negative => cases negative <;> exact nomatch hplace
          | finite negative m e => exact nomatch hplace
  | moment m =>
      cases w with
      | moment n => simp [mark?, found, isSame, equal, hS.sameInstant_iff hv hw]
      | double x => rcases x with _ | _ | _ <;> simp [mark?, found, isSame, equal, equalsLeft]
      | object => exact Bool.noConfusion hobject
      | _ => simp [mark?, found, isSame, equal, equalsLeft]
  | nil | text s | range a b | facet f =>
      cases w with
      | double x => rcases x with _ | _ | _ <;> simp [mark?, found, isSame, equal, equalsLeft]
      | object => exact Bool.noConfusion hobject
      | _ => simp [mark?, found, isSame, equal, equalsLeft, equalRanges_iff]
  | _ => exact absurd rfl h

/-! ## Values that are collections -/

/-- The items of a list or a tuple, and which of the two it is. -/
def sequence? : Value → Option (Bool × List Value)
  | list xs => some (false, xs)
  | tuple xs => some (true, xs)
  | _ => none

/-- The members of a set of either kind. -/
def members? : Value → Option (List Value)
  | set xs | frozenSet xs => some xs
  | _ => none

theorem eq_of_sequence? {v : Value} {kind : Bool} {xs : List Value} (h : v.sequence? = some (kind, xs)) :
    v = if kind then tuple xs else list xs := by
  cases v with
  | list | tuple =>
      obtain ⟨rfl, rfl⟩ := Prod.mk.inj (Option.some.inj h)
      rfl
  | _ => exact absurd h.symm (Option.some_ne_none _)

theorem eq_of_members? {v : Value} {xs : List Value} (h : v.members? = some xs) : v = set xs ∨ v = frozenSet xs := by
  cases v with
  | set => exact .inl (congrArg set (Option.some.inj h))
  | frozenSet => exact .inr (congrArg frozenSet (Option.some.inj h))
  | _ => exact absurd h.symm (Option.some_ne_none xs)

theorem not_isObject_of_mark? {v : Value} (h : v.mark? ≠ none) : v.isObject = false := by
  cases v with
  | object => exact absurd rfl h
  | _ => rfl

theorem not_isObject_of_sequence? {v : Value} {kind : Bool} {xs : List Value} (h : v.sequence? = some (kind, xs)) :
    v.isObject = false := by
  obtain rfl := eq_of_sequence? h
  cases kind <;> rfl

theorem not_isObject_of_members? {v : Value} {xs : List Value} (h : v.members? = some xs) : v.isObject = false := by
  rcases eq_of_members? h with rfl | rfl <;> rfl

theorem found_iff_of_sequence? {v w : Value} {kind : Bool} {xs : List Value} (h : v.sequence? = some (kind, xs))
    (hobject : w.isObject = false) : found v w = true ↔
      ∃ ys, w.sequence? = some (kind, ys) ∧ List.Forall₂ (fun x y => found x y = true) xs ys := by
  obtain rfl := eq_of_sequence? h
  cases w with
  | object => exact Bool.noConfusion hobject
  | _ => cases kind <;> simp [sequence?, found, isSame, equal, equalsLeft, equalItems_iff]

theorem found_iff_of_members? {v w : Value} {xs : List Value} (h : v.members? = some xs)
    (hobject : w.isObject = false) : found v w = true ↔ ∃ ys, w.members? = some ys ∧ xs.length = ys.length ∧
      ∀ x ∈ xs, ∃ y ∈ ys, found x y = true := by
  cases w with
  | object => exact Bool.noConfusion hobject
  | _ => rcases eq_of_members? h with rfl | rfl <;> simp [members?, found, isSame, equal, equalsLeft, allFoundIn_iff]

theorem found_mapping_iff {w : Value} {es : List (Value × Value)} (hobject : w.isObject = false) :
    found (mapping es) w = true ↔ ∃ fs, w = mapping fs ∧ es.length = fs.length ∧
      ∀ e ∈ es, ∃ f ∈ fs, found e.1 f.1 = true ∧ found e.2 f.2 = true := by
  cases w with
  | object => exact Bool.noConfusion hobject
  | _ => simp [found, isSame, equal, equalsLeft, allEntriesIn_iff]

/-- What holds of every object and of every value that is no collection, and of every collection if it holds of its
members. -/
structure Hereditary (motive : Value → Prop) : Prop where
  object : ∀ v, v.isObject = true → motive v
  atom : ∀ v, v.mark? ≠ none → motive v
  sequence : ∀ v kind xs, v.sequence? = some (kind, xs) → (∀ x ∈ xs, motive x) → motive v
  members : ∀ v xs, v.members? = some xs → (∀ x ∈ xs, motive x) → motive v
  mapping : ∀ es, (∀ e ∈ es, motive e.1 ∧ motive e.2) → motive (.mapping es)

namespace Hereditary

variable {motive : Value → Prop}

mutual

/-- **What is hereditary holds of all values.** -/
theorem holds (h : Hereditary motive) (v : Value) : motive v := by
  cases v with
  | list xs => exact h.sequence _ _ xs rfl (h.forall_mem xs)
  | tuple xs => exact h.sequence _ _ xs rfl (h.forall_mem xs)
  | set xs | frozenSet xs => exact h.members _ xs rfl (h.forall_mem xs)
  | mapping es => exact h.mapping es (h.forall_entry es)
  | object => exact h.object _ rfl
  | double x => exact h.atom _ (by cases x <;> simp [mark?])
  | _ => exact h.atom _ (by simp [mark?])

theorem forall_mem (h : Hereditary motive) (xs : List Value) : ∀ x ∈ xs, motive x := by
  match xs with
  | [] => exact List.forall_mem_nil _
  | x :: xs => exact List.forall_mem_cons.2 ⟨h.holds x, h.forall_mem xs⟩

theorem forall_entry (h : Hereditary motive) (es : List (Value × Value)) : ∀ e ∈ es, motive e.1 ∧ motive e.2 := by
  match es with
  | [] => exact List.forall_mem_nil _
  | (k, v) :: es => exact List.forall_mem_cons.2 ⟨⟨h.holds k, h.holds v⟩, h.forall_entry es⟩

end

end Hereditary

/-! ## Parts of lawful values -/

namespace Lawful

variable {S : Value → Prop} {v : Value}

theorem of_sequence? (h : Lawful S) (hv : S v) {kind : Bool} {xs : List Value} (hxs : v.sequence? = some (kind, xs)) :
    ∀ x ∈ xs, S x := by
  obtain rfl := eq_of_sequence? hxs
  cases kind <;> exact h.parts hv

theorem of_members? (h : Lawful S) (hv : S v) {xs : List Value} (hxs : v.members? = some xs) : ∀ x ∈ xs, S x := by
  rcases eq_of_members? hxs with rfl | rfl <;> exact h.parts hv

theorem of_mapping (h : Lawful S) {es : List (Value × Value)} (hes : S (mapping es)) : ∀ e ∈ es, S e.1 ∧ S e.2 := by
  intro e he
  have hparts := h.parts hes
  rw [Value.parts, List.forall_mem_append, List.forall_mem_map, List.forall_mem_map] at hparts
  exact ⟨hparts.1 e he, hparts.2 e he⟩

end Lawful

section

variable {S : Value → Prop} (hS : Lawful S)

include hS

/-! ## Equality is transitive -/

/-- **Equality inside a collection is transitive** among lawful values. -/
theorem found_trans {u v w : Value} (hu : S u) (hv : S v) (hw : S w) :
    found u v = true → found v w = true → found u w = true := by
  suffices h : Hereditary fun u => S u → ∀ v w, S v → S w → found u v = true → found v w = true → found u w = true
    from h.holds u hu v w hv hw
  -- Where an object is among the three, transitivity is a law.
  have hobjects : ∀ u, (S u → ∀ v w, v.isObject = false → w.isObject = false → S v → S w → found u v = true →
      found v w = true → found u w = true) →
      S u → ∀ v w, S v → S w → found u v = true → found v w = true → found u w = true := by
    intro u h hu v w hv hw
    cases hvo : v.isObject with
    | true => exact hS.found_trans hu hv hw (.inr (.inl hvo))
    | false =>
        cases hwo : w.isObject with
        | true => exact hS.found_trans hu hv hw (.inr (.inr hwo))
        | false => exact h hu v w hvo hwo hv hw
  refine ⟨?object, fun u hmark => hobjects u ?atom, fun u kind xs hxs ih => hobjects u ?sequence,
    fun u xs hxs ih => hobjects u ?members, fun es ih => hobjects _ ?mapping⟩
  case object => exact fun u h hu v w hv hw => hS.found_trans hu hv hw (.inl h)
  case atom =>
    intro hu v w hvo hwo hv hw huv hvw
    rw [found_iff_of_mark? hS hmark hu hv hvo] at huv
    rw [found_iff_of_mark? hS hmark hu hw hwo]
    rw [huv] at hmark
    exact huv.trans ((found_iff_of_mark? hS hmark hv hw hwo).1 hvw)
  case sequence =>
    intro hu v w hvo hwo hv hw huv hvw
    obtain ⟨ys, hys, hxy⟩ := (found_iff_of_sequence? hxs hvo).1 huv
    obtain ⟨zs, hzs, hyz⟩ := (found_iff_of_sequence? hys hwo).1 hvw
    obtain ⟨hlength, hxy⟩ := List.forall₂_iff_get.1 hxy
    obtain ⟨hlength', hyz⟩ := List.forall₂_iff_get.1 hyz
    refine (found_iff_of_sequence? hxs hwo).2 ⟨zs, hzs, List.forall₂_iff_get.2 ⟨hlength.trans hlength', ?_⟩⟩
    intro i hx hz
    have hy : i < ys.length := hlength ▸ hx
    exact ih _ (List.get_mem xs ⟨i, hx⟩) (hS.of_sequence? hu hxs _ (List.get_mem xs _)) _ _
      (hS.of_sequence? hv hys _ (List.get_mem ys _)) (hS.of_sequence? hw hzs _ (List.get_mem zs _))
      (hxy i hx hy) (hyz i hy hz)
  case members =>
    intro hu v w hvo hwo hv hw huv hvw
    obtain ⟨ys, hys, hlength, hxy⟩ := (found_iff_of_members? hxs hvo).1 huv
    obtain ⟨zs, hzs, hlength', hyz⟩ := (found_iff_of_members? hys hwo).1 hvw
    refine (found_iff_of_members? hxs hwo).2 ⟨zs, hzs, hlength.trans hlength', fun x hx => ?_⟩
    obtain ⟨y, hy, hxy⟩ := hxy x hx
    obtain ⟨z, hz, hyz⟩ := hyz y hy
    exact ⟨z, hz, ih x hx (hS.of_members? hu hxs x hx) y z (hS.of_members? hv hys y hy) (hS.of_members? hw hzs z hz)
      hxy hyz⟩
  case mapping =>
    intro hes v w hvo hwo hv hw huv hvw
    obtain ⟨fs, rfl, hlength, hef⟩ := (found_mapping_iff hvo).1 huv
    obtain ⟨gs, rfl, hlength', hfg⟩ := (found_mapping_iff hwo).1 hvw
    refine (found_mapping_iff hwo).2 ⟨gs, rfl, hlength.trans hlength', fun e he => ?_⟩
    obtain ⟨f, hf, hkey, hvalue⟩ := hef e he
    obtain ⟨g, hg, hkey', hvalue'⟩ := hfg f hf
    have heS := hS.of_mapping hes e he
    have hfS := hS.of_mapping hv f hf
    have hgS := hS.of_mapping hw g hg
    exact ⟨g, hg, (ih e he).1 heS.1 _ _ hfS.1 hgS.1 hkey hkey', (ih e he).2 heS.2 _ _ hfS.2 hgS.2 hvalue hvalue'⟩

end

/-! ## Equality is symmetric -/

mutual

/-- Whether the members of all sets in a value are different, and the keys of all mappings in it. -/
def isWellFormed : Value → Bool
  | list xs | tuple xs => areWellFormed xs
  | set xs | frozenSet xs => decide (xs.Pairwise fun x y => found x y = false) && areWellFormed xs
  | mapping es => decide (es.Pairwise fun e f => found e.1 f.1 = false) && areWellFormedEntries es
  | _ => true

/-- Whether all of the values are well-formed. -/
def areWellFormed : List Value → Bool
  | [] => true
  | v :: vs => isWellFormed v && areWellFormed vs

/-- Whether the keys and the values of all entries are well-formed. -/
def areWellFormedEntries : List (Value × Value) → Bool
  | [] => true
  | (k, v) :: es => isWellFormed k && isWellFormed v && areWellFormedEntries es

end

theorem areWellFormed_iff {vs : List Value} : areWellFormed vs = true ↔ ∀ v ∈ vs, v.isWellFormed = true := by
  induction vs with
  | nil => simp [areWellFormed]
  | cons v vs ih => rw [areWellFormed, Bool.and_eq_true, ih, List.forall_mem_cons]

theorem areWellFormedEntries_iff {es : List (Value × Value)} :
    areWellFormedEntries es = true ↔ ∀ e ∈ es, e.1.isWellFormed = true ∧ e.2.isWellFormed = true := by
  induction es with
  | nil => simp [areWellFormedEntries]
  | cons e es ih =>
      obtain ⟨k, v⟩ := e
      rw [areWellFormedEntries, Bool.and_eq_true, Bool.and_eq_true, ih, List.forall_mem_cons]

theorem isWellFormed_of_sequence? {v : Value} {kind : Bool} {xs : List Value} (h : v.sequence? = some (kind, xs)) :
    v.isWellFormed = true ↔ ∀ x ∈ xs, x.isWellFormed = true := by
  obtain rfl := eq_of_sequence? h
  cases kind <;> exact areWellFormed_iff

theorem isWellFormed_of_members? {v : Value} {xs : List Value} (h : v.members? = some xs) :
    v.isWellFormed = true ↔ xs.Pairwise (fun x y => found x y = false) ∧ ∀ x ∈ xs, x.isWellFormed = true := by
  rcases eq_of_members? h with rfl | rfl <;>
    rw [isWellFormed, Bool.and_eq_true, decide_eq_true_eq, areWellFormed_iff]

theorem isWellFormed_mapping {es : List (Value × Value)} :
    (mapping es).isWellFormed = true ↔ es.Pairwise (fun e f => found e.1 f.1 = false) ∧
      ∀ e ∈ es, e.1.isWellFormed = true ∧ e.2.isWellFormed = true := by
  rw [isWellFormed, Bool.and_eq_true, decide_eq_true_eq, areWellFormedEntries_iff]

/-- If each of some things has a partner, no two have the same one, and there are not more partners than things, then
each partner is taken. -/
theorem exists_of_forall_exists {α β : Type} {R : α → β → Prop} {xs : List α} {ys : List β}
    (hpartner : ∀ x ∈ xs, ∃ y ∈ ys, R x y) (hapart : xs.Pairwise fun x x' => ∀ y ∈ ys, R x y → ¬ R x' y)
    (hlength : ys.length ≤ xs.length) : ∀ y ∈ ys, ∃ x ∈ xs, R x y := by
  induction xs generalizing ys with
  | nil =>
      obtain rfl := List.eq_nil_of_length_eq_zero (Nat.le_zero.1 hlength)
      exact List.forall_mem_nil _
  | cons x xs ih =>
      rw [List.forall_mem_cons] at hpartner
      rw [List.pairwise_cons] at hapart
      obtain ⟨⟨y, hy, hxy⟩, hpartner⟩ := hpartner
      obtain ⟨front, back, rfl⟩ := List.append_of_mem hy
      have hmem : ∀ z, z ∈ front ++ y :: back ↔ z = y ∨ z ∈ front ++ back := by
        intro z
        rw [List.perm_middle.mem_iff, List.mem_cons]
      -- The partner of the first is left out: it is none of the others.
      have hrest : ∀ z ∈ front ++ back, ∃ x' ∈ xs, R x' z := by
        refine ih (fun x' hx' => ?_) (hapart.2.imp fun h z hz => h z ((hmem z).2 (.inr hz))) ?_
        · obtain ⟨z, hz, hxz⟩ := hpartner x' hx'
          rcases (hmem z).1 hz with rfl | hz
          · exact absurd hxz (hapart.1 x' hx' _ hy hxy)
          · exact ⟨z, hz, hxz⟩
        · simp only [List.length_append, List.length_cons] at hlength ⊢
          omega
      intro z hz
      rcases (hmem z).1 hz with rfl | hz
      · exact ⟨x, List.mem_cons_self, hxy⟩
      · obtain ⟨x', hx', h⟩ := hrest z hz
        exact ⟨x', List.mem_cons_of_mem x hx', h⟩

theorem isSame_comm (v w : Value) : isSame v w = isSame w v := by
  cases v with
  | double x =>
      cases w with
      | double y => cases x <;> cases y <;> simp [isSame, Bool.beq_comm]
      | _ => simp [isSame]
  | object o _ =>
      cases w with
      | object p _ => simp [isSame, Bool.beq_comm]
      | _ => simp [isSame]
  | _ => cases w <;> simp [isSame]

/-- What is not a number equals nothing. -/
theorem equal_eq_found_and {v w : Value} (h : v.isObject = false) : equal v w = (found v w && !isSame v w) := by
  rw [found]
  cases hsame : isSame v w with
  | false => simp
  | true =>
      unfold isSame at hsame
      split at hsame
      · simp [equal, extent?, Binary64.extent?, equalExtents]
      · exact Bool.noConfusion h
      · exact Bool.noConfusion hsame

section

variable {S : Value → Prop} (hS : Lawful S)

include hS

/-- An object equals a value if the value equals the object. -/
theorem equal_comm_of_isObject {v w : Value} (hv : S v) (hw : S w) (h : v.isObject = true ∨ w.isObject = true) :
    equal v w = equal w v := by
  obtain ⟨o, as, rfl⟩ | ⟨hvo, p, bs, rfl⟩ := exists_object h
  · cases hwo : w.isObject with
    | true =>
        obtain ⟨p, bs, rfl⟩ := exists_of_isObject hwo
        rw [equal, equal]
        exact hS.equals_comm hv hw
    | false => rw [equal_object hwo, equal]
  · rw [equal_object hvo, equal]

/-- Equality inside a collection goes over from well-formed values to those that they equal. -/
theorem found_symm {v w : Value} (hv : S v) (hw : S w) (hvwf : v.isWellFormed = true) (hwwf : w.isWellFormed = true) :
    found v w = true → found w v = true := by
  suffices h : Hereditary fun v => S v → v.isWellFormed = true → ∀ w, S w → w.isWellFormed = true →
      found v w = true → found w v = true from h.holds v hv hvwf w hw hwwf
  have hobject : ∀ v w, S v → S w → v.isObject = true ∨ w.isObject = true → found v w = true → found w v = true := by
    intro v w hv hw h hvw
    rwa [found, isSame_comm, equal_comm_of_isObject hS hw hv h.symm]
  have hobjects : ∀ v, (S v → v.isWellFormed = true → ∀ w, w.isObject = false → S w → w.isWellFormed = true →
      found v w = true → found w v = true) →
      S v → v.isWellFormed = true → ∀ w, S w → w.isWellFormed = true → found v w = true → found w v = true := by
    intro v h hv hvwf w hw hwwf
    cases hwo : w.isObject with
    | true => exact hobject v w hv hw (.inr hwo)
    | false => exact h hv hvwf w hwo hw hwwf
  refine ⟨?object, fun v hmark => hobjects v ?atom, fun v kind xs hxs ih => hobjects v ?sequence,
    fun v xs hxs ih => hobjects v ?members, fun es ih => hobjects _ ?mapping⟩
  case object => exact fun v h hv _ w hw _ => hobject v w hv hw (.inl h)
  case atom =>
    intro hv _ w hwo hw _ hvw
    rw [found_iff_of_mark? hS hmark hv hw hwo] at hvw
    have hvo := not_isObject_of_mark? hmark
    rw [hvw] at hmark
    exact (found_iff_of_mark? hS hmark hw hv hvo).2 hvw.symm
  case sequence =>
    intro hv hvwf w hwo hw hwwf hvw
    obtain ⟨ys, hys, hxy⟩ := (found_iff_of_sequence? hxs hwo).1 hvw
    obtain ⟨hlength, hxy⟩ := List.forall₂_iff_get.1 hxy
    rw [isWellFormed_of_sequence? hxs] at hvwf
    rw [isWellFormed_of_sequence? hys] at hwwf
    have hvo := not_isObject_of_sequence? hxs
    refine (found_iff_of_sequence? hys hvo).2 ⟨xs, hxs, List.forall₂_iff_get.2 ⟨hlength.symm, fun i hy hx => ?_⟩⟩
    exact ih _ (List.get_mem xs ⟨i, hx⟩) (hS.of_sequence? hv hxs _ (List.get_mem xs _)) (hvwf _ (List.get_mem xs _)) _
      (hS.of_sequence? hw hys _ (List.get_mem ys _)) (hwwf _ (List.get_mem ys _)) (hxy i hx hy)
  case members =>
    intro hv hvwf w hwo hw hwwf hvw
    obtain ⟨ys, hys, hlength, hxy⟩ := (found_iff_of_members? hxs hwo).1 hvw
    obtain ⟨hapart, hxswf⟩ := (isWellFormed_of_members? hxs).1 hvwf
    obtain ⟨-, hyswf⟩ := (isWellFormed_of_members? hys).1 hwwf
    have hxsS := hS.of_members? hv hxs
    have hysS := hS.of_members? hw hys
    have hsymm : ∀ x ∈ xs, ∀ y ∈ ys, found x y = true → found y x = true :=
      fun x hx y hy => ih x hx (hxsS x hx) (hxswf x hx) y (hysS y hy) (hyswf y hy)
    have hpartners : xs.Pairwise fun x x' => ∀ y ∈ ys, found x y = true → ¬ found x' y = true := by
      refine hapart.imp_of_mem fun {x x'} hx hx' hne y hy hxy hxy' => ?_
      rw [found_trans hS (hxsS x hx) (hysS y hy) (hxsS x' hx') hxy (hsymm x' hx' y hy hxy')] at hne
      exact Bool.noConfusion hne
    refine (found_iff_of_members? hys (not_isObject_of_members? hxs)).2 ⟨xs, hxs, hlength.symm, fun y hy => ?_⟩
    obtain ⟨x, hx, h⟩ := exists_of_forall_exists hxy hpartners (Nat.le_of_eq hlength.symm) y hy
    exact ⟨x, hx, hsymm x hx y hy h⟩
  case mapping =>
    intro hes heswf w hwo hw hwwf hvw
    obtain ⟨fs, rfl, hlength, hef⟩ := (found_mapping_iff hwo).1 hvw
    obtain ⟨hapart, heswf⟩ := isWellFormed_mapping.1 heswf
    obtain ⟨-, hfswf⟩ := isWellFormed_mapping.1 hwwf
    have hesS := hS.of_mapping hes
    have hfsS := hS.of_mapping hw
    have hkey : ∀ e ∈ es, ∀ f ∈ fs, found e.1 f.1 = true → found f.1 e.1 = true :=
      fun e he f hf => (ih e he).1 (hesS e he).1 (heswf e he).1 f.1 (hfsS f hf).1 (hfswf f hf).1
    have hvalue : ∀ e ∈ es, ∀ f ∈ fs, found e.2 f.2 = true → found f.2 e.2 = true :=
      fun e he f hf => (ih e he).2 (hesS e he).2 (heswf e he).2 f.2 (hfsS f hf).2 (hfswf f hf).2
    have hpartners : es.Pairwise fun e e' => ∀ f ∈ fs, found e.1 f.1 = true ∧ found e.2 f.2 = true →
        ¬ (found e'.1 f.1 = true ∧ found e'.2 f.2 = true) := by
      refine hapart.imp_of_mem fun {e e'} he he' hne f hf hef hef' => ?_
      rw [found_trans hS (hesS e he).1 (hfsS f hf).1 (hesS e' he').1 hef.1 (hkey e' he' f hf hef'.1)] at hne
      exact Bool.noConfusion hne
    refine (found_mapping_iff rfl).2 ⟨es, rfl, hlength.symm, fun f hf => ?_⟩
    obtain ⟨e, he, hkeys, hvalues⟩ := exists_of_forall_exists hef hpartners (Nat.le_of_eq hlength.symm) f hf
    exact ⟨e, he, hkey e he f hf hkeys, hvalue e he f hf hvalues⟩

variable {v w : Value} (hv : S v) (hw : S w) (hvwf : v.isWellFormed = true) (hwwf : w.isWellFormed = true)

include hv hw hvwf hwwf

/-- **Equality inside a collection is symmetric** between well-formed lawful values. -/
theorem found_comm : found v w = found w v :=
  Bool.eq_iff_iff.2 ⟨found_symm hS hv hw hvwf hwwf, found_symm hS hw hv hwwf hvwf⟩

/-- **Equality is symmetric** between well-formed lawful values. -/
theorem equal_comm : equal v w = equal w v := by
  by_cases h : v.isObject = true ∨ w.isObject = true
  · exact equal_comm_of_isObject hS hv hw h
  · simp only [not_or, Bool.not_eq_true] at h
    rw [equal_eq_found_and h.1, found_comm hS hv hw hvwf hwwf, isSame_comm, ← equal_eq_found_and h.2]

end

/-! ## Values that are built -/

section

variable {S : Value → Prop} (hS : Lawful S)

include hS

/-- One more member keeps a set well-formed. -/
theorem isWellFormed_concat {kept : List Value} {v : Value} (hkept : (set kept).isWellFormed = true)
    (hkeptS : ∀ x ∈ kept, S x) (hv : v.isWellFormed = true) (hvS : S v) (hnone : kept.any (found v) = false) :
    (set (kept ++ [v])).isWellFormed = true := by
  obtain ⟨hapart, hmembers⟩ := (isWellFormed_of_members? rfl).1 hkept
  refine (isWellFormed_of_members? rfl).2 ⟨?_, ?_⟩
  · refine List.pairwise_append.2 ⟨hapart, List.pairwise_singleton _ _, fun x hx => List.forall_mem_singleton.2 ?_⟩
    rw [found_comm hS (hkeptS x hx) hvS (hmembers x hx) hv]
    simpa using List.any_eq_false.1 hnone x hx
  · exact List.forall_mem_append.2 ⟨hmembers, List.forall_mem_singleton.2 hv⟩

/-- **The members of a list, each once, are those of a well-formed set.** -/
theorem isWellFormed_distinct {items : List Value} (h : ∀ v ∈ items, S v ∧ v.isWellFormed = true) :
    (set (distinct items)).isWellFormed = true := by
  rw [distinct]
  refine (List.foldlRecOn items _ (motive := fun kept => (set kept).isWellFormed = true ∧ ∀ x ∈ kept, S x)
    ⟨rfl, List.forall_mem_nil _⟩ fun kept hkept v hv => ?_).1
  split
  · exact hkept
  · next hnone =>
      exact ⟨isWellFormed_concat hS hkept.1 hkept.2 (h v hv).2 (h v hv).1 (by simpa using hnone),
        List.forall_mem_append.2 ⟨hkept.2, List.forall_mem_singleton.2 (h v hv).1⟩⟩

/-- An entry with a key and a value keeps a mapping well-formed. -/
theorem isWellFormed_insertEntry {entries : List (Value × Value)} {key value : Value}
    (hentries : (mapping entries).isWellFormed = true) (hentriesS : ∀ e ∈ entries, S e.1)
    (hkey : key.isWellFormed = true) (hkeyS : S key) (hvalue : value.isWellFormed = true) :
    (mapping (insertEntry entries key value)).isWellFormed = true ∧ ∀ e ∈ insertEntry entries key value, S e.1 := by
  obtain ⟨hapart, hparts⟩ := isWellFormed_mapping.1 hentries
  rw [insertEntry, isWellFormed_mapping]
  split
  · have hfirst : ∀ e : Value × Value, (if found key e.1 = true then (e.1, value) else e).1 = e.1 := by
      intro e
      split <;> rfl
    refine ⟨⟨?_, List.forall_mem_map.2 fun e he => ?_⟩, List.forall_mem_map.2 fun e he => ?_⟩
    · rw [List.pairwise_map]
      simpa only [hfirst] using hapart
    · split
      · exact ⟨(hparts e he).1, hvalue⟩
      · exact hparts e he
    · rw [hfirst]
      exact hentriesS e he
  · next hnone =>
      refine ⟨⟨?_, List.forall_mem_append.2 ⟨hparts, List.forall_mem_singleton.2 ⟨hkey, hvalue⟩⟩⟩,
        List.forall_mem_append.2 ⟨hentriesS, List.forall_mem_singleton.2 hkeyS⟩⟩
      refine List.pairwise_append.2
        ⟨hapart, List.pairwise_singleton _ _, fun e he => List.forall_mem_singleton.2 ?_⟩
      rw [found_comm hS (hentriesS e he) hkeyS (hparts e he).1 hkey]
      simp only [List.any_eq_true, not_exists, not_and] at hnone
      simpa using hnone e he

/-- **Entries, later ones replacing earlier ones, are those of a well-formed mapping.** -/
theorem isWellFormed_ofEntries {entries : List (Value × Value)}
    (h : ∀ e ∈ entries, S e.1 ∧ e.1.isWellFormed = true ∧ e.2.isWellFormed = true) :
    (ofEntries entries).isWellFormed = true := by
  rw [ofEntries]
  refine (List.foldlRecOn entries _ (motive := fun es => (mapping es).isWellFormed = true ∧ ∀ e ∈ es, S e.1)
    ⟨rfl, List.forall_mem_nil _⟩ fun es hes e he => ?_).1
  obtain ⟨hkeyS, hkey, hvalue⟩ := h e he
  exact isWellFormed_insertEntry hS hes.1 hes.2 hkey hkeyS hvalue

end

end Liquid.Value
