import Liquid.Value.Order
import Mathlib.Order.Lattice

/-!
# What comparison relies on

Values are compared by what they are, but for two kinds.  An object answers for itself, and nothing makes its answers
fit together.  A moment of a region is compared by the clock of the region, or by its distance from universal time, and
where the clock is changed the two part: a moment that the clock shows twice equals no moment outside the region, but is
both at most and at least the one at its instant.  What is asked of objects and clocks for comparison to make sense is
stated here for the objects and moments among some values.

## Main definitions

* `Value.Coherent` — a strict relation, a weak one and equality that belong together.
* `Value.Lawful` — values among which objects compare as they should, and clocks go with time.
* `Value.Within` — what holds of a value and of everything in it.
* `Value.ComparesByKey` — objects that have a key or leave comparison as it is, and moments in zones whose clocks are
  not changed.

## Main statements

* `Value.lawful_byKey` — values are lawful if everything in them compares by keys.
-/

namespace Liquid

namespace Relation

@[simp] theorem swap_swap (r : Relation) : r.swap.swap = r := by
  cases r <;> rfl

theorem ofStrict_swap (r : Relation) (below above : Bool) : r.swap.ofStrict above below = r.ofStrict below above := by
  cases r <;> rfl

end Relation

namespace Value

/-! ## Strict and weak relations -/

/-- `Coherent strict weak same`: a weak relation holds where the strict one does and between equals, and the strict one
where the weak one does but not between equals. -/
structure Coherent (strict weak : Option Bool) (same : Bool) : Prop where
  weak_eq : weak = strict.map (· || same)
  strict_eq : strict = weak.map (· && !same)

namespace Coherent

theorem none (same : Bool) : Coherent .none .none same := ⟨rfl, rfl⟩

/-- The two relations of a total order. -/
theorem ofStrict {below above same : Bool} (h : below = true ∧ same = false ∧ above = false ∨
    below = false ∧ same = true ∧ above = false ∨ below = false ∧ same = false ∧ above = true) :
    Coherent (some (Relation.less.ofStrict below above)) (some (Relation.atMost.ofStrict below above)) same := by
  rcases h with ⟨rfl, rfl, rfl⟩ | ⟨rfl, rfl, rfl⟩ | ⟨rfl, rfl, rfl⟩ <;> exact ⟨rfl, rfl⟩

/-- The two relations of a linear order. -/
theorem ofLinearOrder {α : Type} [LinearOrder α] {a b : α} {below same above : Bool} (hbelow : below = true ↔ a < b)
    (hsame : same = true ↔ a = b) (habove : above = true ↔ b < a) :
    Coherent (some (Relation.less.ofStrict below above)) (some (Relation.atMost.ofStrict below above)) same := by
  refine ofStrict ?_
  rw [← Bool.not_eq_true same, ← Bool.not_eq_true above, ← Bool.not_eq_true below, hbelow, hsame, habove]
  rcases lt_trichotomy a b with h | rfl | h
  · exact .inl ⟨h, h.ne, h.not_gt⟩
  · simp
  · exact .inr (.inr ⟨h.not_gt, h.ne', h⟩)

end Coherent

/-! ## Objects and clocks -/

/-- What tells an object from all others, if a value is an object. -/
def identity? : Value → Option Nat
  | object o _ => some o.identity
  | _ => none

/-- Whether a value is an object. -/
def isObject (v : Value) : Bool := v.identity?.isSome

/-- The values in a collection. -/
def parts : Value → List Value
  | list xs | tuple xs | set xs | frozenSet xs => xs
  | mapping es => es.map Prod.fst ++ es.map Prod.snd
  | _ => []

/-- Values among which objects compare as they should, and clocks go with time. -/
structure Lawful (S : Value → Prop) : Prop where
  /-- With a collection, what is in it is among the values. -/
  parts : ∀ {v}, S v → ∀ x ∈ v.parts, S x
  /-- No moment lies where the clock of its region is changed. -/
  unambiguous : ∀ {m}, S (.moment m) → m.isAmbiguous = false
  /-- The clock of a region goes with universal time. -/
  clock : ∀ {m n}, S (.moment m) → S (.moment n) → m.sameRegion n = true →
    (m.clockTime < n.clockTime ↔ m.instant < n.instant)
  /-- Two objects equal each other, or neither equals the other one. -/
  equals_comm : ∀ {o p as bs}, S (.object o as) → S (.object p bs) →
    o.equals (.object p.identity) = p.equals (.object o.identity)
  /-- What equals an object, or equals what an object equals, is one with it for equality. -/
  found_trans : ∀ {u v w}, S u → S v → S w → u.isObject = true ∨ v.isObject = true ∨ w.isObject = true →
    found u v = true → found v w = true → found u w = true
  /-- An object that is told whether it is less than a value is told whether it is greater. -/
  comparable : ∀ {o as v}, S (.object o as) → S v →
    (o.relates? .less v.comparand).isSome = (o.relates? .greater v.comparand).isSome
  /-- The weak relations of an object are the strict ones or equality. -/
  upward : ∀ {o as v}, S (.object o as) → S v →
    Coherent (o.relates? .less v.comparand) (o.relates? .atMost v.comparand) (o.equals v.comparand)
  downward : ∀ {o as v}, S (.object o as) → S v →
    Coherent (o.relates? .greater v.comparand) (o.relates? .atLeast v.comparand) (o.equals v.comparand)
  /-- Two objects are in converse relations to each other. -/
  converse : ∀ {o p as bs}, S (.object o as) → S (.object p bs) → ∀ r,
    p.relates? r.swap (.object o.identity) = o.relates? r (.object p.identity)

section

variable {v w : Value} {o : Object} {attributes : List (Text × Value)}

@[simp] theorem identity?_object : (object o attributes).identity? = some o.identity := rfl

theorem exists_of_isObject (h : v.isObject = true) : ∃ o attributes, v = object o attributes := by
  cases v with
  | object o attributes => exact ⟨o, attributes, rfl⟩
  | _ => exact Bool.noConfusion h

/-- Of two values that are not both no objects, the left one is an object, or else the right one is. -/
theorem exists_object (h : v.isObject = true ∨ w.isObject = true) :
    (∃ o attributes, v = object o attributes) ∨ v.isObject = false ∧ ∃ o attributes, w = object o attributes := by
  cases hobject : v.isObject with
  | true => exact .inl (exists_of_isObject hobject)
  | false =>
      rw [hobject] at h
      exact .inr ⟨rfl, exists_of_isObject (h.resolve_left Bool.false_ne_true)⟩

/-- A value that is no object is told by its type and its written form. -/
theorem comparand_of_not_isObject (h : v.isObject = false) : v.comparand = .value v.typeName v.shown := by
  cases v with
  | object => exact Bool.noConfusion h
  | _ => rfl

/-- Only an object equals a value on its left that does not know it. -/
theorem equalsLeft_of_not_isObject (h : v.isObject = false) (left : Value) : v.equalsLeft left = false := by
  cases v with
  | object => exact Bool.noConfusion h
  | _ => rfl

theorem isSame_object (h : v.isObject = false) : isSame v (object o attributes) = false := by
  cases v with
  | object => exact Bool.noConfusion h
  | double x => cases x <;> rfl
  | _ => rfl

/-- An object that is compared with a value answers also where the value stands on the left. -/
theorem equal_object (h : v.isObject = false) : equal v (object o attributes) = o.equals v.comparand := by
  cases v with
  | object => exact Bool.noConfusion h
  | _ => simp [equal, extent?, equalsLeft]

theorem relates?_object (r : Relation) (h : v.isObject = false) :
    relates? r v (object o attributes) = o.relates? r.swap v.comparand := by
  cases v with
  | object => exact Bool.noConfusion h
  | facet f => cases f <;> simp [relates?, relatesLeft?]
  | _ => simp [relates?, extent?, relatesLeft?]

end

/-! ## Values that are compared by keys -/

/-- What holds of a value and of everything in it. -/
inductive Within (P : Value → Prop) : Value → Prop
  | intro {v : Value} (holds : P v) (parts : ∀ x ∈ v.parts, Within P x) : Within P v

theorem Within.of_parts_eq_nil {P : Value → Prop} {v : Value} (h : P v) (hparts : v.parts = []) : Within P v :=
  ⟨h, by simp [hparts]⟩

end Value

namespace Object

variable (key : Nat → Option Int)

/-- Where an object stands in comparisons: at its key, or, if it has none, in a place of its own. -/
def place (identity : Nat) : Int ⊕ Nat := (key identity).elim (.inr identity) .inl

/-- What an object answers that equals the objects at its place. -/
def equalsByKey (o : Object) : Comparand → Bool
  | .object i => decide (place key i = place key o.identity)
  | .value _ _ => false

/-- What an object answers that is ordered by its key among the objects that have one. -/
def relatesByKey? (o : Object) (r : Relation) : Comparand → Option Bool
  | .object i => (key o.identity).bind fun a => (key i).map fun b => r.ofStrict (a < b) (b < a)
  | .value _ _ => none

variable {key} {o p : Object}

theorem isSome_relatesByKey? (r r' : Relation) (c : Comparand) :
    (o.relatesByKey? key r c).isSome = (o.relatesByKey? key r' c).isSome := by
  cases c with
  | value => rfl
  | object i => cases ha : key o.identity <;> simp [relatesByKey?, ha]

/-- Weak relations are the strict ones or equality where both are told by keys. -/
theorem coherent_byKey (c : Comparand) :
    Value.Coherent (o.relatesByKey? key .less c) (o.relatesByKey? key .atMost c) (o.equalsByKey key c) ∧
      Value.Coherent (o.relatesByKey? key .greater c) (o.relatesByKey? key .atLeast c) (o.equalsByKey key c) := by
  cases c with
  | value => exact ⟨.none _, .none _⟩
  | object i =>
      rw [relatesByKey?, relatesByKey?, relatesByKey?, relatesByKey?, equalsByKey]
      cases ha : key o.identity with
      | none => exact ⟨.none _, .none _⟩
      | some a =>
          cases hb : key i with
          | none => exact ⟨.none _, .none _⟩
          | some b =>
              have hsame : decide (place key i = place key o.identity) = true ↔ b = a := by simp [place, ha, hb]
              have hupward := Value.Coherent.ofLinearOrder (@decide_eq_true_iff (a < b) _) (hsame.trans eq_comm)
                (@decide_eq_true_iff (b < a) _)
              have hdownward := Value.Coherent.ofLinearOrder (@decide_eq_true_iff (b < a) _) hsame
                (@decide_eq_true_iff (a < b) _)
              exact ⟨hupward, hdownward⟩

theorem converse_byKey (r : Relation) :
    p.relatesByKey? key r.swap (.object o.identity) = o.relatesByKey? key r (.object p.identity) := by
  rw [relatesByKey?, relatesByKey?]
  cases key o.identity <;> cases key p.identity <;> simp [Relation.ofStrict_swap]

end Object

namespace Value

variable {key : Nat → Option Int} {offset : Nat → Int} {u v w : Value}

/-- A value that compares by keys: an object that has a key or equals itself alone, a moment in a zone whose clock is at
the same distance from universal time at all times, and any value that is neither. -/
def ComparesByKey (key : Nat → Option Int) (offset : Nat → Int) : Value → Prop
  | object o _ => o.equals = o.equalsByKey key ∧ o.relates? = o.relatesByKey? key
  | moment m => ∀ z region, m.zone = some z → z.region = some region →
      region.isAmbiguous = false ∧ z.offset = offset region.self.identity
  | _ => True

/-- An object without a key that leaves comparison as it is. -/
theorem comparesByKey_plain {identity : Nat} (h : key identity = none) (attributes : List (Text × Value)) :
    ComparesByKey key offset (object (.plain identity) attributes) := by
  have hplace : ∀ i, Object.place key i = Object.place key identity ↔ i = identity := by
    intro i
    cases hi : key i with
    | none => simp [Object.place, h, hi]
    | some a =>
        have hne : i ≠ identity := by
          rintro rfl
          exact Option.some_ne_none a (hi.symm.trans h)
        simp [Object.place, h, hi, hne]
  refine ⟨funext fun c => ?_, funext fun r => funext fun c => ?_⟩
  · cases c with
    | value => rfl
    | object i =>
        rw [Bool.eq_iff_iff, Object.equalsByKey, decide_eq_true_iff]
        simp [Object.plain, hplace]
  · cases c with
    | value => rfl
    | object i => simp [Object.plain, Object.relatesByKey?, h]

/-- An object is found where the objects at its place are. -/
theorem found_iff_of_comparesByKey (hv : ComparesByKey key offset v) (hw : ComparesByKey key offset w)
    (h : v.isObject = true ∨ w.isObject = true) :
    found v w = true ↔ v.identity?.map (Object.place key) = w.identity?.map (Object.place key) := by
  obtain ⟨o, attributes, rfl⟩ | ⟨hobject, o, attributes, rfl⟩ := exists_object h
  · rw [found, equal, hv.1]
    cases w with
    | object p _ =>
        have hplace : o.identity = p.identity → Object.place key o.identity = Object.place key p.identity :=
          congrArg (Object.place key)
        simp only [isSame, comparand, Object.equalsByKey, Bool.or_eq_true, beq_iff_eq, decide_eq_true_eq,
          identity?_object, Option.map_some, Option.some.injEq, eq_comm (a := Object.place key p.identity)]
        exact or_iff_right_of_imp hplace
    | _ => simp [identity?, isSame, comparand, Object.equalsByKey]
  · rw [found, isSame_object hobject, equal_object hobject, hw.1, comparand_of_not_isObject hobject]
    rw [isObject, Option.isSome_eq_false_iff, Option.isNone_iff_eq_none] at hobject
    simp [hobject, Object.equalsByKey]

/-- Where what is found has the place of an object, it is an object. -/
theorem isObject_of_place (h : v.identity?.map (Object.place key) = w.identity?.map (Object.place key)) :
    v.isObject = w.isObject := by
  simpa [isObject] using congrArg Option.isSome h

/-- **Values are lawful if everything in them compares by keys.** -/
theorem lawful_byKey (key : Nat → Option Int) (offset : Nat → Int) : Lawful (Within (ComparesByKey key offset)) where
  parts := by
    rintro v ⟨-, hparts⟩
    exact hparts
  unambiguous := by
    rintro m ⟨hm, -⟩
    unfold Moment.isAmbiguous Moment.region?
    cases hz : m.zone with
    | none => rfl
    | some z =>
        cases hregion : z.region with
        | none => simp [hregion]
        | some region => simp [hregion, (hm z region hz hregion).1]
  clock := by
    rintro m n ⟨hm, -⟩ ⟨hn, -⟩ hsame
    unfold Moment.sameRegion at hsame
    split at hsame
    · next r s hr hs =>
        -- In one region both are at the same distance from universal time.
        obtain ⟨z, hz, hr⟩ := Option.bind_eq_some_iff.1 hr
        obtain ⟨y, hy, hs⟩ := Option.bind_eq_some_iff.1 hs
        have hoffset : z.offset = y.offset := by
          rw [(hm z r hz hr).2, (hn y s hy hs).2, beq_iff_eq.1 hsame]
        simp only [Moment.instant, Moment.clockTime, hz, hy, Option.map_some, Option.getD_some, hoffset]
        omega
    · exact Bool.noConfusion hsame
  equals_comm := by
    rintro o p as bs ⟨ho, -⟩ ⟨hp, -⟩
    rw [ho.1, hp.1]
    exact decide_eq_decide.2 eq_comm
  found_trans := by
    rintro u v w ⟨hu, -⟩ ⟨hv, -⟩ ⟨hw, -⟩ h huv hvw
    -- What is found in the place of an object is an object: so all three are.
    have hobject : v.isObject = true := by
      rcases h with h | h | h
      · rwa [isObject_of_place ((found_iff_of_comparesByKey hu hv (.inl h)).1 huv)] at h
      · exact h
      · rwa [← isObject_of_place ((found_iff_of_comparesByKey hv hw (.inr h)).1 hvw)] at h
    have huv := (found_iff_of_comparesByKey hu hv (.inr hobject)).1 huv
    have hvw := (found_iff_of_comparesByKey hv hw (.inl hobject)).1 hvw
    rw [← isObject_of_place huv] at hobject
    exact (found_iff_of_comparesByKey hu hw (.inl hobject)).2 (huv.trans hvw)
  comparable := by
    rintro o as v ⟨ho, -⟩ -
    rw [ho.2]
    exact Object.isSome_relatesByKey? _ _ _
  upward := by
    rintro o as v ⟨ho, -⟩ -
    rw [ho.1, ho.2]
    exact (Object.coherent_byKey _).1
  downward := by
    rintro o as v ⟨ho, -⟩ -
    rw [ho.1, ho.2]
    exact (Object.coherent_byKey _).2
  converse := by
    rintro o p as bs ⟨ho, -⟩ ⟨hp, -⟩ r
    rw [ho.2, hp.2]
    exact Object.converse_byKey r

end Value
end Liquid
