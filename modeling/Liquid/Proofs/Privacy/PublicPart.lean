import Liquid.Path.Select
import Liquid.Value.Attribute
import Liquid.Value.Conversion

/-!
# The public part of a value

Attributes whose names begin with an underscore are private.  Without them, at any depth, a value is its public part.
What a template can see of a value it sees of the public part: how long it is, whether it is empty, how it is written,
and what a step leads to.

## Main definitions

* `Value.publicPart` — a value without private attributes, at any depth.

## Main statements

* `Value.shown_publicPart`, `Value.plainText_publicPart` — both are written in the same way.
* `Value.item?_publicPart`, `Value.child?_publicPart` — steps into the public part lead to public parts.
-/

namespace Liquid.Value

/-! ## Private attributes -/

/-- Whether an attribute is private by its name. -/
def isPrivate (name : Text) : Bool := name.head? == some '_'

mutual

/-- A value without private attributes, at any depth. -/
def publicPart : Value → Value
  | .list xs => .list (publicItems xs)
  | .tuple xs => .tuple (publicItems xs)
  | .set xs => .set (publicItems xs)
  | .frozenSet xs => .frozenSet (publicItems xs)
  | .mapping es => .mapping (publicEntries es)
  | .object self attributes => .object self (publicAttributes attributes)
  | v => v

/-- Items without private attributes. -/
def publicItems : List Value → List Value
  | [] => []
  | x :: xs => publicPart x :: publicItems xs

/-- Keys and values without private attributes. -/
def publicEntries : List (Value × Value) → List (Value × Value)
  | [] => []
  | (k, v) :: es => (publicPart k, publicPart v) :: publicEntries es

/-- The attributes that are not private, with the public parts of their values. -/
def publicAttributes : List (Text × Value) → List (Text × Value)
  | [] => []
  | (name, v) :: attributes =>
    if isPrivate name then publicAttributes attributes else (name, publicPart v) :: publicAttributes attributes

end

theorem publicItems_eq_map (xs : List Value) : publicItems xs = xs.map publicPart := by
  induction xs with
  | nil => rfl
  | cons x xs ih => rw [publicItems, ih, List.map_cons]

theorem publicEntries_eq_map (es : List (Value × Value)) :
    publicEntries es = es.map fun e => (e.1.publicPart, e.2.publicPart) := by
  induction es with
  | nil => rfl
  | cons e es ih =>
      obtain ⟨k, v⟩ := e
      rw [publicEntries, ih, List.map_cons]

@[simp] theorem publicPart_list (xs : List Value) : publicPart (.list xs) = .list (xs.map publicPart) :=
  congrArg Value.list (publicItems_eq_map xs)

@[simp] theorem publicPart_tuple (xs : List Value) : publicPart (.tuple xs) = .tuple (xs.map publicPart) :=
  congrArg Value.tuple (publicItems_eq_map xs)

@[simp] theorem publicPart_set (xs : List Value) : publicPart (.set xs) = .set (xs.map publicPart) :=
  congrArg Value.set (publicItems_eq_map xs)

@[simp] theorem publicPart_frozenSet (xs : List Value) :
    publicPart (.frozenSet xs) = .frozenSet (xs.map publicPart) := congrArg Value.frozenSet (publicItems_eq_map xs)

@[simp] theorem publicPart_mapping (es : List (Value × Value)) :
    publicPart (.mapping es) = .mapping (es.map fun e => (e.1.publicPart, e.2.publicPart)) :=
  congrArg Value.mapping (publicEntries_eq_map es)

@[simp] theorem publicPart_object (self : Object) (attributes : List (Text × Value)) :
    publicPart (.object self attributes) = .object self (publicAttributes attributes) := rfl

@[simp] theorem publicPart_nil : publicPart .nil = .nil := rfl

@[simp] theorem publicPart_bool (b : Bool) : publicPart (.bool b) = .bool b := rfl

@[simp] theorem publicPart_int (n : Int) : publicPart (.int n) = .int n := rfl

@[simp] theorem publicPart_double (x : Binary64) : publicPart (.double x) = .double x := rfl

@[simp] theorem publicPart_text (t : Text) : publicPart (.text t) = .text t := rfl

@[simp] theorem publicPart_range (a b : Int) : publicPart (.range a b) = .range a b := rfl

@[simp] theorem publicPart_moment (m : Moment) : publicPart (.moment m) = .moment m := rfl

@[simp] theorem publicPart_facet (f : Facet) : publicPart (.facet f) = .facet f := rfl

/-- A public attribute is an attribute of the public part. -/
theorem named?_publicAttributes {name : Text} (h : isPrivate name = false) (attributes : List (Text × Value)) :
    named? name (publicAttributes attributes) = (named? name attributes).map publicPart := by
  induction attributes with
  | nil => rfl
  | cons a attributes ih =>
      obtain ⟨n, v⟩ := a
      unfold named? at ih ⊢
      rw [publicAttributes, List.lookup_cons]
      by_cases hname : name = n
      · subst hname
        simp [h]
      · have hne : (name == n) = false := beq_eq_false_iff_ne.2 hname
        rw [hne]
        split
        · exact ih
        · rw [List.lookup_cons, hne]
          exact ih

/-! ## What is seen of a value -/

@[simp] theorem isVacant_publicPart (v : Value) : v.publicPart.isVacant = v.isVacant := by
  cases v <;> simp [isVacant]

@[simp] theorem length?_publicPart (v : Value) : v.publicPart.length? = v.length? := by
  cases v with
  | list xs | tuple xs | set xs | frozenSet xs => simp only [publicPart, publicItems_eq_map, length?, List.length_map]
  | mapping es => simp only [publicPart, publicEntries_eq_map, length?, List.length_map]
  | object self attributes =>
      rw [publicPart_object]
      rfl
  | _ => rfl

@[simp] theorem count?_publicPart (v : Value) : v.publicPart.count? = v.count? := by
  cases v with
  | list xs | tuple xs | set xs | frozenSet xs | mapping es | object self attributes =>
      simp only [publicPart, count?]
  | _ => rfl

mutual

theorem shown_publicPart (v : Value) : v.publicPart.shown = v.shown := by
  rw [shown.eq_def, shown.eq_def v]
  cases v with
  | list xs => simp only [publicPart, shownItems_publicItems xs]
  | tuple xs =>
      -- A tuple of one item is written with a comma behind it.
      match xs with
      | [] => rfl
      | [x] => simp only [publicPart, publicItems, shown_publicPart x]
      | x :: y :: rest =>
          have hitems := shownItems_publicItems (x :: y :: rest)
          simp only [publicItems] at hitems
          simp only [publicPart, publicItems, hitems]
  | set xs | frozenSet xs =>
      cases xs with
      | nil => rfl
      | cons x rest =>
          have hitems := shownItems_publicItems (x :: rest)
          simp only [publicItems] at hitems
          simp only [publicPart, publicItems, hitems]
  | mapping es => simp only [publicPart, shownEntries_publicEntries es]
  | object self attributes => simp only [publicPart]
  | _ => rfl

theorem shownItems_publicItems (xs : List Value) : shownItems (publicItems xs) = shownItems xs := by
  match xs with
  | [] => rfl
  | [x] => simp only [publicItems, shownItems, shown_publicPart x]
  | x :: y :: rest =>
      have hitems := shownItems_publicItems (y :: rest)
      simp only [publicItems] at hitems
      simp only [publicItems, shownItems, shown_publicPart x, hitems]

theorem shownEntries_publicEntries (es : List (Value × Value)) :
    shownEntries (publicEntries es) = shownEntries es := by
  match es with
  | [] => rfl
  | [(k, v)] => simp only [publicEntries, shownEntries, shown_publicPart k, shown_publicPart v]
  | (k, v) :: (k', v') :: rest =>
      have hentries := shownEntries_publicEntries ((k', v') :: rest)
      simp only [publicEntries] at hentries
      simp only [publicEntries, shownEntries, shown_publicPart k, shown_publicPart v, hentries]

end

mutual

theorem isWritable_publicPart (v : Value) : v.publicPart.isWritable = v.isWritable := by
  cases v with
  | list xs | tuple xs | set xs | frozenSet xs => simp only [publicPart, isWritable, areWritable_publicItems xs]
  | mapping es => simp only [publicPart, isWritable, areWritableEntries_publicEntries es]
  | object self attributes => simp only [publicPart, isWritable]
  | _ => rfl

theorem areWritable_publicItems (xs : List Value) : areWritable (publicItems xs) = areWritable xs := by
  match xs with
  | [] => rfl
  | x :: xs => simp only [publicItems, areWritable, isWritable_publicPart x, areWritable_publicItems xs]

theorem areWritableEntries_publicEntries (es : List (Value × Value)) :
    areWritableEntries (publicEntries es) = areWritableEntries es := by
  match es with
  | [] => rfl
  | (k, v) :: es =>
      simp only [publicEntries, areWritableEntries, isWritable_publicPart k, isWritable_publicPart v,
        areWritableEntries_publicEntries es]

end

theorem plain_publicPart (v : Value) : v.publicPart.plain = v.plain := by
  have hshown := shown_publicPart v
  cases v with
  | list xs | tuple xs | set xs | frozenSet xs | mapping es =>
      simp only [publicPart] at hshown
      simpa only [publicPart, plain] using hshown
  | object self attributes => simp only [publicPart, plain]
  | _ => rfl

@[simp] theorem plainText_publicPart (v : Value) : v.publicPart.plainText = v.plainText := by
  rw [plainText, written, plainText, written, plain_publicPart, isWritable_publicPart]

/-! ## Keys -/

/-- A key of a mapping that is a number or a text is found in its public part alike. -/
theorem found_int_publicPart (i : Int) (v : Value) : found (.int i) v.publicPart = found (.int i) v := by
  cases v <;> simp [found, isSame, equal, equalsLeft, extent?]

theorem found_text_publicPart (t : Text) (v : Value) : found (.text t) v.publicPart = found (.text t) v := by
  cases v <;> simp [found, isSame, equal, equalsLeft]

theorem lookupKey_map_publicPart {key : Value} (h : ∀ v, found key (publicPart v) = found key v)
    (es : List (Value × Value)) :
    lookupKey key (es.map fun e => (e.1.publicPart, e.2.publicPart)) = (lookupKey key es).map publicPart := by
  unfold lookupKey
  rw [List.find?_map, Option.map_map, Option.map_map]
  simp only [Function.comp_def, h]

theorem lookupText_map_publicPart (key : Text) (es : List (Value × Value)) :
    lookupText key (es.map fun e => (e.1.publicPart, e.2.publicPart)) = (lookupText key es).map publicPart :=
  lookupKey_map_publicPart (found_text_publicPart key) es

/-! ## Steps -/

/-- The item at a position of the public part is the public part of the item. -/
theorem item?_publicPart (v : Value) (i : Int) : v.publicPart.item? i = (v.item? i).map publicPart := by
  cases v with
  | text t =>
      simp only [publicPart_text, item?]
      cases fromEnd t.length i with
      | none => rfl
      | some k =>
          simp only [Option.bind_some]
          cases t[k]? <;> rfl
  | list xs | tuple xs =>
      simp only [publicPart, publicItems_eq_map, item?, List.length_map, List.getElem?_map]
      cases fromEnd xs.length i with
      | none => rfl
      | some k =>
          simp only [Option.bind_some]
          cases xs[k]? <;> rfl
  | range a b =>
      simp only [publicPart_range, item?]
      cases fromEnd (rangeSize a b) i <;> rfl
  | mapping es =>
      simp only [publicPart_mapping, item?, lookupKey_map_publicPart (found_int_publicPart i)]
      cases lookupKey (.int i) es <;> rfl
  | set xs | frozenSet xs => simp only [publicPart, item?, Except.map]
  | object self attributes => simp only [publicPart, item?, Except.map]
  | _ => rfl

theorem sequenceChild?_map_publicPart (items : List Value) (key : Text) :
    sequenceChild? (items.map publicPart) key = (sequenceChild? items key).map publicPart := by
  unfold sequenceChild?
  split
  · simp
  · split
    · cases items <;> simp
    · split
      · rw [List.getLast?_map]
        cases items.getLast? <;> simp
      · rfl

section

variable (name : Text)

theorem map_method? (methods : List String) : (method? methods name).map publicPart = method? methods name := by
  unfold method?
  split <;> rfl

theorem map_intAttribute? (n : Int) : (intAttribute? n name).map publicPart = intAttribute? n name := by
  simp only [intAttribute?, apply_ite (Option.map publicPart), Option.map_some, publicPart_int, map_method?]

theorem map_doubleAttribute? (x : Binary64) : (doubleAttribute? x name).map publicPart = doubleAttribute? x name := by
  simp only [doubleAttribute?, apply_ite (Option.map publicPart), Option.map_some, publicPart_double, map_method?]

theorem map_rangeAttribute? (a b : Int) : (rangeAttribute? a b name).map publicPart = rangeAttribute? a b name := by
  simp only [rangeAttribute?, apply_ite (Option.map publicPart), Option.map_some, publicPart_int, map_method?]

theorem map_momentAttribute? (m : Moment) : (momentAttribute? m name).map publicPart = momentAttribute? m name := by
  simp only [momentAttribute?, apply_ite (Option.map publicPart), Option.map_some, publicPart_int, publicPart_moment,
    publicPart_facet, map_method?]
  rcases m.zone with _ | ⟨offset, name, standard, _ | r⟩ <;> rfl

theorem map_facetAttribute? (f : Facet) : (facetAttribute? f name).map publicPart = facetAttribute? f name := by
  cases f with
  | method _ => rfl
  | zone _ | duration _ =>
      simp only [facetAttribute?, apply_ite (Option.map publicPart), Option.map_some, publicPart_int,
        publicPart_facet, map_method?]

end

/-- A public attribute of the public part is the public part of the attribute. -/
theorem attribute?_publicPart {name : Text} (h : isPrivate name = false) (v : Value) :
    v.publicPart.attribute? name = (v.attribute? name).map publicPart := by
  cases v with
  | object self attributes =>
      rw [publicPart_object]
      exact named?_publicAttributes h attributes
  | bool b => exact (map_intAttribute? name _).symm
  | int n => exact (map_intAttribute? name n).symm
  | double x => exact (map_doubleAttribute? name x).symm
  | set xs | frozenSet xs =>
      rw [publicPart]
      exact (map_method? name _).symm
  | range a b => exact (map_rangeAttribute? name a b).symm
  | moment m => exact (map_momentAttribute? name m).symm
  | facet f => exact (map_facetAttribute? name f).symm
  | list xs | tuple xs | mapping es => simp [attribute?]
  | nil | text t => rfl

/-- **A step into the public part leads to the public part of what the step leads to.** -/
theorem child?_publicPart (v : Value) (key : Text) : v.publicPart.child? key = (v.child? key).map publicPart := by
  -- what is neither a mapping nor a sequence is asked for an attribute, unless the name is private
  have hattribute : (if key.head? = some '_' then none else v.publicPart.attribute? key) =
      (if key.head? = some '_' then none else v.attribute? key).map publicPart := by
    by_cases hprivate : key.head? = some '_'
    · rw [if_pos hprivate, if_pos hprivate, Option.map_none]
    · rw [if_neg hprivate, if_neg hprivate]
      exact attribute?_publicPart (by simpa [isPrivate] using hprivate) v
  cases v with
  | mapping es =>
      rw [publicPart_mapping]
      simp only [child?, lookupText_map_publicPart, List.length_map]
      cases lookupText key es with
      | some v => rfl
      | none =>
          simp only [Option.map_none]
          split <;> rfl
  | list xs | tuple xs =>
      rw [publicPart, publicItems_eq_map]
      exact sequenceChild?_map_publicPart xs key
  | text t =>
      have hchild := sequenceChild?_map_publicPart (t.map fun c => .text [c]) key
      rw [List.map_map] at hchild
      exact hchild
  | set xs | frozenSet xs | object self attributes =>
      rw [publicPart] at hattribute ⊢
      exact hattribute
  | _ => exact hattribute

theorem descend?_publicPart (v : Value) (keys : List Text) :
    v.publicPart.descend? keys = (v.descend? keys).map publicPart := by
  induction keys generalizing v with
  | nil => rfl
  | cons key keys ih =>
      have hcons : ∀ w : Value, w.descend? (key :: keys) = (w.child? key).bind (·.descend? keys) :=
        fun w => List.foldlM_cons
      rw [hcons, hcons, child?_publicPart, Option.bind_map, Option.map_bind]
      simp only [Function.comp_def, ih]

end Liquid.Value
