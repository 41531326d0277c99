import Liquid.Proofs.Outcome
import Liquid.Proofs.Privacy.PublicPart
import Liquid.Variable

/-!
# Selecting in the public part of a value

A path selects keys, positions and slices, at any depth.  None of them is an attribute of an object, so that in the
public part of a value a path leads to the public parts of the places that it leads to in the value, and fails in the
same way.  This is what is relied on of any engine; the standard one follows such paths.

## Main definitions

* `Place.publicPart` — a place in the public part.
* `PathEngine.IgnoresPrivate` — an engine that reads no private attribute.

## Main statements

* `Path.throughout_publicPart` — selecting at any depth.
* `Path.select_publicPart`, `PathEngine.ignoresPrivate_standard` — selecting by a path.
-/

namespace Liquid

open Value

/-- A place without private attributes. -/
def Place.publicPart (p : Place) : Place := p.map Value.publicPart

namespace Place

variable (p : Place)

theorem publicPart_cons (v : Value) (above : Place) : publicPart (v :: above) = v.publicPart :: publicPart above :=
  List.map_cons

theorem occupied_publicPart : p.publicPart.occupied = p.occupied.publicPart := by
  cases p <;> rfl

theorem value_publicPart : p.publicPart.value = p.value.publicPart := by
  cases p <;> rfl

theorem tail_publicPart : p.publicPart.tail = publicPart p.tail := List.map_tail.symm

theorem root_publicPart : p.publicPart.root = p.root.publicPart := by
  have hlast : (p.occupied.publicPart).getLastD .nil = (p.occupied.getLastD .nil).publicPart := by
    rw [publicPart, List.getLastD_eq_getLast?, List.getLastD_eq_getLast?, List.getLast?_map]
    cases p.occupied.getLast? <;> rfl
  rw [root, root, occupied_publicPart, hlast]
  rfl

end Place

namespace Path

/-- Places without private attributes. -/
def publicPlaces (ps : List Place) : List Place := ps.map Place.publicPart

theorem publicPlaces_append (ps qs : List Place) : publicPlaces (ps ++ qs) = publicPlaces ps ++ publicPlaces qs :=
  List.map_append

theorem publicPlaces_flatten (groups : List (List Place)) :
    publicPlaces groups.flatten = (groups.map publicPlaces).flatten := List.map_flatten

/-! ## One step -/

theorem selectFields_publicPart (names : List Text) (p : Place) :
    selectFields names p.publicPart = (selectFields names p).map publicPlaces := by
  unfold selectFields
  rw [p.value_publicPart]
  cases p.value with
  | mapping es =>
      rw [publicPart_mapping]
      simp only
      split
      · simp only [Except.map, publicPlaces, List.map_map, Function.comp_def, Place.publicPart_cons]
      · simp only [Except.map, publicPlaces, List.map_filterMap, Option.map_map, Function.comp_def,
          Place.publicPart_cons, lookupText_map_publicPart]
  | object identity attributes =>
      have hpublic : isPrivate "keys".toList = false := rfl
      have hkeys := named?_publicAttributes hpublic attributes
      rw [publicPart_object]
      simp only [hkeys, Option.isSome_map]
      split <;> rfl
  | list xs | tuple xs | set xs | frozenSet xs => simp only [publicPart, Except.map, publicPlaces, List.map_nil]
  | _ => rfl

theorem pick_publicPart (p : Place) (i : Int) :
    (do return (← p.publicPart.value.item? i) :: p.publicPart) =
      (do return (← p.value.item? i) :: p : Except Fault Place).map Place.publicPart := by
  rw [p.value_publicPart, item?_publicPart]
  refine Outcome.map_bind_map (fun v => ?_) (p.value.item? i)
  rfl

theorem selectIndices_publicPart (positions : List Int) (p : Place) :
    selectIndices positions p.publicPart = (selectIndices positions p).map publicPlaces := by
  have hposition : ∀ i : Int,
      (do
        if p.publicPart.value.isVacant then return []
        else
          let length ← p.publicPart.value.length?
          if i < (length : Int) then return [(← p.publicPart.value.item? i) :: p.publicPart] else return []) =
        (do
          if p.value.isVacant then return []
          else
            let length ← p.value.length?
            if i < (length : Int) then return [(← p.value.item? i) :: p] else return []
          : Except Fault (List Place)).map publicPlaces := by
    intro i
    rw [p.value_publicPart, isVacant_publicPart, length?_publicPart, item?_publicPart]
    split
    · rfl
    · refine Outcome.bind_eq_map (fun length => ?_) p.value.length?
      split
      · refine Outcome.map_bind_map (fun v => ?_) (p.value.item? i)
        rfl
      · rfl
  rw [selectIndices, Outcome.mapM_eq_map hposition positions]
  refine Outcome.map_bind_map (fun picked => ?_) _
  exact congrArg Except.ok (publicPlaces_flatten picked).symm

/-- The items of a slice of the value at a place. -/
theorem slice_publicPart (start stop step : Option Int) (p : Place) :
    (do
      let length ← p.publicPart.value.length?
      let positions ← slicePositions length start stop step
      positions.mapM fun i => do return (← p.publicPart.value.item? i) :: p.publicPart) =
      (do
        let length ← p.value.length?
        let positions ← slicePositions length start stop step
        positions.mapM fun i => do return (← p.value.item? i) :: p : Except Fault (List Place)).map publicPlaces := by
  have hlength : p.publicPart.value.length? = p.value.length? := by rw [p.value_publicPart, length?_publicPart]
  rw [hlength]
  refine Outcome.bind_eq_map (fun length => ?_) p.value.length?
  refine Outcome.bind_eq_map (fun positions => ?_) (slicePositions length start stop step)
  exact Outcome.mapM_eq_map (pick_publicPart p) positions

theorem selectSlice_publicPart (start stop step : Option Int) (p : Place) :
    selectSlice start stop step p.publicPart = (selectSlice start stop step p).map publicPlaces := by
  unfold selectSlice
  rw [p.value_publicPart, isVacant_publicPart]
  split
  · rfl
  · -- What is no sequence stands for a sequence of one item.
    rw [p.tail_publicPart]
    cases hvalue : p.value with
    | mapping es =>
        have hslice := slice_publicPart start stop step (.list [.mapping es] :: p.tail)
        simp only [Place.publicPart_cons, publicPart_list, publicPart_mapping, List.map_cons, List.map_nil] at hslice ⊢
        exact hslice
    | int n => exact slice_publicPart start stop step (.list [.int n] :: p.tail)
    | bool b => exact slice_publicPart start stop step (.list [.bool b] :: p.tail)
    | text t => exact slice_publicPart start stop step (.list [.text t] :: p.tail)
    | list xs | tuple xs | set xs | frozenSet xs | object identity attributes =>
        simp only [publicPart]
        exact slice_publicPart start stop step p
    | _ => exact slice_publicPart start stop step p

theorem append_publicPart {x y x' y' : Except Fault (List Place)} (hx : x' = x.map publicPlaces)
    (hy : y' = y.map publicPlaces) :
    (do
      let found ← x'
      return found ++ (← y')) =
      (do
        let found ← x
        return found ++ (← y)).map publicPlaces := by
  rw [hx, hy]
  refine Outcome.map_bind_map (fun found => ?_) x
  refine Outcome.map_bind_map (fun others => ?_) y
  exact congrArg Except.ok (publicPlaces_append found others).symm

/-! ## At any depth -/

section

variable {f : Place → Except Fault (List Place)}

mutual

theorem throughout_publicPart (hf : ∀ p, f (Place.publicPart p) = (f p).map publicPlaces) (above : Place) (v : Value) :
    throughout f above.publicPart v.publicPart = (throughout f above v).map publicPlaces := by
  have hown := hf (v :: above)
  rw [Place.publicPart_cons] at hown
  cases v with
  | list xs =>
      have hitems := throughoutItems_publicPart hf (.list xs :: above) xs
      rw [Place.publicPart_cons] at hitems
      simp only [publicPart, throughout] at hown hitems ⊢
      exact append_publicPart hown hitems
  | mapping es =>
      have hentries := throughoutEntries_publicPart hf (.mapping es :: above) es
      rw [Place.publicPart_cons] at hentries
      simp only [publicPart, throughout] at hown hentries ⊢
      exact append_publicPart hown hentries
  | tuple xs | set xs | frozenSet xs | object identity attributes =>
      simp only [publicPart, throughout] at hown ⊢
      exact hown
  | _ => exact hown

theorem throughoutItems_publicPart (hf : ∀ p, f (Place.publicPart p) = (f p).map publicPlaces) (above : Place)
    (xs : List Value) :
    throughoutItems f above.publicPart (publicItems xs) = (throughoutItems f above xs).map publicPlaces := by
  match xs with
  | [] => rfl
  | x :: xs =>
      rw [publicItems, throughoutItems, throughoutItems]
      exact append_publicPart (throughout_publicPart hf above x) (throughoutItems_publicPart hf above xs)

theorem throughoutEntries_publicPart (hf : ∀ p, f (Place.publicPart p) = (f p).map publicPlaces) (above : Place)
    (es : List (Value × Value)) :
    throughoutEntries f above.publicPart (publicEntries es) = (throughoutEntries f above es).map publicPlaces := by
  match es with
  | [] => rfl
  | (k, v) :: es =>
      rw [publicEntries, throughoutEntries, throughoutEntries]
      exact append_publicPart (throughout_publicPart hf above v) (throughoutEntries_publicPart hf above es)

end

end

/-! ## Paths -/

theorem flatten_mapM_publicPart {f g : Place → Except Fault (List Place)}
    (h : ∀ q : Place, g q.publicPart = (f q).map publicPlaces) (places : List Place) :
    (do return (← (publicPlaces places).mapM g).flatten) =
      (do return (← places.mapM f).flatten : Except Fault (List Place)).map publicPlaces := by
  rw [publicPlaces, Outcome.mapM_map h places]
  refine Outcome.map_bind_map (fun groups => ?_) (places.mapM f)
  exact congrArg Except.ok (publicPlaces_flatten groups).symm

/-- **A path leads to the public parts of the places that it leads to**, or fails in the same way. -/
theorem select_publicPart (path : Path) (p : Place) :
    path.select p.publicPart = (path.select p).map publicPlaces := by
  induction path generalizing p with
  | root =>
      rw [select, select, p.root_publicPart]
      rfl
  | this =>
      rw [select, select, p.occupied_publicPart]
      rfl
  | parent =>
      rw [select, select, p.occupied_publicPart, p.occupied.tail_publicPart]
      rfl
  | fields names => rw [select, select, p.occupied_publicPart, selectFields_publicPart]
  | index positions => rw [select, select, p.occupied_publicPart, selectIndices_publicPart]
  | slice start stop step => rw [select, select, p.occupied_publicPart, selectSlice_publicPart]
  | child left right ihleft ihright =>
      rw [select, select, ihleft]
      exact Outcome.map_bind_map (flatten_mapM_publicPart ihright) (left.select p)
  | descendants left right ihleft ihright =>
      rw [select, select, ihleft]
      refine Outcome.map_bind_map (flatten_mapM_publicPart fun q => ?_) (left.select p)
      cases q with
      | nil => rfl
      | cons v above => exact throughout_publicPart ihright above v
  | filtered left right ihleft ihright =>
      rw [select, select, ihleft]
      refine Outcome.map_bind_map (fun places => ?_) (left.select p)
      refine Outcome.filterM_map (fun q => ?_) places
      rw [ihright]
      cases right.select q with
      | error e => rfl
      | ok found => exact congrArg (fun b => Except.ok !b) List.isEmpty_map
  | unfiltered left right ihleft ihright =>
      rw [select, select, ihleft]
      refine Outcome.map_bind_map (fun places => ?_) (left.select p)
      refine Outcome.filterM_map (fun q => ?_) places
      rw [ihright]
      cases right.select q with
      | error e => rfl
      | ok found => exact congrArg Except.ok List.isEmpty_map
  | union left right ihleft ihright =>
      rw [select, select]
      exact append_publicPart (ihleft p) (ihright p)
  | intersection left right => rfl

theorem values_publicPart (path : Path) (root : Value) :
    path.values root.publicPart = (path.values root).map (List.map Value.publicPart) := by
  have hplaces : path.select [root.publicPart] = (path.select [root]).map publicPlaces :=
    path.select_publicPart [root]
  rw [values, values, hplaces]
  refine Outcome.map_bind_map (fun places => ?_) (path.select [root])
  refine Outcome.mapM_map (fun q => ?_) places
  cases q <;> rfl

end Path

/-- An engine that reads no private attribute: what it finds in the public part of a value are the public parts of what
it finds in the value, and it fails in both alike. -/
def PathEngine.IgnoresPrivate (e : PathEngine) : Prop :=
  ∀ (t : Text) (root : Value), e.find t root.publicPart = (e.find t root).map (List.map Value.publicPart)

/-- **The standard engine reads no private attribute.** -/
theorem PathEngine.ignoresPrivate_standard : standard.IgnoresPrivate := by
  intro t root
  simp only [find]
  split
  · rfl
  · rfl
  · next path _ =>
      rw [path.values_publicPart]
      cases path.values root <;> rfl

theorem Value.select_publicPart {e : PathEngine} (he : e.IgnoresPrivate) (root : Value) (written : Text) :
    root.publicPart.select written e = (root.select written e).map (List.map Value.publicPart) := by
  rw [select, select, he]
  cases e.find ("$.".toList ++ written) root <;> rfl

end Liquid
