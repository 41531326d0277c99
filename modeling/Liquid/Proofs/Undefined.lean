import Liquid.Proofs.Path.Indexing
import Liquid.Proofs.Strictness

/-!
# Undefined variables as `nil`

Where an undefined variable is no error it is `nil`: the variable itself, and what a path does not lead to behind it.
A range has no undefined bound, since `nil` is no whole number.  Only between brackets an undefined variable is not
what the operand is: it is written into the path like any other value, and its written form is the key `None`.

## Main definitions

* `Bracket.names`, `Operand.indices` — the names between brackets, in a path and in an operand.

## Main statements

* `ScopeStack.expand_undefined` — an undefined name between brackets is the key `None`.
* `Operand.resolve_undefined` — what an operand is if the strict reading of it ends with an undefined variable.
* `Context.resolve_undefined_lax` — the same for what is written in a template.
* `Context.resolve_index_undefined` — an entry that an undefined variable reaches.
-/

namespace Liquid

namespace Bracket

/-- The names between brackets in a path. -/
def names (path : Text) : List Text :=
  (fragments path).filterMap fun fragment =>
    match fragment with
    | .name t => some t
    | .character _ => none

theorem mem_names_iff {path t : Text} : t ∈ names path ↔ .name t ∈ fragments path := by
  rw [names, List.mem_filterMap]
  constructor
  · rintro ⟨fragment, hfragment, h⟩
    cases fragment with
    | character c => exact nomatch h
    | name t' =>
        obtain rfl : t' = t := Option.some.inj h
        exact hfragment
  · intro h
    exact ⟨_, h, rfl⟩

end Bracket

/-- The names between brackets in an operand, those in the bounds of a range included. -/
def Operand.indices : Operand → List Text
  | literal _ => []
  | overlong => []
  | range _ _ first last => first.indices ++ last.indices
  | path written => Bracket.names written

open Outcome

variable {path : Text}

/-! ## What is no undefined variable

A value is converted, written or followed without another look at the scopes. -/

theorem Bracket.written_ne_undefined (v : Value) : written v ≠ .error (.undefined path) := by
  intro h
  rcases bind_eq_error_iff.1 h with h | ⟨t, -, h⟩
  · rw [Value.plainText, Value.written] at h
    split at h <;> simp at h
  · cases v <;> exact nomatch h

theorem Value.select_ne_undefined (e : PathEngine) (root : Value) (t : Text) :
    root.select t e ≠ .error (.undefined path) := by
  rw [select]
  rcases e.find ("$.".toList ++ t) root with (_ | _) | found <;> simp [Except.mapError, PathFailure.error]

theorem Value.count?_ne_undefined (v : Value) : v.count? ≠ .error (.undefined path) := by
  unfold count?
  split <;> simp

theorem Operand.bound_ne_undefined (t : Text) (v : Value) : bound t v ≠ .error (.undefined path) := by
  intro h
  rcases bind_eq_error_iff.1 h with h | ⟨n, -, h⟩
  · exact v.count?_ne_undefined h
  · cases n <;> exact nomatch h

/-! ## Variables -/

namespace ScopeStack

variable {e : PathEngine} {s : ScopeStack} {name : Text}

theorem dotted_undefined (h : s.dotted true name = .error (.undefined path)) :
    path = name ∧ s.dotted false name = .ok .nil := by
  unfold dotted at h ⊢
  cases hparts : Text.splitAtChar '.' name with
  | nil =>
      simp only [hparts, undefined, if_true, Except.error.injEq, Error.undefined.injEq] at h
      exact ⟨h.symm, rfl⟩
  | cons root keys =>
      simp only [hparts] at h ⊢
      cases hv : (s.lookup root).bind (·.descend? keys) with
      | none =>
          simp only [hv, undefined, if_true, Except.error.injEq, Error.undefined.injEq] at h
          exact ⟨h.symm, rfl⟩
      | some v => simp [hv] at h

theorem indexValue_undefined (h : s.indexValue true name = .error (.undefined path)) :
    path = name ∧ s.indexValue false name = .ok .nil := by
  unfold indexValue at h ⊢
  cases hword : Value.ofWord? name with
  | none =>
      rw [hword] at h
      exact dotted_undefined h
  | some v => simp [hword] at h

/-- **An undefined name between brackets is the key `None`**, the written form of `nil`. -/
theorem expand_undefined {fragment : Bracket.Fragment} (h : s.expand true fragment = .error (.undefined path)) :
    fragment = .name path ∧ s.expand false fragment = .ok "['None']".toList := by
  cases fragment with
  | character c => exact nomatch h
  | name t =>
      rcases bind_eq_error_iff.1 h with h | ⟨v, -, h⟩
      · obtain ⟨rfl, hvalue⟩ := indexValue_undefined h
        refine ⟨rfl, ?_⟩
        rw [expand, hvalue]
        rfl
      · exact absurd h (Bracket.written_ne_undefined v)

/-- What is undefined among the names between brackets is one of them. -/
theorem expanded_undefined (h : s.expanded true name = .error (.undefined path)) : path ∈ Bracket.names name := by
  obtain ⟨fragment, hfragment, hundefined⟩ := exists_mem_of_mapM_eq_error (map_eq_error_iff.1 h)
  obtain ⟨rfl, -⟩ := expand_undefined hundefined
  exact Bracket.mem_names_iff.2 hfragment

theorem bracketed_undefined (h : s.bracketed e true name = .error (.undefined path))
    (hindex : path ∉ Bracket.names name) : s.bracketed e false name = .ok .nil := by
  unfold bracketed at h ⊢
  cases hscope : s.scopeOf? (Bracket.root name) with
  | none => rfl
  | some scope =>
      simp only [hscope] at h ⊢
      rcases bind_eq_error_iff.1 h with h | ⟨written, hwritten, h⟩
      · exact absurd (expanded_undefined h) hindex
      · have hsame : UndefinedOrSame (s.expanded true name) (s.expanded false name) :=
          (UndefinedOrSame.mapM (expand_undefinedOrSame s) _).map List.flatten
        rw [hsame.eq_ok hwritten]
        rcases bind_eq_error_iff.1 h with h | ⟨found, hfound, h⟩
        · exact absurd h (Value.select_ne_undefined _ _ _)
        · cases found with
          | nil => simp [bind, Except.bind, hfound, undefined]
          | cons v rest => simp [pure, Except.pure] at h

theorem valueOf_undefined (h : s.valueOf e true name = .error (.undefined path))
    (hindex : path ∉ Bracket.names name) : s.valueOf e false name = .ok .nil := by
  unfold valueOf at h ⊢
  split
  · next hbracket =>
      rw [if_pos hbracket] at h
      exact bracketed_undefined h hindex
  · next hbracket =>
      rw [if_neg hbracket] at h
      exact (dotted_undefined h).2

end ScopeStack

/-! ## Operands -/

namespace Operand

variable {e : PathEngine} {s : ScopeStack}

/-- The outcome is that of a range with a bound that is no whole number. -/
def BoundRefused {α : Type} (x : Except Error α) : Prop :=
  ∃ written, x = .error (.malformed ⟨.invalidBound, some written, none⟩)

theorem BoundRefused.bind {α β : Type} {x : Except Error α} (h : BoundRefused x) (f : α → Except Error β) :
    BoundRefused (x >>= f) := by
  obtain ⟨written, rfl⟩ := h
  exact ⟨written, rfl⟩

/-- A range is refused for a bound that is `nil`, or is a refused range itself. -/
theorem boundRefused_of_undefined {x y : Except Error Value} {t : Text} (h : x >>= bound t = .error (.undefined path))
    (hxy : x = .error (.undefined path) → y = .ok .nil ∨ BoundRefused y) : BoundRefused (y >>= bound t) := by
  rcases bind_eq_error_iff.1 h with h | ⟨v, -, h⟩
  · rcases hxy h with rfl | ⟨written, rfl⟩
    · exact ⟨t, rfl⟩
    · exact BoundRefused.bind ⟨written, rfl⟩ (bound t)
  · exact absurd h (bound_ne_undefined t v)

theorem resolve_range (strict : Bool) (firstText lastText : Text) (first last : Operand) :
    (range firstText lastText first last).resolve e strict s =
      (first.resolve e strict s >>= bound firstText) >>= fun a =>
        (last.resolve e strict s >>= bound lastText) >>= fun b => .ok (.range a (b + 1)) := by
  rw [resolve]
  simp only [bind_assoc]
  rfl

/-- **What an operand is if the strict reading of it ends with an undefined variable** that is not a name between
brackets: `nil`, or a range that is refused for one of its bounds. -/
theorem resolve_undefined {o : Operand} (h : o.resolve e true s = .error (.undefined path))
    (hindex : path ∉ o.indices) : o.resolve e false s = .ok .nil ∨ BoundRefused (o.resolve e false s) := by
  induction o with
  | literal v => exact nomatch h
  | overlong => exact nomatch h
  | path written => exact .inl (ScopeStack.valueOf_undefined h hindex)
  | range firstText lastText first last ihfirst ihlast =>
      rw [indices, List.mem_append, not_or] at hindex
      rw [resolve_range] at h ⊢
      rcases bind_eq_error_iff.1 h with h | ⟨a, ha, h⟩
      · have hrefused := boundRefused_of_undefined h fun hfirst => ihfirst hfirst hindex.1
        exact .inr (hrefused.bind _)
      · -- Strict or not, the first bound is the same number, and what is left depends on the second.
        have hsame := (first.resolve_undefinedOrSame e s).bind fun v => .refl (bound firstText v)
        rw [hsame.eq_ok ha]
        rcases bind_eq_error_iff.1 h with h | ⟨b, -, h⟩
        · have hrefused := boundRefused_of_undefined h fun hlast => ihlast hlast hindex.2
          exact .inr (hrefused.bind _)
        · exact nomatch h

end Operand

namespace Context

variable {c : Context} {t : Text}

/-- **What is undefined is `nil` where it is no error**: an operand for which the strict reading ends with an undefined
variable is `nil` otherwise, or a range that is refused for one of its bounds, if the variable is not a name between
brackets. -/
theorem resolve_undefined_lax (h : (c.withStrictness true).resolve t = .error (.undefined path))
    (hindex : path ∉ (Operand.ofText t).indices) :
    (c.withStrictness false).resolve t = .ok .nil ∨
      ∃ written, (c.withStrictness false).resolve t = .error (.malformed ⟨.invalidBound, some written, none⟩) := by
  rw [resolve_withStrictness] at h ⊢
  exact Operand.resolve_undefined h hindex

/-- A key that a mapping does not have, where the key itself is the value of a variable. -/
theorem resolve_undefined_lax_key :
    let c : Context := ⟨.single [(['m'], .mapping []), (['v'], .text ['a'])],
      .standard ⟨2024, 2, 29, 0, 0, 0, 0, none⟩, {}⟩
    let t : Text := "(1..m[v])".toList
    (c.withStrictness true).resolve t = .error (.undefined "m[v]".toList) ∧
      "m[v]".toList ∉ (Operand.ofText t).indices ∧
      ((c.withStrictness false).resolve t = .ok .nil ∨
        ∃ written, (c.withStrictness false).resolve t = .error (.malformed ⟨.invalidBound, some written, none⟩)) := by
  intro c t
  have hstrict : (c.withStrictness true).resolve t = .error (.undefined "m[v]".toList) :=
    (@map_eq_error_iff _ _ _ _ (fun _ => ()) _).1 (by decide +kernel)
  have hindex : "m[v]".toList ∉ (Operand.ofText t).indices := by decide +kernel
  exact ⟨hstrict, hindex, resolve_undefined_lax hstrict hindex⟩

open Liquid.Path

/-- **An undefined variable as an index** is refused where it is an error, and is the key `None` where it is not. -/
theorem resolve_index_undefined {root name : Text} {entries : List (Value × Value)}
    (hengine : c.engine.SelectsEntries) (hroot : Text.isIdentifier root = true) (hplain : isPlainName root = true)
    (hname : Text.isIdentifier name = true) (hascii : ∀ c ∈ name, c.toNat < 128) (hword : Value.ofWord? name = none)
    (hv : c.scopes.lookup root = some (.mapping entries)) (hnone : c.scopes.lookup name = none) :
    (c.withStrictness true).resolve (root ++ '[' :: (name ++ [']'])) = .error (.undefined name) ∧
    (c.withStrictness false).resolve (root ++ '[' :: (name ++ [']'])) =
      .ok ((Value.lookupText "None".toList entries).getD .nil) := by
  have hpoint : '.' ∉ name := not_mem_of_isIdentifier hname (by decide)
  have hlast : ('[' :: (name ++ [']'])).getLast? = some ']' := by
    rw [← List.cons_append, List.getLast?_concat]
  have hundefined : c.scopes.expand true (.name name) = .error (.undefined name) := by
    rw [ScopeStack.expand, ScopeStack.indexValue, hword, ScopeStack.dotted, Text.splitAtChar_of_not_mem hpoint]
    simp [hnone, ScopeStack.undefined, bind, Except.bind]
  obtain ⟨-, hindex⟩ := ScopeStack.expand_undefined hundefined
  constructor
  · have hbracket : '[' ∉ root := not_mem_of_isIdentifier hroot (by decide)
    have hfirst : Bracket.root (root ++ '[' :: (name ++ [']'])) = root := by
      refine Bracket.root_append hroot ?_
      intro d hd
      exact .inr (by simpa using hd.symm)
    have hexpanded : c.scopes.expanded true (root ++ '[' :: (name ++ [']'])) = .error (.undefined name) := by
      rw [ScopeStack.expanded_index hbracket hname hascii, hundefined]
      rfl
    rw [resolve_of_isPlainName hroot hplain List.mem_cons_self hlast]
    change c.scopes.bracketed c.engine true _ = _
    rcases ScopeStack.scopeOf?_cases c.scopes root with ⟨-, hlookup⟩ | ⟨scope, v, hscope, -, -⟩
    · simp [hlookup] at hv
    · rw [ScopeStack.bracketed, hfirst, hscope]
      exact bind_eq_error_iff.2 (.inl hexpanded)
  · have hkey : (Step.key "None".toList).WellFormed := by decide
    rw [resolve_of_isPlainName hroot hplain List.mem_cons_self hlast]
    change c.scopes.bracketed c.engine false _ = _
    have hselect := ScopeStack.select_key hengine hroot hplain hkey hv
    rw [ScopeStack.bracketed_index hroot hname hascii hindex hv]
    change ScopeStack.reached false _ ((c.scopes.home root).select (spelling root [.key "None".toList]) c.engine) = _
    rw [hselect]
    cases Value.lookupText "None".toList entries <;> rfl

/-- The entry with the key `None` is reached by a variable that is not defined. -/
theorem resolve_index_none :
    let c : Context := ⟨.single [(['m'], .mapping [(.text "None".toList, .int 1)])],
      .standard ⟨2024, 2, 29, 0, 0, 0, 0, none⟩, {}⟩
    (c.withStrictness true).resolve "m[v]".toList = .error (.undefined ['v']) ∧
      (c.withStrictness false).resolve "m[v]".toList = .ok (.int 1) := by
  intro c
  have hfound : Value.lookupText "None".toList [(.text "None".toList, .int 1)] = some (.int 1) := by
    simp [Value.lookupText, Value.lookupKey, Value.found_text]
  have hv : c.scopes.lookup ['m'] = some (.mapping [(.text "None".toList, .int 1)]) := rfl
  have hnone : c.scopes.lookup ['v'] = none := rfl
  have hword : Value.ofWord? ['v'] = none := by
    rw [Value.ofWord?, if_neg (by decide), if_neg (by decide), if_neg (by decide)]
  have hascii : ∀ c ∈ ['v'], c.toNat < 128 := List.forall_mem_singleton.2 (by decide)
  have h := resolve_index_undefined (c := c) PathEngine.selectsEntries_standard (by decide) (by decide) (by decide)
    hascii hword hv hnone
  rw [hfound] at h
  exact h

end Context

end Liquid
