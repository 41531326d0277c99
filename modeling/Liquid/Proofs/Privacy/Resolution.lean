import Liquid.Context
import Liquid.Proofs.Privacy.Selection

/-!
# Private attributes and operands

Two contexts whose scopes have the same public part give an operand the same value up to private attributes, or the
same error.  What a template says about one of them it says about the other, whatever it asks for: there is no operand
that reads a private attribute, not even to learn whether it is there.

## Main definitions

* `ScopeStack.publicPart` — scopes without private attributes.
* `Operand.IsPlain` — an operand that holds no object itself.

## Main statements

* `ScopeStack.valueOf_publicPart` — the value of a variable in the public part of scopes.
* `ScopeStack.resolve_publicPart` — the value of an operand in the public part of scopes.
* `Context.resolveOptional_same_public` — private attributes make no difference to an operand.
-/

namespace Liquid

theorem Value.publicPart_of_ofWord? {t : Text} {v : Value} (h : ofWord? t = some v) : v.publicPart = v := by
  unfold ofWord? at h
  split at h
  · obtain rfl := Option.some.inj h
    rfl
  · split at h
    · obtain rfl := Option.some.inj h
      rfl
    · split at h
      · obtain rfl := Option.some.inj h
        rfl
      · exact nomatch h

/-! ## Scopes -/

/-- A scope without private attributes. -/
def Scope.publicPart (s : Scope) : Scope := s.map fun e => (e.1, e.2.publicPart)

/-- A stack of scopes without private attributes. -/
def ScopeStack.publicPart (s : ScopeStack) : ScopeStack := ⟨s.inner.publicPart, s.outer.map Scope.publicPart⟩

theorem Scope.get?_publicPart (s : Scope) (name : Text) :
    s.publicPart.get? name = (s.get? name).map Value.publicPart := by
  induction s with
  | nil => rfl
  | cons e s ih =>
      obtain ⟨n, v⟩ := e
      change get? ((n, v.publicPart) :: publicPart s) name = _
      rw [get?_cons, get?_cons, ih]
      split <;> rfl

theorem Scope.toMapping_publicPart (s : Scope) : s.publicPart.toMapping = s.toMapping.publicPart := by
  simp only [toMapping, publicPart, Value.publicPart_mapping, List.map_map, Function.comp_def,
    Value.publicPart_text]

namespace ScopeStack

variable (s : ScopeStack)

theorem scopes_publicPart : s.publicPart.scopes = s.scopes.map Scope.publicPart := rfl

theorem lookup_publicPart (name : Text) : s.publicPart.lookup name = (s.lookup name).map Value.publicPart := by
  simp only [lookup, scopes_publicPart, List.findSome?_map, Function.comp_def, Scope.get?_publicPart,
    List.map_findSome?]

theorem scopeOf?_publicPart (name : Text) :
    s.publicPart.scopeOf? name = (s.scopeOf? name).map Scope.publicPart := by
  simp only [scopeOf?, scopes_publicPart, List.find?_map, Function.comp_def, Scope.get?_publicPart, Option.isSome_map]

/-! ## Variables -/

variable {e : PathEngine} (strict : Bool)

theorem undefined_publicPart (path : Text) :
    undefined strict path = (undefined strict path).map Value.publicPart := by
  cases strict <;> rfl

theorem dotted_publicPart (path : Text) :
    s.publicPart.dotted strict path = (s.dotted strict path).map Value.publicPart := by
  unfold dotted
  cases Text.splitAtChar '.' path with
  | nil => exact undefined_publicPart strict path
  | cons root keys =>
      have hreached : (s.publicPart.lookup root).bind (·.descend? keys) =
          ((s.lookup root).bind (·.descend? keys)).map Value.publicPart := by
        rw [lookup_publicPart, Option.bind_map, Option.map_bind]
        simp only [Function.comp_def, Value.descend?_publicPart]
      simp only [hreached]
      cases (s.lookup root).bind (·.descend? keys) with
      | none => exact undefined_publicPart strict path
      | some v => rfl

theorem written_publicPart (v : Value) : Bracket.written v.publicPart = Bracket.written v := by
  unfold Bracket.written
  rw [Value.plainText_publicPart]
  cases v with
  | list xs | tuple xs | set xs | frozenSet xs | mapping es | object self attributes =>
      simp only [Value.publicPart]
  | _ => rfl

/-- A name between brackets stands for the same index or key. -/
theorem expand_publicPart (fragment : Bracket.Fragment) :
    s.publicPart.expand strict fragment = s.expand strict fragment := by
  cases fragment with
  | character c => rfl
  | name t =>
      have hindex : s.publicPart.indexValue strict t = (s.indexValue strict t).map Value.publicPart := by
        unfold indexValue
        cases hword : Value.ofWord? t with
        | none => exact s.dotted_publicPart strict t
        | some v => exact congrArg Except.ok (Value.publicPart_of_ofWord? hword).symm
      rw [expand, expand, hindex]
      cases s.indexValue strict t with
      | error e => rfl
      | ok v => exact written_publicPart v

theorem bracketed_publicPart (he : e.IgnoresPrivate) (path : Text) :
    s.publicPart.bracketed e strict path = (s.bracketed e strict path).map Value.publicPart := by
  have hexpand : s.publicPart.expand strict = s.expand strict := funext (s.expand_publicPart strict)
  have hexpanded : s.publicPart.expanded strict path = s.expanded strict path := by
    rw [expanded, expanded, hexpand]
  unfold bracketed
  rw [scopeOf?_publicPart, hexpanded]
  cases s.scopeOf? (Bracket.root path) with
  | none => exact undefined_publicPart strict path
  | some scope =>
      simp only [Option.map_some, Scope.toMapping_publicPart, Value.select_publicPart he]
      refine Outcome.bind_eq_map (fun written => ?_) (s.expanded strict path)
      refine Outcome.map_bind_map (fun values => ?_) (scope.toMapping.select written e)
      cases values with
      | nil => exact undefined_publicPart strict path
      | cons v values => rfl

/-- **The value of a variable in the public part of scopes** is the public part of its value. -/
theorem valueOf_publicPart (he : e.IgnoresPrivate) (path : Text) :
    s.publicPart.valueOf e strict path = (s.valueOf e strict path).map Value.publicPart := by
  unfold valueOf
  split
  · exact s.bracketed_publicPart strict he path
  · exact s.dotted_publicPart strict path

end ScopeStack

/-! ## Operands -/

namespace Operand

/-- The values that an operand holds itself have no attributes. -/
def IsPlain : Operand → Prop
  | literal v => v.publicPart = v
  | overlong => True
  | range _ _ first last => first.IsPlain ∧ last.IsPlain
  | path _ => True

theorem isPlain_number? {t : Text} {o : Operand} (h : number? t = some o) : o.IsPlain := by
  unfold number? at h
  extract_lets unsigned at h
  split at h
  · -- digits
    split at h
    · split at h
      · obtain rfl := Option.some.inj h
        rfl
      · obtain rfl := Option.some.inj h
        trivial
    · exact nomatch h
  · -- digits, a point and digits
    split at h
    · obtain ⟨x, -, rfl⟩ := Option.map_eq_some_iff.1 h
      rfl
    · exact nomatch h
  · exact nomatch h

/-- What an operand holds is read from a text, not from the scopes. -/
theorem isPlain_read (t : Text) : (read t).IsPlain := by
  fun_induction read t with
  | case1 t v hword => exact Value.publicPart_of_ofWord? hword
  | case2 t hword body hbody => exact Value.publicPart_text body
  | case3 t hword hbody operand hnumber => exact isPlain_number? hnumber
  | case4 t hword hbody hnumber a b hbounds iha ihb => exact ⟨iha, ihb⟩
  | case5 t hword hbody hnumber hbounds => trivial

theorem bound_publicPart (written : Text) (v : Value) : bound written v.publicPart = bound written v := by
  rw [bound, bound, Value.count?_publicPart]

theorem resolve_publicPart {e : PathEngine} (he : e.IgnoresPrivate) {o : Operand} (h : o.IsPlain) (strict : Bool)
    (s : ScopeStack) : o.resolve e strict s.publicPart = (o.resolve e strict s).map Value.publicPart := by
  induction o with
  | literal v => exact congrArg Except.ok h.symm
  | overlong => rfl
  | path written => exact s.valueOf_publicPart strict he written
  | range firstText lastText first last ihfirst ihlast =>
      rw [resolve, resolve, ihfirst h.1, ihlast h.2]
      refine Outcome.map_bind_map (fun v => ?_) (first.resolve e strict s)
      rw [bound_publicPart]
      refine Outcome.bind_eq_map (fun a => ?_) (bound firstText v)
      refine Outcome.map_bind_map (fun w => ?_) (last.resolve e strict s)
      rw [bound_publicPart]
      refine Outcome.bind_eq_map (fun b => ?_) (bound lastText w)
      rfl

end Operand

/-- The value of an operand in the public part of scopes is the public part of its value. -/
theorem ScopeStack.resolve_publicPart {e : PathEngine} (he : e.IgnoresPrivate) (strict : Bool) (s : ScopeStack)
    (t : Text) : s.publicPart.resolve e strict t = (s.resolve e strict t).map Value.publicPart :=
  Operand.resolve_publicPart he (Operand.isPlain_read (Text.strip t)) strict s

namespace Context

/-- **Private attributes make no difference to an operand.**  If the settings and the engine of two contexts are the
same, the engine reads no private attribute, and the scopes are the same but for private attributes at any depth, then
every operand ends in the same error in both, or has values that are the same but for private attributes. -/
theorem resolveOptional_same_public {c d : Context} (hprivate : c.engine.IgnoresPrivate) (hengine : c.engine = d.engine)
    (hconfig : c.config = d.config) (hscopes : c.scopes.publicPart = d.scopes.publicPart) (t : Option Text) :
    (∃ e, c.resolveOptional t = .error e ∧ d.resolveOptional t = .error e) ∨
      ∃ v w, c.resolveOptional t = .ok v ∧ d.resolveOptional t = .ok w ∧ v.publicPart = w.publicPart := by
  refine Outcome.map_eq_map_iff.1 ?_
  cases t with
  | none => rfl
  | some t =>
      change (c.scopes.resolve c.engine c.config.isStrict t).map Value.publicPart =
        (d.scopes.resolve d.engine d.config.isStrict t).map Value.publicPart
      rw [← hengine, ← ScopeStack.resolve_publicPart hprivate, ← ScopeStack.resolve_publicPart hprivate, hconfig,
        hscopes]

/-- A user with a secret, in two contexts that differ in it: both find the user, with the same public part. -/
theorem resolveOptional_same_public_secret :
    let user (secret : Value) : Value :=
      .object (.plain 1) [("_secret".toList, secret), ("name".toList, .text "Ann".toList)]
    let context (secret : Value) : Context := ⟨.single [("user".toList, user secret)], .empty, {}⟩
    (context (.int 1)).scopes.publicPart = (context (.int 2)).scopes.publicPart ∧
      ∃ v w, (context (.int 1)).resolveOptional (some "user".toList) = .ok v ∧
        (context (.int 2)).resolveOptional (some "user".toList) = .ok w ∧ v.publicPart = w.publicPart := by
  intro user context
  have hscopes : (context (.int 1)).scopes.publicPart = (context (.int 2)).scopes.publicPart := rfl
  have hfound : ((context (.int 1)).resolveOptional (some "user".toList)).isOk = true := by decide +kernel
  have hconfig : (context (.int 1)).config = (context (.int 2)).config := rfl
  have hengine : (context (.int 1)).engine = (context (.int 2)).engine := rfl
  refine ⟨hscopes, ?_⟩
  have hsame := resolveOptional_same_public PathEngine.ignoresPrivate_standard hengine hconfig hscopes
    (some "user".toList)
  rcases hsame with ⟨e, he, -⟩ | hvalues
  · rw [he] at hfound
    exact nomatch hfound
  · exact hvalues

end Context
end Liquid
