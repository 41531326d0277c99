import Liquid.Filter.Standard
import Liquid.Node
import Liquid.Proofs.Html.Emission
import Liquid.Proofs.Outcome

/-!
# What escaping does to an output

Where outputs are escaped, a chain that does not opt out of it has `escape` behind its filters.  The filter runs
before numbers are formatted; because a formatted number is inert, it might as well run after.  So escaping
changes nothing about an output but the text that it renders to, and no error.

The filter escapes texts only.  A text is thus emitted without angle brackets and quotes, but a list is emitted
with the texts in it as they are, and other collections and objects in their written form, whatever that is.

## Main definitions

* `FilterChain.value` — the value that a chain gives.

## Main statements

* `Output.format_escape` — formatting and escaping commute.
* `Output.escaping_only_escapes` — an output with and without escaping.
* `Output.escaped_safe_iff` — when an escaped output is emitted without angle brackets and quotes.
-/

namespace Liquid

/-- The value that a chain gives: its name resolved, and its filters applied from left to right. -/
def FilterChain.value (c : Context) (chain : FilterChain) : Except Error Value := do
  chain.filters.foldlM (Output.step c) (← c.resolve chain.name)

theorem Value.eq_text_of_asText? {v : Value} {t : Text} (h : v.asText? = some t) : v = .text t := by
  cases v with
  | text s => exact congrArg Value.text (Option.some.inj h)
  | _ => exact nomatch h

theorem Value.eq_ok_text_of_asText? {x : Except Error Value} {t : Text} (h : x.toOption.bind asText? = some t) :
    x = .ok (.text t) := by
  obtain ⟨v, hv, ht⟩ := Option.bind_eq_some_iff.1 h
  rw [← eq_text_of_asText? ht]
  exact Outcome.eq_ok_of_toOption hv

/-! ## The filter that is added -/

theorem Standard.onText_eq_self {v : Value} (f : Text → Text) (h : ∀ t, v ≠ .text t) : onText f v = v := by
  cases v with
  | text t => exact absurd rfl (h t)
  | _ => rfl

theorem Registry.invoke_escape (now : Moment) (almanac : Almanac) (v : Value) :
    (standard now almanac).invoke FilterChain.escapeName v [] = .ok (Standard.onText Html.escape v) := rfl

namespace FilterChain

/-- With `escape` behind its filters, a chain gives the escaped value, and the same errors. -/
theorem value_append_escape {c : Context} {now : Moment} {almanac : Almanac} (hc : c.filters = .standard now almanac)
    (chain : FilterChain) :
    value c ⟨chain.name, chain.filters ++ [⟨escapeName, []⟩]⟩ =
      (chain.value c).map (Standard.onText Html.escape) := by
  have hstep : ∀ v, Output.step c v ⟨escapeName, []⟩ = .ok (Standard.onText Html.escape v) := by
    intro v
    rw [← Registry.invoke_escape now almanac v, ← hc]
    rfl
  unfold value
  cases c.resolve chain.name with
  | error e => rfl
  | ok v =>
      change List.foldlM (Output.step c) v (chain.filters ++ [⟨escapeName, []⟩]) =
        (List.foldlM (Output.step c) v chain.filters).map (Standard.onText Html.escape)
      rw [List.foldlM_append]
      cases List.foldlM (Output.step c) v chain.filters with
      | error e => rfl
      | ok w =>
          change List.foldlM (Output.step c) w [⟨escapeName, []⟩] = _
          rw [List.foldlM_cons, hstep]
          rfl

end FilterChain

namespace Output

theorem format_finite (negative : Bool) (m : Nat) (e : Int) :
    format (.double (.finite negative m e)) =
      if Binary64.isWhole m e then .text (Binary64.grouped negative (Binary64.wholePart m e))
      else .double (.finite negative m e) := rfl

/-- **Formatting and escaping commute**: a number is formatted to a text that escaping leaves as it is. -/
theorem format_escape (v : Value) :
    format (Standard.onText Html.escape v) = Standard.onText Html.escape (format v) := by
  cases v with
  | double x =>
      cases x with
      | finite negative m e =>
          change format (.double (.finite negative m e)) = _
          rw [format_finite]
          -- Of all values only a whole number becomes a text when it is formatted.
          by_cases hwhole : Binary64.isWhole m e = true
          · have hinert := Binary64.inert_grouped negative (Binary64.wholePart m e)
            rw [if_pos hwhole, Standard.onText, Html.escape_eq_self hinert]
          · rw [if_neg hwhole]
            rfl
      | _ => rfl
  | _ => rfl

theorem parse_eq_ok {markup : Text} {chain : FilterChain} (h : FilterChain.parse markup = .ok chain) (config : Config) :
    parse config markup = .ok ⟨markup, config, ⟨chain.name, filtersUnder config chain.filters⟩⟩ := by
  rw [parse, h]
  rfl

theorem filtersUnder_of_escapes {config : Config} {filters : List FilterCall} (hescapes : config.escapes = true)
    (hopt : FilterChain.optsOut filters = false) :
    filtersUnder config filters = filters ++ [⟨FilterChain.escapeName, []⟩] := by
  rw [filtersUnder, if_pos hescapes, FilterChain.escaped, if_neg (by simp [hopt])]

theorem filtersUnder_eq_self {config : Config} (hescapes : config.escapes = false) (filters : List FilterCall) :
    filtersUnder config filters = filters := if_neg (by simp [hescapes])

/-- An output is what its name and the filters that are applied give, formatted. -/
theorem render_eq_applied (o : Output) (c : Context) :
    o.render c = (FilterChain.value c ⟨o.name, o.applied⟩).map format := by
  change (c.resolve o.name >>= fun v => o.applied.foldlM (step c) v >>= fun w => pure (format w)) = _
  unfold FilterChain.value
  cases c.resolve o.name with
  | error e => rfl
  | ok v =>
      change (o.applied.foldlM (step c) v >>= fun w => pure (format w)) = (o.applied.foldlM (step c) v).map format
      cases o.applied.foldlM (step c) v <;> rfl

/-- Unless its name holds content of a layout, an output is what its chain gives, formatted. -/
theorem render_eq_value {o : Output} (hname : o.config.isLayoutName (Text.strip o.name) = false) (c : Context) :
    o.render c = (o.chain.value c).map format := by
  rw [render_eq_applied, applied, if_neg (by simp [hname])]
  rfl

/-! ## Outputs with and without escaping -/

/-- **Escaping changes nothing but texts.**  The same markup is read once under settings that escape outputs and once
under settings that do not, and rendered with the standard filters.  If its chain opts out of escaping, both
renderings are the same.  Otherwise they have the same errors, and where they have values, that of the first is
that of the second, escaped. -/
theorem escaping_only_escapes {markup : Text} {chain : FilterChain} (h : FilterChain.parse markup = .ok chain)
    {config : Config} (hname : config.isLayoutName (Text.strip chain.name) = false) {on off : Value}
    (hon : on.isVacant = false) (hoff : off.isVacant = true) :
    ∃ escaping plain : Output, parse { config with autoEscape := on } markup = .ok escaping ∧
      parse { config with autoEscape := off } markup = .ok plain ∧
      ∀ (scopes : ScopeStack) (now : Moment) (almanac : Almanac) (settings : Config) (engine : PathEngine),
        let c : Context := { scopes, filters := .standard now almanac, config := settings, engine }
        (FilterChain.optsOut chain.filters = true → escaping.render c = plain.render c) ∧
        (FilterChain.optsOut chain.filters = false →
          (∀ e, escaping.render c = .error e ↔ plain.render c = .error e) ∧
          ∀ v w, plain.render c = .ok v → escaping.render c = .ok w →
            c.invoke FilterChain.escapeName v [] = .ok w) := by
  have hfilterson : filtersUnder { config with autoEscape := on } chain.filters = FilterChain.escaped chain.filters :=
    if_pos (by simp [Config.escapes, hon])
  have hfiltersoff : filtersUnder { config with autoEscape := off } chain.filters = chain.filters :=
    if_neg (by simp [Config.escapes, hoff])
  refine ⟨_, _, parse_eq_ok h _, parse_eq_ok h _, fun scopes now almanac settings engine => ?_⟩
  intro c
  rw [render_eq_value hname, render_eq_value hname, hfilterson, hfiltersoff]
  refine ⟨fun hopt => ?_, fun hopt => ?_⟩
  · rw [FilterChain.escaped, if_pos hopt]
  · have hstandard : c.filters = .standard now almanac := rfl
    rw [FilterChain.escaped, if_neg (by simp [hopt]), FilterChain.value_append_escape hstandard chain]
    cases hvalue : chain.value c with
    | error failure => simp [Except.map]
    | ok value =>
        refine ⟨by simp [Except.map], fun v w hv hw => ?_⟩
        simp only [Except.map, Except.ok.injEq] at hv hw
        rw [← hw, ← hv, format_escape]
        exact Registry.invoke_escape now almanac (format value)

/-- `x | append: '<'` where `x` is `a`: the mark that is appended is escaped. -/
theorem escaping_only_escapes_append :
    let markup := "x | append: '<'".toList
    let c : Context := ⟨.single [(['x'], .text ['a'])], .standard ⟨2024, 2, 29, 0, 0, 0, 0, none⟩, {}⟩
    FilterChain.parse markup = .ok ⟨['x'], [⟨"append".toList, ["'<'".toList]⟩]⟩ ∧
      ∃ escaping, parse { autoEscape := .bool true } markup = .ok escaping ∧
        escaping.render c = .ok (.text "a&lt;".toList) := by
  intro markup c
  have h : FilterChain.parse markup = .ok ⟨['x'], [⟨"append".toList, ["'<'".toList]⟩]⟩ :=
    Outcome.eq_ok_of_toOption (by decide +kernel)
  have hname : ({} : Config).isLayoutName (Text.strip ['x']) = false := by decide +kernel
  have hon : (Value.bool true).isVacant = false := rfl
  have hoff : (Value.bool false).isVacant = true := rfl
  obtain ⟨escaping, plain, hescaping, hplain, hrender⟩ := escaping_only_escapes h hname hon hoff
  obtain ⟨herror, hvalue⟩ :=
    (hrender c.scopes ⟨2024, 2, 29, 0, 0, 0, 0, none⟩ .standard {} .standard).2 (by decide)
  have hplainvalue : plain.render c = .ok (.text "a<".toList) := by
    have htext : (render ⟨markup, {}, ⟨['x'], [⟨"append".toList, ["'<'".toList]⟩]⟩⟩ c).toOption.bind Value.asText? =
        some "a<".toList := by decide +kernel
    obtain ⟨v, hv, ht⟩ := Option.bind_eq_some_iff.1 htext
    rw [Except.ok.inj (hplain.symm.trans (parse_eq_ok h _)), ← Value.eq_text_of_asText? ht]
    exact Outcome.eq_ok_of_toOption hv
  refine ⟨h, escaping, hescaping, ?_⟩
  cases hw : escaping.render c with
  | error e => exact absurd (hplainvalue.symm.trans ((herror e).1 hw)) (by simp)
  | ok w =>
      have hinvoke := hvalue _ w hplainvalue hw
      exact hinvoke.symm

/-! ## What an escaped output emits -/

/-- Where an output stands alone, its value is emitted. -/
theorem fst_renderAll_singleton (o : Output) (c : Context) :
    (Node.renderAll [.output o] c).1 = o.render c >>= Value.emittedText := by
  have hemitted : (Node.emitted (Node.render (.output o)) c).1 = o.render c >>= Value.emittedText :=
    Outcome.fst_bind_apply rfl fun _ _ => rfl
  have hall : (Node.renderAll [.output o] c).1 = (o.render c >>= Value.emittedText) >>= fun t => .ok (t ++ []) :=
    Outcome.fst_bind_apply hemitted fun _ _ => rfl
  rw [hall]
  cases o.render c >>= Value.emittedText with
  | error e => rfl
  | ok t => exact congrArg Except.ok (List.append_nil t)

theorem emitted_of_emittedText {v : Value} {t : Text} (h : v.emittedText = .ok t) : t = v.emitted := by
  unfold Value.emittedText Value.written at h
  split at h
  · exact (Except.ok.inj h).symm
  · exact nomatch h

/-- Formatting adds no angle bracket and no quote, and takes none away. -/
theorem safe_emitted_format_iff (v : Value) : Html.Safe (format v).emitted ↔ v.isEmittedSafely = true := by
  rw [← Value.safe_emitted_iff]
  cases v with
  | double x =>
      cases x with
      | finite negative m e =>
          have hnumber : Html.Safe (Value.double (.finite negative m e)).emitted :=
            (Binary64.inert_text (.finite negative m e)).safe
          rw [format_finite]
          split
          · exact iff_of_true (Binary64.inert_grouped negative _).safe hnumber
          · rfl
      | _ => rfl
  | _ => rfl

/-- What is emitted for an escaped value is safe when the value is a text, or was safe before. -/
theorem safe_emitted_escaped_iff (v : Value) :
    Html.Safe (format (Standard.onText Html.escape v)).emitted ↔ (∃ s, v = .text s) ∨ v.isEmittedSafely = true := by
  by_cases htext : ∃ s, v = .text s
  · obtain ⟨s, rfl⟩ := htext
    exact iff_of_true (Html.safe_escape s) (.inl ⟨s, rfl⟩)
  · rw [Standard.onText_eq_self Html.escape (not_exists.1 htext), safe_emitted_format_iff, or_iff_right htext]

end Output
end Liquid
