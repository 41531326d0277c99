import Liquid.Proofs.Escaping

/-!
# Content of a layout under escaping

A name that holds content of a layout skips the first of its filters, so that content which was escaped when it was
rendered is not escaped again.  Where outputs are escaped, `escape` stands behind the filters that are written.  It is
the first filter of a name without any filters, and is skipped there.  Otherwise the first filter that is written is
skipped in its place, and the content is escaped.

## Main statements

* `Output.layout_escaping` — content of a layout with and without escaping.
-/

namespace Liquid.Output

theorem applied_of_isLayoutName {o : Output} (h : o.config.isLayoutName (Text.strip o.name) = true) :
    o.applied = o.filters.drop 1 := if_pos h

/-- **Content of a layout is escaped behind a filter, and only there.**  The same markup, whose name holds content of a
layout, is read once under settings that escape outputs and once under settings that do not, and rendered with the
standard filters.  Without filters both renderings are the same.  If filters are written, the first rendering is the
second one, escaped. -/
theorem layout_escaping {markup : Text} {chain : FilterChain} (h : FilterChain.parse markup = .ok chain)
    {config : Config} (hname : config.isLayoutName (Text.strip chain.name) = true)
    (hopt : FilterChain.optsOut chain.filters = false) {on off : Value} (hon : on.isVacant = false)
    (hoff : off.isVacant = true) :
    ∃ escaping plain : Output, parse { config with autoEscape := on } markup = .ok escaping ∧
      parse { config with autoEscape := off } markup = .ok plain ∧
      ∀ (scopes : ScopeStack) (now : Moment) (almanac : Almanac) (settings : Config) (engine : PathEngine),
        let c : Context := { scopes, filters := .standard now almanac, config := settings, engine }
        (chain.filters = [] → escaping.render c = plain.render c) ∧
        (chain.filters ≠ [] →
          escaping.render c = plain.render c >>= fun v => c.invoke FilterChain.escapeName v []) := by
  have hescapes : Config.escapes { config with autoEscape := on } = true := by simp [Config.escapes, hon]
  have hkeeps : Config.escapes { config with autoEscape := off } = false := by simp [Config.escapes, hoff]
  refine ⟨_, _, parse_eq_ok h _, parse_eq_ok h _, fun scopes now almanac settings engine => ?_⟩
  intro c
  rw [render_eq_applied, render_eq_applied, applied_of_isLayoutName hname, applied_of_isLayoutName hname]
  simp only [filters, name, filtersUnder_of_escapes hescapes hopt, filtersUnder_eq_self hkeeps]
  constructor
  · intro hnil
    rw [hnil]
    rfl
  · intro hwritten
    obtain ⟨first, others, hfilters⟩ := List.exists_cons_of_ne_nil hwritten
    have hstandard : c.filters = .standard now almanac := rfl
    -- The filter that is skipped is the first one written; `escape` is left at the end.
    rw [hfilters, List.cons_append, List.drop_one, List.tail_cons, List.drop_one, List.tail_cons,
      FilterChain.value_append_escape hstandard ⟨chain.name, others⟩]
    cases FilterChain.value c ⟨chain.name, others⟩ with
    | error e => rfl
    | ok v =>
        change Except.ok (format (Standard.onText Html.escape v)) = _
        rw [format_escape]
        exact (Registry.invoke_escape now almanac (format v)).symm

/-- The name `body` holds content of a layout where the settings say so: it is not escaped. -/
theorem layout_escaping_body :
    let config : Config := { layoutVariable := .text "body".toList }
    let c : Context := ⟨.single [("body".toList, .text "<i>".toList)], .standard ⟨2024, 2, 29, 0, 0, 0, 0, none⟩, {}⟩
    FilterChain.parse "body".toList = .ok ⟨"body".toList, []⟩ ∧
      ∃ escaping, parse { config with autoEscape := .bool true } "body".toList = .ok escaping ∧
        escaping.render c = .ok (.text "<i>".toList) := by
  intro config c
  have h : FilterChain.parse "body".toList = .ok ⟨"body".toList, []⟩ := Outcome.eq_ok_of_toOption (by decide +kernel)
  have hname : config.isLayoutName (Text.strip "body".toList) = true := by decide +kernel
  have hon : (Value.bool true).isVacant = false := rfl
  have hoff : (Value.bool false).isVacant = true := rfl
  obtain ⟨escaping, plain, hescaping, hplain, hrender⟩ := layout_escaping h hname rfl hon hoff
  refine ⟨h, escaping, hescaping, ?_⟩
  have hsame := (hrender c.scopes ⟨2024, 2, 29, 0, 0, 0, 0, none⟩ .standard {} .standard).1 rfl
  rw [hsame, Except.ok.inj (hplain.symm.trans (parse_eq_ok h _))]
  exact Value.eq_ok_text_of_asText? (by decide +kernel)

/-- Behind `upcase`, which is skipped, content of a layout is escaped. -/
theorem layout_upcase_escaped :
    let markup := "content_for_layout | upcase".toList
    let c : Context := ⟨.single [("content_for_layout".toList, .text "<p>".toList)],
      .standard ⟨2024, 2, 29, 0, 0, 0, 0, none⟩, {}⟩
    ∃ chain escaping plain, FilterChain.parse markup = .ok chain ∧
      ({} : Config).isLayoutName (Text.strip chain.name) = true ∧ FilterChain.optsOut chain.filters = false ∧
      parse { autoEscape := .bool true } markup = .ok escaping ∧ parse {} markup = .ok plain ∧
      escaping.render c = .ok (.text "&lt;p&gt;".toList) ∧ plain.render c = .ok (.text "<p>".toList) := by
  intro markup c
  have h : FilterChain.parse markup = .ok ⟨"content_for_layout".toList, [⟨"upcase".toList, []⟩]⟩ :=
    Outcome.eq_ok_of_toOption (by decide +kernel)
  refine ⟨_, _, _, h, by decide +kernel, rfl, parse_eq_ok h _, parse_eq_ok h _, ?_, ?_⟩
  · exact Value.eq_ok_text_of_asText? (by decide +kernel)
  · exact Value.eq_ok_text_of_asText? (by decide +kernel)

end Liquid.Output
