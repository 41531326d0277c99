import Liquid.Proofs.Markup.ChainText
import Liquid.Proofs.Registration

/-!
# Names of filters in markup

A filter is registered under an identifier.  In markup an identifier is a single word, because none of its characters
ends a word and there are no brackets in it; only `contains` is read as a comparator.  So every name that a registry
accepts can be written behind a bar, but for this one.

## Main statements

* `Token.lexeme_of_isIdentifier` — an identifier is a word.
* `FilterChain.parse_registered_name` — a registered name behind a bar.
* `FilterChain.parse_registered_contains` — the name that is registered and cannot be written.
-/

namespace Liquid

namespace Token

variable {c : Char} {name : Text}

/-- The delimiters are no parts of identifiers. -/
theorem isDelimiter_of_identifierPart (h : Text.isIdentifierPart c = true) : isDelimiter c = false := by
  cases hc : isDelimiter c with
  | false => rfl
  | true =>
      simp only [isDelimiter, isQuote, Bool.or_eq_true, beq_iff_eq] at hc
      rcases hc with (((((((rfl | rfl) | rfl) | rfl) | rfl) | rfl) | rfl) | rfl) | rfl <;> exact absurd h (by decide)

theorem endsWord_of_identifierPart (h : Text.isIdentifierPart c = true) : endsWord c = false :=
  Bool.or_eq_false_iff.2 ⟨Text.isBlank_of_identifierPart h, isDelimiter_of_identifierPart h⟩

theorem ne_openBracket_of_identifierPart (h : Text.isIdentifierPart c = true) : c ≠ '[' := by
  rintro rfl
  exact absurd h (by decide)

/-- **An identifier is a word**, unless it is the comparator that is written as a word. -/
theorem lexeme_of_isIdentifier (h : Text.isIdentifier name = true) (hne : name ≠ containsWord) :
    Lexeme .word name := by
  have hnil : name ≠ [] := by
    rintro rfl
    exact Bool.false_ne_true h
  have hparts : ∀ c ∈ name, endsWord c = false ∧ c ≠ '[' := fun c hc =>
    have hpart := Text.isIdentifierPart_of_mem h hc
    ⟨endsWord_of_identifierPart hpart, ne_openBracket_of_identifierPart hpart⟩
  exact .word (.of_forall hparts) hnil hne

end Token

namespace FilterChain

/-- **A registered name behind a bar** is the filter of this name without arguments.  The one name that is not read as a
word is refused. -/
theorem parse_registered_name {r r' : Registry} {name : Text} {candidate : Option Filter}
    (h : r.register name candidate = .ok r') :
    parse ("x | ".toList ++ name) =
      if name = Token.containsWord then .error ⟨.invalidFilter, some "x | contains".toList, some 4⟩
      else .ok ⟨['x'], [⟨name, []⟩]⟩ := by
  obtain ⟨f, hf, -⟩ := Registry.register_eq_ok_iff.1 h
  have hidentifier : Text.isIdentifier name = true := hf.identifier
  split
  · next hname =>
      subst hname
      exact (@Outcome.map_eq_error_iff _ _ _ _ (fun _ => ()) _).1 (by decide +kernel)
  · next hname =>
      have hfilter : FilterCall.WellFormed ⟨name, []⟩ :=
        ⟨Token.lexeme_of_isIdentifier hidentifier hname, hidentifier, List.forall_mem_nil _⟩
      have hx : parse ['x'] = .ok ⟨['x'], []⟩ := Outcome.eq_ok_of_toOption (by decide +kernel)
      have hparse := parse_append hx (pipes_text hfilter) (Token.apart_blank rfl _)
      have htext : FilterCall.text ⟨name, []⟩ = name := List.append_nil name
      rwa [htext] at hparse

/-- A name with letters outside ASCII. -/
theorem parse_registered_name_letters :
    let f : Filter := ⟨none, fun v _ => .ok v⟩
    (∃ r, Registry.empty.register "größe_2".toList (some f) = .ok r) ∧
      parse ("x | ".toList ++ "größe_2".toList) = .ok ⟨['x'], [⟨"größe_2".toList, []⟩]⟩ := by
  intro f
  have haccepts : (⟨"größe_2".toList, some f⟩ : Registry.Call).Accepts f := ⟨by decide +kernel, rfl, rfl⟩
  have hregister := Registry.register_eq_ok_iff.2 ⟨f, haccepts, Eq.refl (Registry.empty.put _ f)⟩
  exact ⟨⟨_, hregister⟩, (parse_registered_name hregister).trans (if_neg (by decide))⟩

/-- The name `contains` is registered, and refused behind a bar. -/
theorem parse_registered_contains :
    let f : Filter := ⟨none, fun v _ => .ok v⟩
    (∃ r, Registry.empty.register "contains".toList (some f) = .ok r) ∧
      parse ("x | ".toList ++ "contains".toList) ≠ .ok ⟨['x'], [⟨"contains".toList, []⟩]⟩ := by
  intro f
  have haccepts : (⟨"contains".toList, some f⟩ : Registry.Call).Accepts f := ⟨by decide +kernel, rfl, rfl⟩
  have hrefused : (parse ("x | ".toList ++ "contains".toList)).isOk = false := by decide +kernel
  refine ⟨⟨_, Registry.register_eq_ok_iff.2 ⟨f, haccepts, rfl⟩⟩, fun h => ?_⟩
  rw [h] at hrefused
  exact absurd hrefused (by decide)

end FilterChain

end Liquid
