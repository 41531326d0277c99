import Liquid.Logic
import Liquid.Proofs.Blanks
import Liquid.Proofs.Escaping
import Liquid.Proofs.Markup.ChainText

/-!
# Quoted texts

A text between two equal quotes is one token, whatever stands in it but this quote.  It is passed on as it is written,
into conditions and into the arguments of filters, and is read a second time as an operand, which only takes the quotes
away.  So no part of the way cuts it, trims it or takes it for anything else than a text.

## Main statements

* `Token.strip_of_scan` — a text with a single token is the token with blanks around it.
* `Operand.ofText_quoted` — a quoted text as an operand.
* `Expression.parse_equal_quoted`, `FilterChain.parse_append_quoted` — quoted texts in a condition and in a chain.
* `Context.quoted_text_opaque` — a quoted text from the markup to the comparison and to the output.
-/

namespace Liquid

namespace Token

/-! ## Texts with a single token -/

theorem WordParts.getLast_endsWord {w : Text} (h : WordParts w) : ∀ c ∈ w.getLast?, endsWord c = false := by
  induction h with
  | nil => exact nofun
  | @character c t hc _ _ ih =>
      cases t with
      | nil =>
          intro d hd
          obtain rfl : c = d := Option.some.inj hd
          exact hc
      | cons d t => rwa [List.getLast?_cons_cons]
  | @group inner t _ _ ih =>
      rw [← List.cons_append, List.getLast?_append_of_ne_nil _ (List.cons_ne_nil ']' t)]
      cases t with
      | nil =>
          intro d hd
          obtain rfl : ']' = d := Option.some.inj hd
          decide
      | cons d t => rwa [List.getLast?_cons_cons]

/-- No lexeme ends with a blank. -/
theorem Lexeme.getLast_isBlank {kind : TokenKind} {text : Text} (h : Lexeme kind text) :
    ∀ c ∈ text.getLast?, Text.isBlank c = false := by
  cases h with
  | @quoted quote body hq _ =>
      rw [← List.cons_append, List.getLast?_concat]
      intro c hc
      obtain rfl : quote = c := Option.some.inj hc
      exact isBlank_of_isQuote hq
  | pipe | comma | colon =>
      intro c hc
      obtain rfl := Option.some.inj hc
      decide
  | comparator comparator =>
      intro c hc
      cases comparator <;> (obtain rfl := Option.some.inj hc; decide)
  | word hw _ _ => exact fun c hc => (Bool.or_eq_false_iff.1 (hw.getLast_endsWord c hc)).1

/-- **A text with a single token is the token with blanks around it.** -/
theorem strip_of_scan {t : Text} {token : Token} (h : scan t = .ok [token]) : Text.strip t = token.text := by
  obtain ⟨⟨pieces, trailing⟩, hlayout, rfl, htokens⟩ := scan_eq_ok_iff_layout.1 h
  rcases pieces with _ | ⟨p, _ | ⟨q, rest⟩⟩
  · exact absurd htokens.symm (List.cons_ne_nil token [])
  · obtain ⟨hblanks, hlexemes, htrailing, -⟩ := hlayout
    rw [List.forall_mem_singleton] at hblanks hlexemes
    obtain ⟨rfl⟩ := List.singleton_inj.1 htokens
    obtain ⟨c, body, hc, hb, -⟩ := hlexemes.next (allows_nil p.kind p.text)
    have hne : p.text ≠ [] := by
      rw [hc]
      exact List.cons_ne_nil c body
    have hfirst : ∀ d ∈ p.text.head?, Text.isBlank d = false := by
      intro d hd
      rw [hc] at hd
      obtain rfl : c = d := Option.some.inj hd
      exact hb
    have htext : Layout.text ⟨[p], trailing⟩ = p.blanks ++ (p.text ++ trailing) := by
      simp [Layout.text, Piece.source]
    rw [htext]
    exact Text.strip_append_blanks hblanks htrailing hne hfirst hlexemes.getLast_isBlank
  · exact absurd (List.cons.inj htokens).2 (List.cons_ne_nil _ _)

theorem Lexeme.strip_eq_self {kind : TokenKind} {text : Text} (h : Lexeme kind text) : Text.strip text = text :=
  strip_of_scan (scan_lexeme h)

end Token

/-! ## Operands -/

namespace Operand

/-- **A quoted text is an operand as it stands between the quotes.** -/
theorem ofText_quoted {q : Char} {s : Text} (hq : isQuote q = true) (hs : q ∉ s) :
    ofText (q :: (s ++ [q])) = .literal (.text s) := by
  have hquote : q = '\'' ∨ q = '"' := by simpa [isQuote] using hq
  have hword : Value.ofWord? (q :: (s ++ [q])) = none := by
    rcases hquote with rfl | rfl <;> simp [Value.ofWord?]
  have hbody : quotedBody? (q :: (s ++ [q])) = some s := by
    rw [quotedBody?, if_pos ⟨hquote, List.getLast?_concat⟩, List.dropLast_concat]
  rw [ofText, (Token.Lexeme.quoted hq hs).strip_eq_self, read]
  simp only [hword, hbody]

/-- An operand is the only token of its text, whatever blanks are around it. -/
theorem ofText_of_scan {t : Text} {token : Token} (h : Token.scan t = .ok [token]) : ofText t = ofText token.text := by
  rw [ofText, ofText, Token.strip_of_scan h, (Token.lexeme_of_scan h).strip_eq_self]

end Operand

/-! ## Quoted texts in markup -/

section

variable {q : Char} {s x w : Text} {position : Nat}

theorem Token.scan_quoted (hq : isQuote q = true) (hs : q ∉ s) :
    scan (q :: (s ++ [q])) = .ok [⟨.quoted, q :: (s ++ [q]), 0⟩] := scan_lexeme (.quoted hq hs)

/-- A word compared with a quoted text. -/
theorem Expression.parse_equal_quoted (hq : isQuote q = true) (hs : q ∉ s)
    (hx : Token.scan x = .ok [⟨.word, w, position⟩]) (hand : w ≠ Connective.and.text) (hor : w ≠ Connective.or.text)
    (tag : Text) :
    parse tag (x ++ " == ".toList ++ q :: (s ++ [q])) = .ok ⟨[⟨w, some (.equal, q :: (s ++ [q]))⟩], [.and]⟩ := by
  have hword : isConnective ⟨.word, w, position⟩ = false :=
    Bool.or_eq_false_iff.2 ⟨beq_eq_false_iff_ne.2 hand, beq_eq_false_iff_ne.2 hor⟩
  have htext : x ++ " == ".toList ++ q :: (s ++ [q]) =
      x ++ ([' '] ++ (Comparator.equal.text ++ ([' '] ++ q :: (s ++ [q])))) := List.append_assoc x _ _
  rw [htext]
  refine parse_comparison_of_scan hx (Token.scan_quoted hq hs) rfl rfl ?_ tag .equal
  exact List.forall_mem_cons.2 ⟨hword, List.forall_mem_singleton.2 rfl⟩

theorem Expression.evaluate_singleton {condition : Condition} {c : Context} {v : Value}
    (h : condition.interpret c = .ok v) : evaluate c ⟨[condition], [.and]⟩ = .ok v.isTruthy := by
  have hvalues : [condition].mapM (Condition.interpret c) = .ok [v] := by
    rw [List.mapM_cons, h]
    rfl
  have hlength : [condition].length = [Connective.and].length := rfl
  rw [evaluate, Logic.evaluate_ok (List.cons_ne_nil condition []) hlength hvalues]
  simp [Logic.verdict, Logic.verdictFrom]

/-- A quoted text appended to a word. -/
theorem FilterChain.parse_append_quoted (hq : isQuote q = true) (hs : q ∉ s)
    (hx : Token.scan x = .ok [⟨.word, w, position⟩]) :
    parse (x ++ " | append: ".toList ++ q :: (s ++ [q])) =
      .ok ⟨w, [⟨"append".toList, [q :: (s ++ [q])]⟩]⟩ := by
  have hname : parse x = .ok ⟨w, []⟩ := parse_eq_ok_iff_scan.2 ⟨_, hx, .chain rfl .none⟩
  have hargument : FilterCall.IsArgument (q :: (s ++ [q])) :=
    FilterCall.isArgument_of_lexeme (.quoted hq hs) rfl
  have happend : Token.scan "append".toList = .ok [⟨.word, "append".toList, 0⟩] :=
    Outcome.eq_ok_of_toOption (by decide +kernel)
  have hidentifier : Text.isIdentifier "append".toList = true := by decide
  have hfilter : FilterCall.WellFormed ⟨"append".toList, [q :: (s ++ [q])]⟩ :=
    ⟨Token.lexeme_of_scan happend, hidentifier, List.forall_mem_singleton.2 hargument⟩
  rw [List.append_assoc]
  exact parse_append hname (pipes_text hfilter) (Token.apart_blank rfl _)

end

/-! ## Quoted texts rendered -/

theorem FilterChain.value_singleton {c : Context} {name : Text} {f : FilterCall} {v w : Value}
    (hname : c.resolve name = .ok v) (hf : Output.step c v f = .ok w) : value c ⟨name, [f]⟩ = .ok w := by
  rw [value, hname]
  change List.foldlM (Output.step c) v [f] = _
  rw [List.foldlM_cons, hf]
  rfl

theorem Registry.invoke_append (now : Moment) (almanac : Almanac) (v suffix : Value) :
    (standard now almanac).invoke "append".toList v [suffix] = Standard.append v suffix := rfl

namespace Context

variable {q : Char} {s x w : Text} {position : Nat} {c : Context} {v : Value}

theorem resolve_quoted (hq : isQuote q = true) (hs : q ∉ s) (c : Context) :
    c.resolve (q :: (s ++ [q])) = .ok (.text s) := by
  rw [resolve, ScopeStack.resolve, Operand.ofText_quoted hq hs]
  rfl

theorem resolve_of_scan {token : Token} (hx : Token.scan x = .ok [token]) (c : Context) :
    c.resolve token.text = c.resolve x := by
  rw [resolve, resolve, ScopeStack.resolve, ScopeStack.resolve, Operand.ofText_of_scan hx]

/-- **A quoted text is passed on as it is**, from the markup to a comparison and to an output.  Behind a word that is no
connective, a quoted text is the other side of a comparison, and what is compared is the text between the quotes.  As
the argument of `append` it stands behind the value of the word, unchanged. -/
theorem quoted_text_opaque (hq : isQuote q = true) (hs : q ∉ s) (hx : Token.scan x = .ok [⟨.word, w, position⟩])
    (hand : w ≠ Connective.and.text) (hor : w ≠ Connective.or.text) (hv : c.resolve x = .ok v) :
    let quoted : Text := q :: (s ++ [q])
    let condition : Condition := ⟨w, some (.equal, quoted)⟩
    Text.strip x = w ∧
    (∀ tag, Expression.parse tag (x ++ " == ".toList ++ quoted) = .ok ⟨[condition], [.and]⟩) ∧
    condition.interpret c = .ok (.bool (Value.equal v (.text s))) ∧
    Expression.evaluate c ⟨[condition], [.and]⟩ = .ok (Value.equal v (.text s)) ∧
    ∀ (config : Config) (now : Moment) (almanac : Almanac) (t : Text), config.escapes = false →
      config.isLayoutName w = false → c.filters = .standard now almanac → v = .text t ∨ v = .nil ∧ t = [] →
      ∃ o, Output.parse config (x ++ " | append: ".toList ++ quoted) = .ok o ∧ o.render c = .ok (.text (t ++ s)) := by
  intro quoted condition
  have hw : c.resolve w = .ok v := (resolve_of_scan hx c).trans hv
  have hquoted : c.resolve quoted = .ok (.text s) := resolve_quoted hq hs c
  have hinterpret : condition.interpret c = .ok (.bool (Value.equal v (.text s))) := by
    simp only [condition, Condition.interpret, hw, hquoted, bind, Except.bind, Comparator.holds_equal]
    rfl
  refine ⟨Token.strip_of_scan hx, Expression.parse_equal_quoted hq hs hx hand hor, hinterpret, ?_, ?_⟩
  · rw [Expression.evaluate_singleton hinterpret]
    cases Value.equal v (.text s) <;> rfl
  · intro config now almanac t hkeeps hlayout hfilters ht
    have hname : config.isLayoutName (Text.strip w) = false := by
      rwa [(Token.lexeme_of_scan hx).strip_eq_self]
    refine ⟨_, Output.parse_eq_ok (FilterChain.parse_append_quoted hq hs hx) config, ?_⟩
    have happend : Standard.append v (.text s) = .ok (.text (t ++ s)) := by
      rcases ht with rfl | ⟨rfl, rfl⟩ <;> rfl
    have hstep : Output.step c v ⟨"append".toList, [quoted]⟩ = .ok (.text (t ++ s)) := by
      rw [Output.step, List.mapM_cons, hquoted, ← happend, ← Registry.invoke_append now almanac v (.text s), ← hfilters]
      rfl
    rw [Output.render_eq_value hname, Output.filtersUnder_eq_self hkeeps, FilterChain.value_singleton hw hstep]
    rfl

/-- A connective, a bar, a colon, a comma, a comparator, a bracket and apostrophes between the other quotes. -/
theorem quoted_text_opaque_syntax :
    let s : Text := " or 'a' | b: [c, d == e ".toList
    let c : Context := ⟨.single [(['x'], .text ['t'])], .standard ⟨2024, 2, 29, 0, 0, 0, 0, none⟩, {}⟩
    Expression.parse "unless".toList ("x".toList ++ " == ".toList ++ '"' :: (s ++ ['"'])) =
        .ok ⟨[⟨['x'], some (.equal, '"' :: (s ++ ['"']))⟩], [.and]⟩ ∧
      ∃ o, Output.parse {} ("x".toList ++ " | append: ".toList ++ '"' :: (s ++ ['"'])) = .ok o ∧
        o.render c = .ok (.text ("t".toList ++ s)) := by
  intro s c
  have hs : '"' ∉ s := by decide
  have hx : Token.scan "x".toList = .ok [⟨.word, ['x'], 0⟩] := Outcome.eq_ok_of_toOption (by decide +kernel)
  have hv : c.resolve "x".toList = .ok (.text ['t']) := Value.eq_ok_text_of_asText? (by decide +kernel)
  obtain ⟨-, hparse, -, -, hrender⟩ := quoted_text_opaque (by decide) hs hx (by decide) (by decide) hv
  have hlayout : Config.isLayoutName {} ['x'] = false := by decide +kernel
  exact ⟨hparse _, hrender {} _ _ ['t'] rfl hlayout rfl (.inl rfl)⟩

end Context

end Liquid
