import Liquid.Proofs.Markup.FilterName
import Liquid.Proofs.Path.Indexing
import Liquid.Proofs.QuotedText
import Liquid.Proofs.Range

/-!
# Labelled arguments

An argument of a filter may have a label before it, with a colon between the two.  The label is never taken away: when
the output is rendered, label, colon and operand are looked up together, as a variable or as a range.  So the operand
is not resolved, and a labelled argument is undefined unless a variable has the colon in its name.

## Main definitions

* `FilterCall.Labelled` — an argument with a label, as it is written.

## Main statements

* `FilterCall.isArgument_iff` — an argument is an operand or a labelled one.
* `Operand.ofText_labelled` — what is looked up for a labelled argument.
* `Context.labelled_argument` — what a filter is given for a labelled argument.
* `Context.truncate_labelled_length` — a length with a label cuts nothing.
-/

namespace Liquid

namespace Text

/-- A character that is not the separator is in one of the pieces. -/
theorem exists_mem_splitAtChar {separator d : Char} {t : Text} (hd : d ≠ separator) (h : d ∈ t) :
    ∃ piece ∈ splitAtChar separator t, d ∈ piece := by
  induction t with
  | nil => exact absurd h List.not_mem_nil
  | cons c t ih =>
      by_cases hc : c = separator
      · obtain rfl := hc
        obtain ⟨piece, hpiece, hmem⟩ := ih ((List.mem_cons.1 h).resolve_left hd)
        rw [splitAtChar_cons_self]
        exact ⟨piece, List.mem_cons_of_mem [] hpiece, hmem⟩
      · obtain ⟨first, rest, ht⟩ := List.exists_cons_of_ne_nil (splitAtChar_ne_nil separator t)
        rw [splitAtChar_cons_of_ne hc ht]
        rcases List.mem_cons.1 h with rfl | h
        · exact ⟨_, List.mem_cons_self, List.mem_cons_self⟩
        · obtain ⟨piece, hpiece, hmem⟩ := ih h
          rw [ht] at hpiece
          rcases List.mem_cons.1 hpiece with rfl | hpiece
          · exact ⟨_, List.mem_cons_self, List.mem_cons_of_mem c hmem⟩
          · exact ⟨piece, List.mem_cons_of_mem _ hpiece, hmem⟩

/-- The first piece is what stands before the separator. -/
theorem splitAtChar_eq_takeWhile_cons (separator : Char) (t : Text) :
    ∃ pieces, splitAtChar separator t = t.takeWhile (· != separator) :: pieces := by
  induction t with
  | nil => exact ⟨[], rfl⟩
  | cons c t ih =>
      by_cases hc : c = separator
      · obtain rfl := hc
        rw [splitAtChar_cons_self, List.takeWhile_cons_of_neg (by simp)]
        exact ⟨_, rfl⟩
      · obtain ⟨pieces, ht⟩ := ih
        rw [splitAtChar_cons_of_ne hc ht, List.takeWhile_cons_of_pos (by simpa using hc)]
        exact ⟨_, rfl⟩

end Text

/-! ## Arguments with labels -/

namespace Token

/-- A text that three tokens take up from its beginning to its end, with blanks between them. -/
theorem exists_blanks_of_scan {t : Text} {first second third : Token} (h : scan t = .ok [first, second, third])
    (hwhole : t.length ≤ third.stop - first.position) :
    ∃ gap gap', (∀ c ∈ gap, Text.isBlank c = true) ∧ (∀ c ∈ gap', Text.isBlank c = true) ∧
      t = first.text ++ (gap ++ second.text ++ (gap' ++ third.text)) := by
  obtain ⟨⟨pieces, trailing⟩, hlayout, rfl, htokens⟩ := scan_eq_ok_iff_layout.1 h
  match pieces, htokens with
  | [p, q, r], htokens =>
      obtain ⟨rfl, rfl, rfl⟩ : _ ∧ _ ∧ _ := by simpa [Layout.tokens, Piece.tokens] using htokens
      have hblanks := hlayout.blanks
      simp only [List.forall_mem_cons] at hblanks
      have hends : p.blanks = [] ∧ trailing = [] := by
        simp only [Layout.text, Piece.source, List.flatMap_cons, List.flatMap_nil, List.length_append, List.length_nil,
          stop] at hwhole
        constructor <;> (apply List.eq_nil_of_length_eq_zero; omega)
      refine ⟨q.blanks, r.blanks, hblanks.2.1, hblanks.2.2.1, ?_⟩
      simp [Layout.text, Piece.source, hends.1, hends.2]

end Token

namespace FilterCall

/-- `Labelled label o t`: the argument `t` is the operand `o` behind a label and a colon, with blanks around the colon
or without. -/
structure Labelled (label o t : Text) : Prop where
  word : Token.Lexeme .word label
  operand : ∃ kind : TokenKind, kind.isOperand = true ∧ Token.Lexeme kind o
  written : ∃ gap gap', (∀ c ∈ gap, Text.isBlank c = true) ∧ (∀ c ∈ gap', Text.isBlank c = true) ∧
    t = label ++ (gap ++ ':' :: (gap' ++ o))

variable {label o t : Text}

/-- The tokens of a labelled argument reach from its beginning to its end. -/
theorem Labelled.exists_scan (h : Labelled label o t) : ∃ (colon operand : Token), colon.kind = .colon ∧
    operand.isOperand = true ∧ operand.stop = t.length ∧ Token.scan t = .ok [⟨.word, label, 0⟩, colon, operand] := by
  obtain ⟨hlabel, ⟨kind, hkind, ho⟩, gap, gap', hgap, hgap', rfl⟩ := h
  have hapart : Token.Apart (gap ++ ':' :: (gap' ++ o)) := by
    cases gap with
    | nil => exact Token.apart_separator rfl _
    | cons c gap => exact Token.apart_blank (hgap c List.mem_cons_self) _
  have hcolon : ∀ last ∈ [Token.mk .colon [':'] 0].getLast?, Token.Allows last.kind last.text (gap' ++ o) := by
    intro last hlast d _
    obtain rfl := Option.some.inj hlast
    rfl
  have hoperand := Token.scan_blanks_append hgap' (Token.scan_lexeme ho)
  have hbehind := (Token.scan_append_eq_ok_iff (Token.scan_lexeme .colon) hcolon).2 ⟨_, hoperand, rfl⟩
  have hscan := (Token.scan_append_eq_ok_iff (Token.scan_lexeme hlabel) fun _ _ => hapart _ _).2
    ⟨_, Token.scan_blanks_append hgap hbehind, rfl⟩
  refine ⟨_, _, rfl, ?_, ?_, hscan⟩
  · exact hkind
  · simp only [Token.stop, Token.shift, List.length_append, List.length_cons, List.length_nil]
    omega

/-- A labelled argument is one argument. -/
theorem Labelled.isArgument (h : Labelled label o t) : IsArgument t := by
  obtain ⟨colon, operand, hcolon, hoperand, hstop, hscan⟩ := h.exists_scan
  have hspells := @SpellsArgument.labelled t ⟨.word, label, 0⟩ colon operand rfl hcolon hoperand
  rw [List.drop_zero, hstop, Nat.sub_zero, List.take_length] at hspells
  exact ⟨_, hscan, hspells⟩

/-- **An argument is an operand or a labelled one.** -/
theorem isArgument_iff : IsArgument t ↔
    (∃ kind : TokenKind, kind.isOperand = true ∧ Token.Lexeme kind t) ∨ ∃ label o, Labelled label o t := by
  constructor
  · rintro ⟨run, hscan, hspells⟩
    have hlexemes := Token.lexemes_of_scan hscan
    obtain ⟨u, hu, hspells⟩ : ∃ u, u = t ∧ SpellsArgument t run u := ⟨t, rfl, hspells⟩
    cases hspells with
    | @operand operand ho =>
        have hoperand := hlexemes operand List.mem_cons_self
        rw [hu] at hoperand
        exact .inl ⟨operand.kind, ho, hoperand⟩
    | @labelled label colon operand hl hc ho =>
        simp only [List.forall_mem_cons] at hlexemes
        obtain ⟨hlabel, hcolon, hoperand, -⟩ := hlexemes
        rw [hl] at hlabel
        rw [hc] at hcolon
        have hwhole : t.length ≤ operand.stop - label.position := by
          rw [← congrArg List.length hu]
          exact List.length_take_le _ _
        obtain ⟨gap, gap', hgap, hgap', ht⟩ := Token.exists_blanks_of_scan hscan hwhole
        generalize colon.text = separator at hcolon ht
        cases hcolon with
        | colon =>
            rw [List.append_assoc gap] at ht
            exact .inr ⟨_, _, hlabel, ⟨_, ho, hoperand⟩, gap, gap', hgap, hgap', ht⟩
  · rintro (⟨kind, hkind, ht⟩ | ⟨label, o, ht⟩)
    · exact isArgument_of_lexeme ht hkind
    · exact ht.isArgument

namespace Labelled

theorem colon_mem (h : Labelled label o t) : ':' ∈ t := by
  obtain ⟨-, -, gap, gap', -, -, rfl⟩ := h
  simp

/-- A labelled argument begins with a character that is no blank and no quote. -/
theorem endsWord_head (h : Labelled label o t) : ∀ c ∈ t.head?, Token.endsWord c = false := by
  obtain ⟨hlabel, -, gap, gap', -, -, rfl⟩ := h
  cases hlabel with
  | word hw hne _ =>
      obtain ⟨c, w, rfl⟩ := List.exists_cons_of_ne_nil hne
      intro d hd
      obtain rfl : c = d := Option.some.inj hd
      exact hw.head_endsWord

/-- There are no blanks around a labelled argument. -/
theorem strip_eq_self (h : Labelled label o t) : Text.strip t = t := by
  refine Text.strip_eq_self (fun c hc => (Bool.or_eq_false_iff.1 (h.endsWord_head c hc)).1) ?_
  obtain ⟨-, ⟨kind, -, ho⟩, gap, gap', -, -, rfl⟩ := h
  have hne : o ≠ [] := by
    rintro rfl
    obtain ⟨c, body, hc, -, -⟩ := ho.next (Token.allows_nil kind [])
    exact absurd hc (List.cons_ne_nil c body).symm
  rw [List.getLast?_append_of_ne_nil _ (by simp), List.getLast?_append_of_ne_nil _ (by simp), ← List.singleton_append,
    List.getLast?_append_of_ne_nil _ (by simp [hne]), List.getLast?_append_of_ne_nil _ hne]
  exact ho.getLast_isBlank

end Labelled

end FilterCall

/-! ## What is looked up -/

namespace Operand

/-- What has a colon in it is no number. -/
theorem number?_eq_none_of_colon {t : Text} (h : ':' ∈ t) : number? t = none := by
  have hnodigits : ∀ u : Text, ':' ∈ u → ∃ piece ∈ Text.splitAtChar '.' u, isDigits piece = false := by
    intro u hu
    obtain ⟨piece, hpiece, hmem⟩ := @Text.exists_mem_splitAtChar '.' ':' u (by decide) hu
    refine ⟨piece, hpiece, ?_⟩
    rw [isDigits, Bool.and_eq_false_iff]
    exact .inr (List.all_eq_false.2 ⟨':', hmem, by decide⟩)
  unfold number?
  dsimp only
  generalize hpieces : Text.splitAtChar '.' _ = pieces
  obtain ⟨piece, hpiece, hdigits⟩ : ∃ piece ∈ pieces, isDigits piece = false := by
    rw [← hpieces]
    refine hnodigits _ ?_
    split
    · exact (List.mem_cons.1 h).resolve_left (by decide)
    · exact h
  split
  · rw [← List.mem_singleton.1 hpiece, hdigits, if_neg Bool.false_ne_true]
  · rw [if_neg]
    rcases List.mem_pair.1 hpiece with rfl | rfl <;> simp [hdigits]
  · rfl

variable {label o t : Text}

/-- **What is looked up for a labelled argument**: a range or a variable that is written with the label and the colon
in it. -/
theorem ofText_labelled (h : FilterCall.Labelled label o t) : ofText t =
    match bounds? t with
    | some (a, b) => .range a b (read a) (read b)
    | none => .path t := by
  have hword : Value.ofWord? t = none := Context.ofWord?_eq_none (d := ':') (by decide) h.colon_mem
  have hquoted : quotedBody? t = none := by
    cases t with
    | nil => rfl
    | cons c t =>
        have hends := h.endsWord_head c rfl
        rw [quotedBody?, if_neg]
        rintro ⟨rfl | rfl, -⟩ <;> exact absurd hends (by decide)
  rw [ofText, h.strip_eq_self, read]
  simp only [hword, hquoted, number?_eq_none_of_colon h.colon_mem]
  cases bounds? t <;> rfl

end Operand

/-- Without brackets a path begins with what stands before the first point. -/
theorem Bracket.root_of_not_mem {path : Text} (h : '[' ∉ path) : root path = path.takeWhile (· != '.') := by
  induction path with
  | nil => rfl
  | cons c path ih =>
      rw [List.mem_cons, not_or] at h
      have hc : c ≠ '[' := Ne.symm h.1
      rw [root] at ih ⊢
      simp [List.takeWhile_cons, hc, ih h.2]

/-- **A variable is undefined where no scope has the name that it begins with.** -/
theorem ScopeStack.valueOf_of_lookup_root_eq_none {s : ScopeStack} {path : Text}
    (h : s.lookup (Bracket.root path) = none) (e : PathEngine) (strict : Bool) :
    s.valueOf e strict path = undefined strict path := by
  rw [valueOf]
  split
  · exact bracketed_of_lookup_eq_none h
  · next hbracket =>
      obtain ⟨keys, hkeys⟩ := Text.splitAtChar_eq_takeWhile_cons '.' path
      rw [← Bracket.root_of_not_mem (by simpa using hbracket)] at hkeys
      simp [dotted, hkeys, h]

namespace FilterCall.Labelled

variable {label o t : Text}

/-- Behind an identifier as a label no range is looked up, and the name of the variable has the label and the colon in
it. -/
theorem root_of_isIdentifier (h : Labelled label o t) (hlabel : Text.isIdentifier label = true) :
    Operand.bounds? t = none ∧ ∃ rest, Bracket.root t = label ++ rest ∧ ':' ∈ rest := by
  obtain ⟨-, -, gap, gap', hgap, -, rfl⟩ := h
  constructor
  · unfold Operand.bounds?
    split
    · next he =>
        have hopen : '(' ∈ label := by
          cases label with
          | nil => exact absurd hlabel Bool.false_ne_true
          | cons c label =>
              rw [(List.cons.inj he).1]
              exact List.mem_cons_self
        exact absurd hopen (Path.not_mem_of_isIdentifier hlabel (by decide))
    · rfl
  · have hname : ∀ c ∈ label, (c != '.' && c != '[') = true := by
      intro c hc
      have hpart := Text.isIdentifierPart_of_mem hlabel hc
      have hpoint : c ≠ '.' := by
        rintro rfl
        exact absurd hpart (by decide)
      simp [hpoint, Token.ne_openBracket_of_identifierPart hpart]
    have hblank : ∀ c ∈ gap, (c != '.' && c != '[') = true := by
      intro c hc
      have hc := hgap c hc
      have hne : c ≠ '.' ∧ c ≠ '[' := by
        constructor <;> (rintro rfl; exact absurd hc (by decide))
      simp [hne.1, hne.2]
    refine ⟨gap ++ ':' :: (gap' ++ o).takeWhile fun c => c != '.' && c != '[', ?_, by simp⟩
    rw [Bracket.root, List.takeWhile_append_of_pos hname, List.takeWhile_append_of_pos hblank]
    rfl

end FilterCall.Labelled

/-! ## What a filter is given -/

/-- What a filter is applied to are the values of its arguments, each in the place of the argument. -/
theorem Output.step_eq_invoke {c : Context} {f : FilterCall} {v : Value} {args : List Value}
    (h : f.arguments.mapM c.resolve = .ok args) : Output.step c v f = c.invoke f.name v args ∧
      ∀ (i : Nat) (t : Text), f.arguments[i]? = some t → ∃ w, args[i]? = some w ∧ c.resolve t = .ok w := by
  refine ⟨by rw [step, h]; rfl, fun i t ht => ?_⟩
  obtain ⟨hlength, hvalues⟩ := List.forall₂_iff_get.1 (Outcome.mapM_eq_ok_iff.1 h)
  obtain ⟨hi, rfl⟩ := List.getElem?_eq_some_iff.1 ht
  exact ⟨_, List.getElem?_eq_getElem (hlength ▸ hi), hvalues i hi (hlength ▸ hi)⟩

namespace Context

variable {label o t : Text}

/-- **A labelled argument is looked up with its label.**  It is one argument of any filter, and the filter is given what
label, colon and operand together are the value of: a range, if they are written as one, or else a variable.  Where no
variable has a name that begins so, the argument is undefined; where undefined variables are no errors, the filter is
given `nil`, so that it is given the value of the operand only if this is `nil`.  Behind an identifier as a label there
is no range, and the name of the variable has the colon in it. -/
theorem labelled_argument (h : FilterCall.Labelled label o t) :
    FilterCall.IsArgument t ∧
    (∀ (c : Context) (f : FilterCall) (v : Value) (args : List Value), f.arguments.mapM c.resolve = .ok args →
      Output.step c v f = c.invoke f.name v args ∧
        ∀ i : Nat, f.arguments[i]? = some t → ∃ w, args[i]? = some w ∧ c.resolve t = .ok w) ∧
    (∀ c : Context, c.resolve t =
      match Operand.bounds? t with
      | some (a, b) => (Operand.range a b (.read a) (.read b)).resolve c.engine c.config.isStrict c.scopes
      | none => c.valueOf t) ∧
    (∀ c : Context, Operand.bounds? t = none → c.scopes.lookup (Bracket.root t) = none →
      c.resolve t = ScopeStack.undefined c.config.isStrict t ∧
        (c.config.isStrict = false → (c.resolve t = c.resolve o ↔ c.resolve o = .ok .nil))) ∧
    (Text.isIdentifier label = true →
      Operand.bounds? t = none ∧ ∃ rest, Bracket.root t = label ++ rest ∧ ':' ∈ rest) := by
  have hresolve : ∀ c : Context, c.resolve t =
      match Operand.bounds? t with
      | some (a, b) => (Operand.range a b (.read a) (.read b)).resolve c.engine c.config.isStrict c.scopes
      | none => c.valueOf t := by
    intro c
    rw [resolve, ScopeStack.resolve, Operand.ofText_labelled h]
    split <;> rfl
  refine ⟨h.isArgument, fun c f v args hargs => ?_, hresolve, fun c hbounds hroot => ?_, h.root_of_isIdentifier⟩
  · obtain ⟨hstep, hplaces⟩ := @Output.step_eq_invoke c f v args hargs
    exact ⟨hstep, fun i => hplaces i t⟩
  · have hundefined : c.resolve t = ScopeStack.undefined c.config.isStrict t := by
      rw [hresolve, hbounds]
      exact ScopeStack.valueOf_of_lookup_root_eq_none hroot _ _
    refine ⟨hundefined, fun hlax => ?_⟩
    rw [hundefined, hlax]
    exact eq_comm

/-- The argument `length: n` of a text: where no variable has this name, it is undefined and not the value of `n`. -/
theorem labelled_argument_length :
    let c : Context := ⟨.single [(['x'], .text "hello".toList), (['n'], .int 2)],
      .standard ⟨2024, 2, 29, 0, 0, 0, 0, none⟩, {}⟩
    FilterCall.Labelled "length".toList ['n'] "length: n".toList ∧ c.resolve "length: n".toList = .ok .nil ∧
      (c.resolve "length: n".toList = c.resolve ['n'] ↔ c.resolve ['n'] = .ok .nil) := by
  intro c
  have h : FilterCall.Labelled "length".toList ['n'] "length: n".toList :=
    ⟨Token.lexeme_of_isIdentifier (by decide) (by decide),
      ⟨.word, rfl, Token.lexeme_of_isIdentifier (by decide) (by decide)⟩, [], [' '], List.forall_mem_nil _,
      List.forall_mem_singleton.2 (by decide), by decide⟩
  obtain ⟨-, -, -, hundefined, hroot⟩ := labelled_argument h
  obtain ⟨hnil, hiff⟩ := hundefined c (hroot (by decide)).1 (by decide +kernel)
  exact ⟨h, hnil, hiff rfl⟩

/-- A length with a label cuts nothing: the filter is given `nil` in its place, and the length without a label is 2. -/
theorem truncate_labelled_length :
    let c : Context := ⟨.single [(['x'], .text "hello".toList)], .standard ⟨2024, 2, 29, 0, 0, 0, 0, none⟩, {}⟩
    let f : FilterCall := ⟨"truncate".toList, ["length: 2".toList]⟩
    FilterChain.parse "x | truncate: length: 2".toList = .ok ⟨['x'], [f]⟩ ∧
      FilterCall.Labelled "length".toList ['2'] "length: 2".toList ∧
      c.resolve ['2'] = .ok (.int 2) ∧ f.arguments.mapM c.resolve = .ok [.nil] ∧
      Output.step c (.text "hello".toList) f = .ok (.text "hello".toList) ∧
      Output.step c (.text "hello".toList) ⟨"truncate".toList, [['2']]⟩ = .ok (.text "he...".toList) := by
  intro c f
  have hparse : FilterChain.parse "x | truncate: length: 2".toList = .ok ⟨['x'], [f]⟩ :=
    Outcome.eq_ok_of_toOption (by decide +kernel)
  have hoperand : Token.scan ['2'] = .ok [⟨.word, ['2'], 0⟩] := Outcome.eq_ok_of_toOption (by decide +kernel)
  have h : FilterCall.Labelled "length".toList ['2'] "length: 2".toList :=
    ⟨Token.lexeme_of_isIdentifier (by decide) (by decide), ⟨.word, rfl, Token.lexeme_of_scan hoperand⟩, [], [' '],
      List.forall_mem_nil _, List.forall_mem_singleton.2 (by decide), by decide⟩
  have htwo : c.resolve ['2'] = .ok (.int 2) := (Denotes.decimal (c := c) (n := 2) (by decide)).resolve
  have hnil : c.resolve "length: 2".toList = .ok .nil := by
    rw [resolve, ScopeStack.resolve, Operand.ofText_labelled h]
    exact ScopeStack.valueOf_of_lookup_root_eq_none (by decide +kernel) _ _
  have hargs : f.arguments.mapM c.resolve = .ok [.nil] := Outcome.mapM_eq_ok_iff.2 (.cons hnil .nil)
  have hargs' : [['2']].mapM c.resolve = .ok [.int 2] := Outcome.mapM_eq_ok_iff.2 (.cons htwo .nil)
  refine ⟨hparse, h, htwo, hargs, ?_, ?_⟩
  · rw [Output.step, hargs]
    rfl
  · rw [Output.step, hargs']
    rfl

end Context

end Liquid
