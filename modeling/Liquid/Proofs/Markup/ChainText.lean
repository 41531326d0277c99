import Liquid.Proofs.Markup.Chain
import Liquid.Proofs.Markup.Joining

/-!
# Chains as they are written

What a run of tokens says as an argument, as a filter or as a chain does not depend on where it stands: a labelled
argument is taken from the source, but only from its label to its operand.  So the tokens of a part of a markup say
the same in every markup that has this part.  A bar ends every token, so filters behind a bar may be added to any
chain; and a chain that was read is read again from its written form.

## Main definitions

* `Token.Preserves` — tokens that are moved to another text with what stands between them.
* `FilterCall.WellFormed`, `FilterChain.WellFormed` — filters and chains that have a written form.
* `FilterChain.Pipes` — a text that is filters, each behind a bar.

## Main statements

* `FilterChain.parse_append` — a chain with more filters behind it.
* `FilterChain.pipes_of_parse_append` — what stands behind an operand is filters.
* `FilterChain.WellFormed.parse_text` — the written form of a chain is read back.
* `FilterChain.parse_text_and_append` — both for every chain that is read.
-/

namespace Liquid

/-! ## Tokens moved to another text -/

namespace Token

/-- A token with its offset changed. -/
def relocate (g : Nat → Nat) (token : Token) : Token := { token with position := g token.position }

/-- `Preserves s s' g run`: the offsets of the tokens `run` of the text `s` are changed into those of tokens of `s'`,
and what stands from one of them to another stays. -/
def Preserves (s s' : Text) (g : Nat → Nat) (run : List Token) : Prop :=
  ∀ first ∈ run, ∀ last ∈ run, source s' [relocate g first, relocate g last] = source s [first, last]

variable {s s' a b : Text} {g : Nat → Nat} {run : List Token}

theorem Preserves.subset {part : List Token} (h : Preserves s s' g run) (hpart : part ⊆ run) : Preserves s s' g part :=
  fun first hfirst last hlast => h first (hpart hfirst) last (hpart hlast)

/-- The tokens of the first of two texts stay where they are. -/
theorem preserves_left (hstop : ∀ token ∈ run, token.stop ≤ a.length) (b : Text) : Preserves a (a ++ b) id run := by
  intro first hfirst last hlast
  refine source_append_left fun token htoken => ?_
  rcases List.mem_pair.1 htoken with rfl | rfl
  · exact hstop _ hfirst
  · exact hstop _ hlast

/-- The tokens of the second of two texts stand behind the first. -/
theorem preserves_right (a b : Text) (run : List Token) : Preserves b (a ++ b) (· + a.length) run := by
  intro first _ last _
  exact @source_append_right a b [first, last] a.length rfl

/-- The tokens of a text behind a separator and a blank. -/
theorem preserves_separated (a b : Text) (c : Char) (run : List Token) :
    Preserves b (a ++ c :: ' ' :: b) (· + (a.length + 2)) run := by
  have hright := preserves_right (a ++ [c, ' ']) b run
  rwa [List.append_assoc, List.length_append] at hright

/-- What stands behind the first of two texts are tokens of the second alone. -/
theorem preserves_behind (a b : Text) (run : List Token) :
    Preserves (a ++ b) b (· - a.length) (run.map (shift a.length)) := by
  refine List.forall_mem_map.2 fun first _ => List.forall_mem_map.2 fun last _ => ?_
  have hback : ∀ token, relocate (· - a.length) (shift a.length token) = token := by
    intro token
    simp [relocate, shift]
  rw [hback, hback]
  exact (@source_append_right a b [first, last] a.length rfl).symm

theorem map_relocate_id (run : List Token) : run.map (relocate id) = run := List.map_id run

theorem map_relocate_shift (k : Nat) (run : List Token) : (run.map (shift k)).map (relocate (· - k)) = run := by
  simp [relocate, shift, Function.comp_def]

/-! ## Tokens side by side -/

theorem lexeme_separator {c : Char} {kind : TokenKind} (h : separator? c = some kind) : Lexeme kind [c] := by
  rcases separator?_eq_some_iff.1 h with ⟨rfl, rfl⟩ | ⟨rfl, rfl⟩ | ⟨rfl, rfl⟩
  · exact .pipe
  · exact .comma
  · exact .colon

/-- A separator is no part of any lexeme that it stands behind. -/
theorem standsBefore_separator {c : Char} {separator : TokenKind} (h : separator? c = some separator)
    (kind : TokenKind) (text : Text) : standsBefore kind text c = true := by
  have hends : endsWord c = true := by
    rcases separator?_eq_some_iff.1 h with ⟨rfl, -⟩ | ⟨rfl, -⟩ | ⟨rfl, -⟩ <;> decide
  have hwide : ∀ d, isWideComparator d c = false := by
    intro d
    cases hd : isWideComparator d c with
    | false => rfl
    | true =>
        rcases isWideComparator_eq_true_iff.1 hd with ⟨rfl, -⟩ | ⟨-, rfl⟩ <;> simp [separator?] at h
  unfold standsBefore
  split <;> simp [hends, hwide]

/-- A text that every token may stand before: it is empty, or begins with a blank or a separator. -/
def Apart (t : Text) : Prop := ∀ kind text, Allows kind text t

theorem apart_nil : Apart [] := allows_nil

theorem apart_blank {c : Char} (h : Text.isBlank c = true) (t : Text) : Apart (c :: t) := by
  intro kind text d hd
  obtain rfl : c = d := Option.some.inj hd
  exact standsBefore_of_isBlank kind text h

theorem apart_separator {c : Char} {kind : TokenKind} (h : separator? c = some kind) (t : Text) : Apart (c :: t) := by
  intro kind text d hd
  obtain rfl : c = d := Option.some.inj hd
  exact standsBefore_separator h kind text

/-- The tokens of two texts with a separator and a blank between them. -/
theorem scan_separated {a b : Text} {ts us : List Token} {c : Char} {kind : TokenKind} (ha : scan a = .ok ts)
    (hc : separator? c = some kind) (hb : scan b = .ok us) :
    scan (a ++ c :: ' ' :: b) = .ok (ts ++ ⟨kind, [c], a.length⟩ :: us.map (shift (a.length + 2))) := by
  have hsecond := scan_append_space (scan_lexeme (lexeme_separator hc)) hb
  refine (scan_append_eq_ok_iff ha fun last _ => apart_separator hc _ _ _).2 ⟨_, hsecond, ?_⟩
  simp only [List.map_cons, List.map_map, Function.comp_def, shift_shift, List.singleton_append, List.length_singleton]
  simp [shift]

end Token

/-! ## What tokens spell in another text -/

section Relocate

variable {s s' : Text} {g : Nat → Nat} {run : List Token}

theorem FilterCall.SpellsArgument.relocate {t : Text} (h : SpellsArgument s run t) (hg : Token.Preserves s s' g run) :
    SpellsArgument s' (run.map (Token.relocate g)) t := by
  cases h with
  | operand ho => exact .operand ho
  | @labelled label colon operand hl hc ho =>
      -- The text of the argument is the source from its label to its operand; the colon is not looked at.
      have hslice := hg label (by simp) operand (by simp)
      change SpellsArgument s' _ (Token.source s [label, operand])
      rw [← hslice]
      exact .labelled hl hc ho

theorem FilterCall.SpellsArguments.relocate {ts : List Text} (h : SpellsArguments s run ts)
    (hg : Token.Preserves s s' g run) : SpellsArguments s' (run.map (Token.relocate g)) ts := by
  induction h with
  | last ha => exact .last (ha.relocate hg)
  | @more run rest comma t ts ha hc _ ih =>
      have hrest : rest ⊆ run ++ comma :: rest := by simp
      rw [List.map_append, List.map_cons]
      exact .more (ha.relocate (hg.subset (List.subset_append_left _ _))) hc (ih (hg.subset hrest))

theorem FilterCall.Spells.relocate {f : FilterCall} (h : Spells s run f) (hg : Token.Preserves s s' g run) :
    Spells s' (run.map (Token.relocate g)) f := by
  cases h with
  | bare hk hn => exact .bare hk hn
  | @applied name colon run ts hk hn hc ha =>
      have harguments : run ⊆ name :: colon :: run := by simp
      exact .applied hk hn hc (ha.relocate (hg.subset harguments))

theorem FilterChain.SpellsFilters.relocate {fs : List FilterCall} (h : SpellsFilters s run fs)
    (hg : Token.Preserves s s' g run) : SpellsFilters s' (run.map (Token.relocate g)) fs := by
  induction h with
  | none => exact .none
  | @more bar run rest f fs hb hf _ ih =>
      have hrun : run ⊆ bar :: (run ++ rest) := by simp
      have hrest : rest ⊆ bar :: (run ++ rest) := by simp
      rw [List.map_cons, List.map_append]
      exact .more hb (hf.relocate (hg.subset hrun)) (ih (hg.subset hrest))

end Relocate

/-! ## Filters as they are written -/

namespace FilterCall

/-- A text that is an argument. -/
def IsArgument (t : Text) : Prop := ∃ run, Token.scan t = .ok run ∧ SpellsArgument t run t

/-- A filter that has a written form: its name is an identifier that is read as a word, and its arguments are
arguments. -/
structure WellFormed (f : FilterCall) : Prop where
  word : Token.Lexeme .word f.name
  identifier : Text.isIdentifier f.name = true
  arguments : ∀ t ∈ f.arguments, IsArgument t

theorem isArgument_of_lexeme {kind : TokenKind} {t : Text} (h : Token.Lexeme kind t) (hkind : kind.isOperand = true) :
    IsArgument t := ⟨_, Token.scan_lexeme h, .operand hkind⟩

section

variable {source : Text} {tokens run : List Token}

/-- A run of the tokens of a text is a run of the tokens of its source. -/
theorem exists_scan_source {first : Token} {others : List Token} (h : Token.scan source = .ok tokens)
    (hrun : first :: others <:+: tokens) : ∃ run, first :: others = run.map (Token.shift first.position) ∧
      Token.scan (Token.source source (first :: others)) = .ok run := by
  obtain ⟨before, after, rfl⟩ := hrun
  rw [List.append_assoc] at h
  exact Token.scan_source h

/-- An argument in a text is an argument by itself. -/
theorem SpellsArgument.isArgument {t : Text} (hargument : SpellsArgument source run t)
    (h : Token.scan source = .ok tokens) (hrun : run <:+: tokens) : IsArgument t := by
  cases hargument with
  | @operand operand ho =>
      have hlexeme := Token.lexemes_of_scan h operand (hrun.subset List.mem_cons_self)
      exact isArgument_of_lexeme hlexeme ho
  | @labelled label colon operand hl hc ho =>
      obtain ⟨run, hshift, hscan⟩ := exists_scan_source h hrun
      obtain ⟨label', rest, rfl, hlabel, hrest⟩ := List.map_eq_cons_iff.1 hshift.symm
      obtain ⟨colon', rest, rfl, hcolon, hrest⟩ := List.map_eq_cons_iff.1 hrest
      obtain ⟨operand', rfl, hoperand⟩ := List.map_eq_singleton_iff.1 hrest
      rw [← hlabel] at hl
      rw [← hcolon] at hc
      rw [← hoperand] at ho
      have hspells : SpellsArgument (Token.source source [label, colon, operand]) [label', colon', operand']
          (Token.source _ [label', colon', operand']) := .labelled hl hc ho
      rw [Token.source_source hshift] at hspells
      exact ⟨_, hscan, hspells⟩

/-- The arguments that a run of tokens spells are arguments, and there is one at least. -/
theorem SpellsArguments.isArgument {ts : List Text} (harguments : SpellsArguments source run ts)
    (h : Token.scan source = .ok tokens) (hrun : run <:+: tokens) : ts ≠ [] ∧ ∀ t ∈ ts, IsArgument t := by
  induction harguments with
  | last ha => exact ⟨List.cons_ne_nil _ _, List.forall_mem_singleton.2 (ha.isArgument h hrun)⟩
  | @more run rest comma t ts ha _ _ ih =>
      have hfirst : run <:+: tokens := (List.prefix_append run (comma :: rest)).isInfix.trans hrun
      have hrest : rest <:+: tokens := (List.suffix_append_of_suffix (List.suffix_cons comma rest)).isInfix.trans hrun
      exact ⟨List.cons_ne_nil _ _, List.forall_mem_cons.2 ⟨ha.isArgument h hfirst, (ih hrest).2⟩⟩

/-- A filter that is read has a written form. -/
theorem Spells.wellFormed {f : FilterCall} (hspells : Spells source run f) (h : Token.scan source = .ok tokens)
    (hrun : run <:+: tokens) : f.WellFormed := by
  have hlexemes := Token.lexemes_of_scan h
  cases hspells with
  | @bare name hk hn =>
      have hword := hlexemes name (hrun.subset List.mem_cons_self)
      rw [hk] at hword
      exact ⟨hword, hn, List.forall_mem_nil _⟩
  | @applied name colon run ts hk hn hc ha =>
      have hword := hlexemes name (hrun.subset List.mem_cons_self)
      rw [hk] at hword
      have harguments : run <:+: tokens := (List.suffix_append [name, colon] run).isInfix.trans hrun
      exact ⟨hword, hn, (ha.isArgument h harguments).2⟩

end

theorem join_cons_cons (t u : Text) (ts : List Text) :
    Text.join ", ".toList (t :: u :: ts) = t ++ ',' :: ' ' :: Text.join ", ".toList (u :: ts) := by
  simp [Text.join]

/-- Arguments with commas between them are read as arguments. -/
theorem exists_spells_join {t : Text} {ts : List Text} (h : ∀ u ∈ t :: ts, IsArgument u) :
    ∃ run, Token.scan (Text.join ", ".toList (t :: ts)) = .ok run ∧
      SpellsArguments (Text.join ", ".toList (t :: ts)) run (t :: ts) := by
  induction ts generalizing t with
  | nil =>
      obtain ⟨run, hscan, hspells⟩ := h t List.mem_cons_self
      exact ⟨run, hscan, .last hspells⟩
  | cons u ts ih =>
      rw [List.forall_mem_cons] at h
      obtain ⟨⟨first, hfirst, hspells⟩, hmore⟩ := h
      obtain ⟨rest, hrest, hspells'⟩ := ih hmore
      -- The first argument stays where it was, and the others stand behind the comma.
      have hleft := hspells.relocate (Token.preserves_left (Token.stop_le_of_scan hfirst)
        (',' :: ' ' :: Text.join ", ".toList (u :: ts)))
      have hright := hspells'.relocate (Token.preserves_separated t _ ',' rest)
      rw [Token.map_relocate_id] at hleft
      have hcomma : Token.separator? ',' = some .comma := rfl
      have hscan := Token.scan_separated hfirst hcomma hrest
      rw [← join_cons_cons] at hleft hright hscan
      exact ⟨_, hscan, .more hleft rfl hright⟩

/-- A filter that has a written form is read from it. -/
theorem WellFormed.exists_spells_text {f : FilterCall} (h : f.WellFormed) :
    ∃ run, Token.scan f.text = .ok run ∧ Spells f.text run f := by
  obtain ⟨name, arguments⟩ := f
  obtain ⟨hword, hidentifier, harguments⟩ := h
  have hname := Token.scan_lexeme hword
  cases arguments with
  | nil =>
      have htext : text ⟨name, []⟩ = name := List.append_nil name
      rw [htext]
      exact ⟨_, hname, .bare rfl hidentifier⟩
  | cons t ts =>
      obtain ⟨run, hrun, hspells⟩ := exists_spells_join harguments
      have hright := hspells.relocate (Token.preserves_separated name _ ':' run)
      exact ⟨_, Token.scan_separated hname rfl hrun, .applied rfl hidentifier rfl hright⟩

end FilterCall

namespace FilterChain

/-! ## Filters behind a text -/

/-- A text that is filters, each behind a bar. -/
def Pipes (t : Text) (fs : List FilterCall) : Prop := ∃ run, Token.scan t = .ok run ∧ SpellsFilters t run fs

theorem SpellsFilters.append {s : Text} {run run' : List Token} {fs gs : List FilterCall}
    (h : SpellsFilters s run fs) (h' : SpellsFilters s run' gs) : SpellsFilters s (run ++ run') (fs ++ gs) := by
  induction h with
  | none => exact h'
  | more hb hf _ ih =>
      rw [List.cons_append, List.append_assoc]
      exact .more hb hf ih

theorem pipes_nil : Pipes [] [] := ⟨[], Token.scan_eq_ok_iff.2 (.done 0 []), .none⟩

/-- Filters behind filters. -/
theorem Pipes.append {t u : Text} {fs gs : List FilterCall} (ht : Pipes t fs) (hu : Pipes u gs)
    (hapart : Token.Apart u) : Pipes (t ++ u) (fs ++ gs) := by
  obtain ⟨run, hrun, hspells⟩ := ht
  obtain ⟨run', hrun', hspells'⟩ := hu
  have hleft := hspells.relocate (Token.preserves_left (Token.stop_le_of_scan hrun) u)
  have hright := hspells'.relocate (Token.preserves_right t u run')
  rw [Token.map_relocate_id] at hleft
  exact ⟨_, (Token.scan_append_eq_ok_iff hrun fun _ _ => hapart _ _).2 ⟨run', hrun', rfl⟩, hleft.append hright⟩

/-- Filters as they are written begin with a blank, if there are any. -/
theorem apart_flatMap_text (fs : List FilterCall) : Token.Apart (fs.flatMap fun f => " | ".toList ++ f.text) := by
  cases fs with
  | nil => exact Token.apart_nil
  | cons f fs =>
      rw [List.flatMap_cons, List.append_assoc]
      exact Token.apart_blank rfl _

theorem pipes_text {f : FilterCall} (h : f.WellFormed) : Pipes (" | ".toList ++ f.text) [f] := by
  obtain ⟨run, hrun, hspells⟩ := h.exists_spells_text
  have hblank : Token.scan [' '] = .ok [] := Token.scan_eq_ok_iff.2 (.blank rfl (.done 1 []))
  have hright := hspells.relocate (Token.preserves_separated [' '] f.text '|' run)
  have hfilters := @SpellsFilters.more _ ⟨.pipe, ['|'], 1⟩ _ _ _ _ rfl hright .none
  rw [List.append_nil] at hfilters
  exact ⟨_, Token.scan_separated hblank rfl hrun, hfilters⟩

theorem pipes_flatMap_text {fs : List FilterCall} (h : ∀ f ∈ fs, f.WellFormed) :
    Pipes (fs.flatMap fun f => " | ".toList ++ f.text) fs := by
  induction fs with
  | nil => exact pipes_nil
  | cons f fs ih =>
      rw [List.forall_mem_cons] at h
      exact (pipes_text h.1).append (ih h.2) (apart_flatMap_text fs)

theorem parse_eq_ok_iff_scan {markup : Text} {c : FilterChain} :
    parse markup = .ok c ↔ ∃ run, Token.scan markup = .ok run ∧ Spells markup run c := by
  simp only [parse, Outcome.bind_eq_ok_iff, ofTokens_eq_ok_iff]

/-- **A chain with more filters behind it.** -/
theorem parse_append {m u : Text} {c : FilterChain} {gs : List FilterCall} (h : parse m = .ok c) (hu : Pipes u gs)
    (hapart : Token.Apart u) : parse (m ++ u) = .ok ⟨c.name, c.filters ++ gs⟩ := by
  obtain ⟨tokens, hscan, hspells⟩ := parse_eq_ok_iff_scan.1 h
  obtain ⟨run, hrun, hmore⟩ := hu
  have hright := hmore.relocate (Token.preserves_right m u run)
  cases hspells with
  | @chain name rest fs hname hfilters =>
      have hleft := hfilters.relocate
        ((Token.preserves_left (Token.stop_le_of_scan hscan) u).subset (List.subset_cons_self name rest))
      rw [Token.map_relocate_id] at hleft
      refine parse_eq_ok_iff_scan.2 ⟨_, ?_, .chain hname (hleft.append hright)⟩
      exact (Token.scan_append_eq_ok_iff hscan fun _ _ => hapart _ _).2 ⟨run, hrun, rfl⟩

/-- **What stands behind an operand is filters.** -/
theorem pipes_of_parse_append {a u : Text} {operand : Token} {c : FilterChain} (ha : Token.scan a = .ok [operand])
    (hapart : Token.Apart u) (h : parse (a ++ u) = .ok c) : Pipes u c.filters := by
  obtain ⟨tokens, hscan, hspells⟩ := parse_eq_ok_iff_scan.1 h
  obtain ⟨run, hrun, rfl⟩ := (Token.scan_append_eq_ok_iff ha fun _ _ => hapart _ _).1 hscan
  cases hspells with
  | chain _ hfilters =>
      change SpellsFilters (a ++ u) (run.map (Token.shift a.length)) _ at hfilters
      have hbehind := hfilters.relocate (Token.preserves_behind a u run)
      rw [Token.map_relocate_shift] at hbehind
      exact ⟨run, hrun, hbehind⟩

/-! ## Chains as they are written -/

/-- A chain that has a written form: its name is read as an operand, and its filters have a written form. -/
structure WellFormed (c : FilterChain) : Prop where
  operand : ∃ kind : TokenKind, kind.isOperand = true ∧ Token.Lexeme kind c.name
  filters : ∀ f ∈ c.filters, f.WellFormed

theorem SpellsFilters.wellFormed {s : Text} {tokens run : List Token} {fs : List FilterCall}
    (hspells : SpellsFilters s run fs) (h : Token.scan s = .ok tokens) (hrun : run <:+: tokens) :
    ∀ f ∈ fs, f.WellFormed := by
  induction hspells with
  | none => exact List.forall_mem_nil _
  | @more bar run rest f fs _ hf _ ih =>
      have hfirst : run <:+: tokens := List.IsInfix.trans ⟨[bar], rest, rfl⟩ hrun
      have hrest : rest <:+: tokens := (List.suffix_append (bar :: run) rest).isInfix.trans hrun
      exact List.forall_mem_cons.2 ⟨hf.wellFormed h hfirst, ih hrest⟩

/-- A chain that is read has a written form. -/
theorem wellFormed_of_parse {m : Text} {c : FilterChain} (h : parse m = .ok c) : c.WellFormed := by
  obtain ⟨tokens, hscan, hspells⟩ := parse_eq_ok_iff_scan.1 h
  cases hspells with
  | @chain name rest fs hname hfilters =>
      have hlexeme := Token.lexemes_of_scan hscan name List.mem_cons_self
      exact ⟨⟨_, hname, hlexeme⟩, hfilters.wellFormed hscan (List.suffix_cons name rest).isInfix⟩

/-- **The written form of a chain is read back.** -/
theorem WellFormed.parse_text {c : FilterChain} (h : c.WellFormed) : parse c.text = .ok c := by
  obtain ⟨kind, hkind, hlexeme⟩ := h.operand
  have hname : parse c.name = .ok ⟨c.name, []⟩ :=
    parse_eq_ok_iff_scan.2 ⟨_, Token.scan_lexeme hlexeme, .chain hkind .none⟩
  exact parse_append hname (pipes_flatMap_text h.filters) (apart_flatMap_text c.filters)

/-- **Chains are read back from their written form, and grow by what is written behind them.**  The written form of a
chain that was read is read as the same chain, labelled arguments with the blanks in them included.  What is a chain
behind an operand may be written behind any chain, and adds its filters. -/
theorem parse_text_and_append {m : Text} {c : FilterChain} (h : parse m = .ok c) :
    parse c.text = .ok c ∧
    ∀ t c', parse ("x |".toList ++ t) = .ok c' →
      parse (m ++ "|".toList ++ t) = .ok ⟨c.name, c.filters ++ c'.filters⟩ := by
  refine ⟨(wellFormed_of_parse h).parse_text, fun t c' hc' => ?_⟩
  have hx : Token.scan "x ".toList = .ok [⟨.word, ['x'], 0⟩] := Outcome.eq_ok_of_toOption (by decide +kernel)
  have hapart : Token.Apart ("|".toList ++ t) := Token.apart_separator rfl t
  rw [List.append_assoc]
  exact parse_append h (pipes_of_parse_append hx hapart hc') hapart

/-- A label keeps the blanks behind it, bars and commas in quotes cut nothing, and a bar needs no blanks. -/
theorem parse_text_and_append_labelled :
    let m : Text := "x |f: size :  'a, b | c',d[1 | 2]".toList
    let c : FilterChain := ⟨['x'], [⟨['f'], ["size :  'a, b | c'".toList, "d[1 | 2]".toList]⟩]⟩
    parse m = .ok c ∧ parse "x | f: size :  'a, b | c', d[1 | 2]".toList = .ok c ∧
      parse ("x |".toList ++ "g".toList) = .ok ⟨['x'], [⟨['g'], []⟩]⟩ ∧
      parse (m ++ "|".toList ++ "g".toList) = .ok ⟨['x'], c.filters ++ [⟨['g'], []⟩]⟩ := by
  intro m c
  have hm : parse m = .ok c := Outcome.eq_ok_of_toOption (by decide +kernel)
  have hg : parse ("x |".toList ++ "g".toList) = .ok ⟨['x'], [⟨['g'], []⟩]⟩ :=
    Outcome.eq_ok_of_toOption (by decide +kernel)
  obtain ⟨htext, happend⟩ := parse_text_and_append hm
  exact ⟨hm, htext, hg, happend _ _ hg⟩

end FilterChain

end Liquid
