import Liquid.Proofs.Markup.Expression
import Liquid.Proofs.Markup.Grammar

/-!
# Expressions side by side

A blank ends every token, so a text that is two texts with blanks between them has the tokens of both.  If the texts
are expressions and a connective is written between them, their runs between connectives stay as they are: the
joined expression has the conditions of both.  By joining one condition after the other, the written form of an
expression is read back; and fragments with connectives between them are cut into the same fragments again, empty
ones included.

## Main definitions

* `Expression.between` — a connective as it is written between two texts.
* `Expression.joined` — the conditions of two expressions with a connective between them.
* `Expression.Cut` — the fragments and connectives that a text is cut into.
* `Expression.rejoined` — fragments as they are written with connectives between them.

## Main statements

* `Token.scan_append_eq_ok_iff`, `Token.scan_append_blanks` — the tokens of two texts side by side, and of two texts
  with blanks between them.
* `Expression.Reads.join`, `Expression.Cut.join` — what is read, and what is cut, when texts are joined.
* `Expression.parse_comparison_of_scan` — two texts with a comparator between them.
* `Expression.parse_text_split_rejoined` — written forms and rejoined fragments are read back.
-/

namespace Liquid

namespace Token

/-! ## Tokens of two texts -/

/-- What is left behind the tokens of the beginning of a text is read on from there. -/
theorem Scans.scanFrom_eq {pos start : Nat} {t middle : Text} {tokens : List Token} (h : Scans pos t tokens middle)
    (hstart : start + middle.length = pos + t.length) :
    scanFrom pos t = (scanFrom start middle).map (tokens ++ ·) := by
  induction h with
  | done pos middle =>
      obtain rfl : start = pos := by omega
      cases scanFrom start middle <;> rfl
  | blank hb _ ih =>
      rw [scanFrom_blank _ _ hb, ih]
      rw [List.length_cons] at hstart
      omega
  | @token pos c t text after kind tokens middle hb hn _ ih =>
      have hnext := next?_eq_ok_iff.2 hn
      have htext := congrArg List.length (next?_eq hnext)
      rw [List.length_append] at htext
      rw [scanFrom_token _ hb hnext, ih (by omega)]
      cases scanFrom start middle <;> rfl

/-- Offsets count from where the text begins. -/
theorem Scans.shift {pos : Nat} {t rest : Text} {tokens : List Token} (h : Scans pos t tokens rest) (k : Nat) :
    Scans (pos + k) t (tokens.map (Token.shift k)) rest := by
  induction h with
  | done pos rest => exact .done (pos + k) rest
  | blank hb _ ih =>
      rw [Nat.add_right_comm] at ih
      exact .blank hb ih
  | token hb hn _ ih =>
      rw [Nat.add_right_comm] at ih
      exact .token hb hn ih

theorem shift_shift (j k : Nat) (token : Token) : shift j (shift k token) = shift (j + k) token := by
  simp only [shift, Token.mk.injEq, true_and]
  omega

/-- **The tokens of two texts side by side**: those of the first, and those of the second behind them, if the last
token of the first ends where the second begins. -/
theorem scan_append_eq_ok_iff {a b : Text} {ts vs : List Token} (ha : scan a = .ok ts)
    (hlast : ∀ last ∈ ts.getLast?, Allows last.kind last.text b) :
    scan (a ++ b) = .ok vs ↔ ∃ us, scan b = .ok us ∧ vs = ts ++ us.map (shift a.length) := by
  have hfirst : Scans 0 (a ++ b) ts b := (scan_eq_ok_iff.1 ha).replace b (List.append_nil a).symm hlast
  have hlength : a.length + b.length = 0 + (a ++ b).length := by
    rw [List.length_append]
    omega
  rw [scan_eq_ok_iff, ← scanFrom_eq_ok_iff, hfirst.scanFrom_eq hlength, Outcome.map_eq_ok_iff]
  constructor
  · rintro ⟨us', hus', rfl⟩
    rw [scanFrom_eq_ok_iff, ← Nat.zero_add a.length] at hus'
    obtain ⟨us, rfl, hus⟩ := hus'.unshift
    exact ⟨us, scan_eq_ok_iff.2 hus, rfl⟩
  · rintro ⟨us, hus, rfl⟩
    have hshifted := (scan_eq_ok_iff.1 hus).shift a.length
    rw [Nat.zero_add] at hshifted
    exact ⟨_, scanFrom_eq_ok_iff.2 hshifted, rfl⟩

theorem scan_blanks_append {b blanks : Text} {us : List Token} (hblanks : ∀ c ∈ blanks, Text.isBlank c = true)
    (hb : scan b = .ok us) : scan (blanks ++ b) = .ok (us.map (shift blanks.length)) :=
  scan_eq_ok_iff.2 (scans_blanks hblanks ((scan_eq_ok_iff.1 hb).shift blanks.length))

/-- **The tokens of two texts with blanks between them**: those of the first, and those of the second behind them. -/
theorem scan_append_blanks {a b blanks : Text} {ts us : List Token} (ha : scan a = .ok ts) (hb : scan b = .ok us)
    (hblanks : ∀ c ∈ blanks, Text.isBlank c = true) (hne : blanks ≠ []) :
    scan (a ++ (blanks ++ b)) = .ok (ts ++ us.map (shift (a.length + blanks.length))) := by
  refine (scan_append_eq_ok_iff ha ?_).2 ⟨_, scan_blanks_append hblanks hb, ?_⟩
  · intro last _ d hd
    rw [List.head?_append_of_ne_nil _ hne] at hd
    exact standsBefore_of_isBlank _ _ (hblanks d (List.mem_of_mem_head? hd))
  · simp only [List.map_map, Function.comp_def, shift_shift]

theorem scan_append_space {a b : Text} {ts us : List Token} (ha : scan a = .ok ts) (hb : scan b = .ok us) :
    scan (a ++ ([' '] ++ b)) = .ok (ts ++ us.map (shift (a.length + 1))) :=
  scan_append_blanks ha hb (List.forall_mem_singleton.2 rfl) (List.cons_ne_nil ' ' [])

/-- A lexeme is the only token of its text. -/
theorem scan_lexeme {kind : TokenKind} {text : Text} (h : Lexeme kind text) : scan text = .ok [⟨kind, text, 0⟩] := by
  obtain ⟨c, body, rfl, hb, hn⟩ := h.next (allows_nil kind text)
  rw [List.append_nil] at hn
  exact scan_eq_ok_iff.2 (.token hb hn (.done _ []))

/-- What is read are lexemes. -/
theorem Scans.lexemes {pos : Nat} {t rest : Text} {tokens : List Token} (h : Scans pos t tokens rest) :
    ∀ token ∈ tokens, Lexeme token.kind token.text := by
  induction h with
  | done pos rest => simp
  | blank _ _ ih => exact ih
  | token hb hn _ ih => exact List.forall_mem_cons.2 ⟨hn.lexeme hb, ih⟩

theorem lexemes_of_scan {t : Text} {tokens : List Token} (h : scan t = .ok tokens) :
    ∀ token ∈ tokens, Lexeme token.kind token.text := (scan_eq_ok_iff.1 h).lexemes

theorem lexeme_of_scan {t : Text} {token : Token} (h : scan t = .ok [token]) : Lexeme token.kind token.text :=
  lexemes_of_scan h token List.mem_cons_self

/-- What is read ends within the text. -/
theorem Scans.stop_le {pos : Nat} {t rest : Text} {tokens : List Token} (h : Scans pos t tokens rest) :
    ∀ token ∈ tokens, token.stop ≤ pos + t.length := by
  induction h with
  | done pos rest => simp
  | blank _ _ ih =>
      intro token htoken
      have hle := ih token htoken
      rw [List.length_cons]
      omega
  | @token pos c t text after kind tokens rest hb hn _ ih =>
      have htext := congrArg List.length (next?_eq (next?_eq_ok_iff.2 hn))
      rw [List.length_append] at htext
      refine List.forall_mem_cons.2 ⟨?_, fun token htoken => ?_⟩
      · change pos + text.length ≤ _
        omega
      · have hle := ih token htoken
        omega

theorem stop_le_of_scan {t : Text} {tokens : List Token} (h : scan t = .ok tokens) :
    ∀ token ∈ tokens, token.stop ≤ t.length := by
  have hstop := (scan_eq_ok_iff.1 h).stop_le
  rwa [Nat.zero_add] at hstop

/-! ## Sources -/

/-- The source of a run of tokens of the first of two texts. -/
theorem source_append_left {a b : Text} {run : List Token} (h : ∀ token ∈ run, token.stop ≤ a.length) :
    source (a ++ b) run = source a run := by
  unfold source
  split
  · next first last hfirst hlast =>
      have hstop := h last (List.mem_of_getLast? hlast)
      have hfirst' := h first (List.mem_of_mem_head? hfirst)
      have hle : first.position ≤ a.length := Nat.le_trans (Nat.le_add_right _ _) hfirst'
      rw [List.drop_append_of_le_length hle, List.take_append_of_le_length]
      rw [List.length_drop]
      omega
  · rfl

/-- The source of a run of tokens of the second of two texts. -/
theorem source_append_right {a b : Text} {run : List Token} {k : Nat} (hk : k = a.length) :
    source (a ++ b) (run.map (shift k)) = source b run := by
  subst hk
  unfold source
  rw [List.head?_map, List.getLast?_map]
  cases hfirst : run.head? with
  | none => rfl
  | some first =>
      cases hlast : run.getLast? with
      | none => rfl
      | some last =>
          have hlength : (shift a.length last).stop - (shift a.length first).position = last.stop - first.position := by
            simp only [shift, stop]
            omega
          simp only [Option.map_some, hlength]
          rw [shift, Nat.add_comm, ← List.drop_drop, List.drop_left]

/-- The source of a run of tokens reaches from the first of them to the last. -/
theorem source_source {t : Text} {first : Token} {others run : List Token}
    (h : first :: others = run.map (shift first.position)) :
    source (source t (first :: others)) run = source t (first :: others) := by
  obtain ⟨first', others', rfl, hfirst, hothers⟩ := List.map_eq_cons_iff.1 h.symm
  have hzero : first'.position = 0 := by
    have hposition := congrArg position hfirst
    simp only [shift] at hposition
    omega
  have hlast : others.getLast?.getD first = shift first.position (others'.getLast?.getD first') := by
    rw [← hothers, List.getLast?_map]
    cases others'.getLast? with
    | none => exact hfirst.symm
    | some last => rfl
  have hstop : (others.getLast?.getD first).stop = (others'.getLast?.getD first').stop + first.position := by
    rw [hlast]
    simp only [shift, stop]
    omega
  simp only [source, List.head?_cons, List.getLast?_cons]
  rw [hzero, hstop, Nat.add_sub_cancel, List.drop_zero, Nat.sub_zero, List.take_take, Nat.min_self]

end Token

namespace Condition

/-! ## Conditions as they are written -/

/-- The tokens of a text spell a condition, and none of them is a connective. -/
structure Prints (t : Text) (run : List Token) (c : Condition) : Prop where
  scan : Token.scan t = .ok run
  spells : Spells run c
  free : ∀ token ∈ run, Expression.isConnective token = false

/-- What a run of tokens spells is spelled again by its written form. -/
theorem exists_prints_text {run : List Token} {c : Condition} (h : Spells run c)
    (hlexemes : ∀ token ∈ run, Token.Lexeme token.kind token.text)
    (hfree : ∀ token ∈ run, Expression.isConnective token = false) : ∃ run', Prints c.text run' c := by
  cases h with
  | @operand left hl =>
      rw [List.forall_mem_singleton] at hlexemes hfree
      exact ⟨_, Token.scan_lexeme hlexemes, .operand hl, List.forall_mem_singleton.2 hfree⟩
  | @comparison left operator right comparator hl ho ht hr =>
      have htext : text ⟨left.text, some (comparator, right.text)⟩ =
          left.text ++ ([' '] ++ (operator.text ++ ([' '] ++ right.text))) := by
        rw [← ht]
        simp only [text, List.append_assoc]
      simp only [List.forall_mem_cons, List.not_mem_nil, false_imp_iff, implies_true, and_true] at hlexemes
      obtain ⟨hleft, hoperator, hright⟩ := hlexemes
      have hscan := Token.scan_append_space (Token.scan_lexeme hleft)
        (Token.scan_append_space (Token.scan_lexeme hoperator) (Token.scan_lexeme hright))
      rw [← htext] at hscan
      simp only [List.map_cons, List.map_nil, List.cons_append, List.nil_append, Token.shift] at hscan
      refine ⟨_, hscan, .comparison hl ho ht hr, ?_⟩
      simp only [List.forall_mem_cons] at hfree ⊢
      exact hfree

end Condition

namespace Expression

/-! ## Joined texts -/

/-- A connective as it is written between two texts. -/
def between (c : Connective) : Text := [' '] ++ c.text ++ [' ']

/-- The conditions of two expressions with a connective between them. -/
def joined (c : Connective) (first second : Expression) : Expression :=
  ⟨first.conditions ++ second.conditions, first.connectives ++ c :: second.connectives.drop 1⟩

theorem lexeme_connective (c : Connective) : Token.Lexeme .word c.text := by
  have hscan : Token.scan c.text = .ok [⟨.word, c.text, 0⟩] := by
    cases c <;> exact Outcome.eq_ok_of_toOption (by decide +kernel)
  exact Token.lexeme_of_scan hscan

theorem ofToken?_connective (c : Connective) (position : Nat) :
    Connective.ofToken? ⟨.word, c.text, position⟩ = some c := by
  cases c <;> rfl

theorem isConnective_of_ofToken? {x : Token} {c : Connective} (h : Connective.ofToken? x = some c) :
    isConnective x = true := by
  rw [isConnective_eq_isSome, h, Option.isSome_some]

/-- The tokens of two texts with a connective between them. -/
theorem scan_between {a b : Text} {ts us : List Token} (c : Connective) (ha : Token.scan a = .ok ts)
    (hb : Token.scan b = .ok us) :
    Token.scan (a ++ between c ++ b) =
      .ok (ts ++ ⟨.word, c.text, a.length + 1⟩ :: us.map (Token.shift (a.length + (between c).length))) := by
  have hscan := Token.scan_append_space ha (Token.scan_append_space (Token.scan_lexeme (lexeme_connective c)) hb)
  have hshift : ∀ token, Token.shift (a.length + 1) (Token.shift (c.text.length + 1) token) =
      Token.shift (a.length + (between c).length) token := by
    intro token
    simp only [Token.shift, between, List.length_append, List.length_singleton, Token.mk.injEq, true_and]
    omega
  simp only [List.map_append, List.map_cons, List.map_nil, List.map_map, Function.comp_def, hshift] at hscan
  simp only [between, List.append_assoc] at hscan ⊢
  rw [hscan]
  simp [Token.shift]

theorem splitOnP_map_shift (k : Nat) (tokens : List Token) :
    (tokens.map (Token.shift k)).splitOnP isConnective =
      (tokens.splitOnP isConnective).map (List.map (Token.shift k)) := by
  induction tokens with
  | nil => rfl
  | cons token tokens ih =>
      rw [List.map_cons, List.splitOnP_cons_eq_if_modifyHead, List.splitOnP_cons_eq_if_modifyHead, ih]
      change (if isConnective token then _ else _) = _
      split
      · rfl
      · cases tokens.splitOnP isConnective <;> rfl

theorem filterMap_ofToken?_map_shift (k : Nat) (tokens : List Token) :
    (tokens.map (Token.shift k)).filterMap Connective.ofToken? = tokens.filterMap Connective.ofToken? := by
  rw [List.filterMap_map]
  rfl

/-- **What is read when texts are joined**: the conditions of both. -/
theorem Reads.join {ts us : List Token} {e₁ e₂ : Expression} {x : Token} {c : Connective} (h₁ : Reads ts e₁)
    (h₂ : Reads us e₂) (hx : Connective.ofToken? x = some c) (k : Nat) :
    Reads (ts ++ x :: us.map (Token.shift k)) (joined c e₁ e₂) := by
  obtain ⟨-, hconditions₁, hconnectives₁⟩ := h₁
  obtain ⟨-, hconditions₂, hconnectives₂⟩ := h₂
  refine ⟨by simp, ?_, ?_⟩
  · rw [List.splitOnP_append_cons ts _ (isConnective_of_ofToken? hx), splitOnP_map_shift]
    refine List.rel_append hconditions₁ (List.forall₂_map_left_iff.2 ?_)
    exact (Outcome.forall₂_congr fun _ _ _ => Condition.spells_map_shift_iff).2 hconditions₂
  · rw [List.filterMap_append, List.filterMap_cons_some hx, filterMap_ofToken?_map_shift]
    simp [joined, hconnectives₁, hconnectives₂]

/-- The text of two expressions with a connective between them is their joined expression. -/
theorem parse_between {tag a b : Text} {e₁ e₂ : Expression} (h₁ : parse tag a = .ok e₁) (h₂ : parse tag b = .ok e₂)
    (c : Connective) : parse tag (a ++ between c ++ b) = .ok (joined c e₁ e₂) := by
  obtain ⟨ts, hts, hreads₁⟩ := parse_eq_ok_iff.1 h₁
  obtain ⟨us, hus, hreads₂⟩ := parse_eq_ok_iff.1 h₂
  exact parse_of_reads (scan_between c hts hus) (hreads₁.join hreads₂ (ofToken?_connective c _) _)

/-! ## Expressions as they are written -/

/-- Without a connective among the tokens nothing is cut. -/
theorem filterMap_ofToken?_eq_nil_iff {run : List Token} :
    run.filterMap Connective.ofToken? = [] ↔ ∀ token ∈ run, isConnective token = false := by
  rw [List.filterMap_eq_nil_iff]
  refine forall₂_congr fun token _ => ?_
  rw [isConnective_eq_isSome, Option.isSome_eq_false_iff, Option.isNone_iff_eq_none]

theorem parse_condition_text {tag t : Text} {run : List Token} {c : Condition} (h : Condition.Prints t run c) :
    parse tag t = .ok ⟨[c], [.and]⟩ := by
  refine parse_of_reads h.scan ⟨?_, ?_, ?_⟩
  · rintro rfl
    exact nomatch h.spells
  · rw [List.splitOnP_eq_singleton h.free]
    exact .cons h.spells .nil
  · rw [filterMap_ofToken?_eq_nil_iff.2 h.free]

/-- **Two texts with a comparator between them** are read as the comparison of their tokens, if each has a single one
that is no connective. -/
theorem parse_comparison_of_scan {a b : Text} {left right : Token} (ha : Token.scan a = .ok [left])
    (hb : Token.scan b = .ok [right]) (hleft : left.isOperand = true) (hright : right.isOperand = true)
    (hfree : ∀ token ∈ [left, right], isConnective token = false) (tag : Text) (comparator : Comparator) :
    parse tag (a ++ ([' '] ++ (comparator.text ++ ([' '] ++ b)))) =
      .ok ⟨[⟨left.text, some (comparator, right.text)⟩], [.and]⟩ := by
  have hoperator := Token.scan_lexeme (.comparator comparator)
  have hscan := Token.scan_append_space ha (Token.scan_append_space hoperator hb)
  rw [List.forall_mem_cons, List.forall_mem_singleton] at hfree
  refine parse_condition_text ⟨hscan, .comparison hleft rfl rfl hright, ?_⟩
  simp only [List.map_cons, List.map_nil, List.cons_append, List.nil_append, List.forall_mem_cons]
  exact ⟨hfree.1, rfl, hfree.2, List.forall_mem_nil _⟩

theorem text_singleton (c : Condition) : text ⟨[c], [.and]⟩ = c.text := List.append_nil c.text

theorem text_cons_cons (c c' : Condition) (cs : List Condition) (k k' : Connective) (ks : List Connective) :
    text ⟨c :: c' :: cs, k :: k' :: ks⟩ = c.text ++ between k' ++ text ⟨c' :: cs, k :: ks⟩ := by
  simp [text, between]

/-- Conditions whose written forms are read back make an expression whose written form is. -/
theorem parse_text_of_prints {tag : Text} {c : Condition} {cs : List Condition} {ks : List Connective}
    (hlength : cs.length = ks.length) (hprints : ∀ d ∈ c :: cs, ∃ run, Condition.Prints d.text run d) :
    parse tag (text ⟨c :: cs, .and :: ks⟩) = .ok ⟨c :: cs, .and :: ks⟩ := by
  induction cs generalizing c ks with
  | nil =>
      obtain rfl : ks = [] := List.length_eq_zero_iff.1 hlength.symm
      obtain ⟨run, hrun⟩ := hprints c List.mem_cons_self
      rw [text_singleton]
      exact parse_condition_text hrun
  | cons c' cs ih =>
      cases ks with
      | nil => simp at hlength
      | cons k ks =>
          rw [List.forall_mem_cons] at hprints
          obtain ⟨⟨run, hrun⟩, hrest⟩ := hprints
          rw [text_cons_cons]
          exact parse_between (parse_condition_text hrun) (ih (by simpa using hlength) hrest) k

/-- No run between cuts has a member that is cut at. -/
theorem eq_false_of_mem_splitOnP {α : Type} {p : α → Bool} {l run : List α} (h : run ∈ l.splitOnP p) :
    ∀ x ∈ run, p x = false := by
  induction l generalizing run with
  | nil =>
      obtain rfl : run = [] := by simpa using h
      simp
  | cons x l ih =>
      rw [List.splitOnP_cons_eq_if_modifyHead] at h
      split at h
      · rcases List.mem_cons.1 h with rfl | h
        · simp
        · exact ih h
      · next hx =>
          obtain ⟨first, others, hsplit⟩ := List.exists_cons_of_ne_nil (List.splitOnP_ne_nil p l)
          rw [hsplit, List.modifyHead_cons] at h
          rw [hsplit] at ih
          rcases List.mem_cons.1 h with rfl | h
          · exact List.forall_mem_cons.2 ⟨by simpa using hx, ih List.mem_cons_self⟩
          · exact ih (List.mem_cons_of_mem first h)

/-- What is cut out of the tokens of a text are tokens of the text, and none of them is a connective. -/
theorem mem_run {t : Text} {tokens run : List Token} (h : Token.scan t = .ok tokens)
    (hrun : run ∈ tokens.splitOnP isConnective) :
    ∀ token ∈ run, Token.Lexeme token.kind token.text ∧ isConnective token = false := by
  obtain ⟨before, after, rfl⟩ := exists_append_of_mem_splitOnP hrun
  intro token htoken
  exact ⟨Token.lexemes_of_scan h token (by simp [htoken]), eq_false_of_mem_splitOnP hrun token htoken⟩

/-- **The written form of an expression that was read is read back.** -/
theorem parse_text {tag t : Text} {e : Expression} (h : parse tag t = .ok e) : parse tag e.text = .ok e := by
  obtain ⟨tokens, hscan, hreads⟩ := parse_eq_ok_iff.1 h
  have hprints : ∀ c ∈ e.conditions, ∃ run, Condition.Prints c.text run c := by
    intro c hc
    obtain ⟨run, hrun, hspells⟩ := Outcome.exists_mem_of_forall₂ hreads.conditions hc
    have hmem := mem_run hscan hrun
    exact Condition.exists_prints_text hspells (fun token htoken => (hmem token htoken).1)
      (fun token htoken => (hmem token htoken).2)
  obtain ⟨c, conditions, connectives, rfl, hlength⟩ := hreads.shape
  exact parse_text_of_prints hlength hprints

/-! ## Fragments side by side -/

/-- Fragments as they are written with connectives between them.  There is a connective for each fragment; that of
the first is not written. -/
def rejoined (fragments : List Text) (connectives : List Connective) : Text :=
  match fragments with
  | [] => []
  | f :: fs => f ++ ((connectives.drop 1).zip fs).flatMap fun p => between p.1 ++ p.2

theorem rejoined_singleton (f : Text) : rejoined [f] [.and] = f := List.append_nil f

theorem rejoined_cons_cons (f f' : Text) (fs : List Text) (c c' : Connective) (cs : List Connective) :
    rejoined (f :: f' :: fs) (c :: c' :: cs) = f ++ between c' ++ rejoined (f' :: fs) (c :: cs) := by
  simp [rejoined]

theorem split_eq_ok_iff {t : Text} {parts : List Text × List Connective} :
    split t = .ok parts ↔ ∃ tokens, Token.scan t = .ok tokens ∧ tokens ≠ [] ∧
      parts = ((tokens.splitOnP isConnective).map (Token.source t), .and :: tokens.filterMap Connective.ofToken?) := by
  constructor
  · intro h
    cases hscan : Token.scan t with
    | error e => simp [split, pieces, hscan, bind, Except.bind, Except.map] at h
    | ok tokens =>
        by_cases hne : tokens = []
        · simp [split, pieces, hscan, hne, bind, Except.bind, Except.map] at h
        · rw [split_of_scan hscan hne, Except.ok.injEq] at h
          exact ⟨tokens, rfl, hne, h.symm⟩
  · rintro ⟨tokens, hscan, hne, rfl⟩
    exact split_of_scan hscan hne

/-- The tokens of a text, cut at the connectives, have the fragments as their sources. -/
def Cut (t : Text) (fragments : List Text) (connectives : List Connective) : Prop :=
  ∃ tokens, Token.scan t = .ok tokens ∧ fragments = (tokens.splitOnP isConnective).map (Token.source t) ∧
    connectives = tokens.filterMap Connective.ofToken?

theorem split_of_cut {t : Text} {fs : List Text} {cs : List Connective} (h : Cut t fs cs)
    (hne : (fs, cs) ≠ ([[]], [])) : split t = .ok (fs, .and :: cs) := by
  obtain ⟨tokens, hscan, rfl, rfl⟩ := h
  refine split_of_scan hscan ?_
  rintro rfl
  exact hne rfl

/-- **What is cut when texts are joined**: the fragments of both. -/
theorem Cut.join {a b : Text} {fs gs : List Text} {cs ds : List Connective} (ha : Cut a fs cs) (hb : Cut b gs ds)
    (c : Connective) : Cut (a ++ between c ++ b) (fs ++ gs) (cs ++ c :: ds) := by
  obtain ⟨ts, hts, rfl, rfl⟩ := ha
  obtain ⟨us, hus, rfl, rfl⟩ := hb
  have hc := ofToken?_connective c (a.length + 1)
  refine ⟨_, scan_between c hts hus, ?_, ?_⟩
  · rw [List.splitOnP_append_cons ts _ (isConnective_of_ofToken? hc), splitOnP_map_shift, List.map_append, List.map_map]
    congr 1
    · refine List.map_congr_left fun run hrun => ?_
      obtain ⟨before, after, rfl⟩ := exists_append_of_mem_splitOnP hrun
      rw [List.append_assoc]
      exact (Token.source_append_left fun token htoken => Token.stop_le_of_scan hts token (by simp [htoken])).symm
    · refine List.map_congr_left fun run _ => ?_
      exact (Token.source_append_right List.length_append.symm).symm
  · rw [List.filterMap_append, List.filterMap_cons_some hc, filterMap_ofToken?_map_shift]

/-- A text whose tokens are no connectives and reach from its beginning to its end is cut into itself. -/
theorem cut_of_tight {t : Text} {run : List Token} (h : Token.scan t = .ok run)
    (hfree : ∀ token ∈ run, isConnective token = false) (htight : Token.source t run = t) : Cut t [t] [] := by
  refine ⟨run, h, ?_, ?_⟩
  · rw [List.splitOnP_eq_singleton hfree, List.map_singleton, htight]
  · rw [filterMap_ofToken?_eq_nil_iff.2 hfree]

/-- A fragment of a text is cut into itself. -/
theorem cut_source {t : Text} {tokens run : List Token} (h : Token.scan t = .ok tokens)
    (hrun : run ∈ tokens.splitOnP isConnective) : Cut (Token.source t run) [Token.source t run] [] := by
  have hfree := eq_false_of_mem_splitOnP hrun
  obtain ⟨before, after, rfl⟩ := exists_append_of_mem_splitOnP hrun
  cases run with
  | nil => exact @cut_of_tight [] [] (Token.scan_eq_ok_iff.2 (.done 0 [])) (List.forall_mem_nil _) rfl
  | cons first others =>
      obtain ⟨run, hshift, hscan⟩ := Token.scan_source h
      refine cut_of_tight hscan ?_ (Token.source_source hshift)
      rw [hshift] at hfree
      exact fun token htoken => hfree (Token.shift first.position token) (List.mem_map_of_mem htoken)

/-- Fragments that are each cut into themselves are the fragments of the text they are rejoined to. -/
theorem cut_rejoined {f : Text} {fs : List Text} {cs : List Connective} (hlength : fs.length = cs.length)
    (hcut : ∀ g ∈ f :: fs, Cut g [g] []) : Cut (rejoined (f :: fs) (.and :: cs)) (f :: fs) cs := by
  induction fs generalizing f cs with
  | nil =>
      obtain rfl : cs = [] := List.length_eq_zero_iff.1 hlength.symm
      rw [rejoined_singleton]
      exact hcut f List.mem_cons_self
  | cons f' fs ih =>
      cases cs with
      | nil => simp at hlength
      | cons c cs =>
          rw [List.forall_mem_cons] at hcut
          rw [rejoined_cons_cons]
          exact hcut.1.join (ih (by simpa using hlength) hcut.2) c

/-- A text with tokens is not the text without any: it has a connective, or a fragment that is not empty. -/
theorem fragments_ne_of_ne_nil {t : Text} {tokens : List Token} (h : Token.scan t = .ok tokens) (hne : tokens ≠ []) :
    ((tokens.splitOnP isConnective).map (Token.source t), tokens.filterMap Connective.ofToken?) ≠ ([[]], []) := by
  intro heq
  obtain ⟨hfragments, hconnectives⟩ := Prod.mk.inj heq
  rw [List.splitOnP_eq_singleton (filterMap_ofToken?_eq_nil_iff.1 hconnectives), List.map_singleton,
    List.singleton_inj] at hfragments
  obtain ⟨first, others, rfl⟩ := List.exists_cons_of_ne_nil hne
  have hscan : Token.scan t = .ok ([] ++ (first :: others ++ [])) := by rwa [List.nil_append, List.append_nil]
  obtain ⟨run, hshift, hsource⟩ := Token.scan_source hscan
  rw [hfragments, Token.scan_eq_ok_iff.2 (.done 0 []), Except.ok.injEq] at hsource
  subst hsource
  exact nomatch hshift

/-- **Fragments rejoined by their connectives are cut into the same fragments again**, empty ones included. -/
theorem split_rejoined {t : Text} {fragments : List Text} {connectives : List Connective}
    (h : split t = .ok (fragments, connectives)) :
    split (rejoined fragments connectives) = .ok (fragments, connectives) := by
  obtain ⟨tokens, hscan, hne, hpair⟩ := split_eq_ok_iff.1 h
  obtain ⟨rfl, rfl⟩ := Prod.mk.inj hpair
  have hlength := congrArg List.length (map_snd_cutAt .and tokens)
  rw [List.length_map, cutAt_length] at hlength
  have hfragments := fragments_ne_of_ne_nil hscan hne
  have hself : ∀ g ∈ (tokens.splitOnP isConnective).map (Token.source t), Cut g [g] [] := by
    refine List.forall_mem_map.2 fun run hrun => cut_source hscan hrun
  obtain ⟨run, runs, hruns⟩ := List.exists_cons_of_ne_nil (List.splitOnP_ne_nil isConnective tokens)
  rw [hruns, List.map_cons] at hself hfragments ⊢
  exact split_of_cut (cut_rejoined (by simpa [hruns] using hlength.symm) hself) hfragments

/-- **Written forms and rejoined fragments are read back.**  The written form of an expression that was read from a
text is read as the same expression.  The fragments that a text was cut into, written with the connectives between
them, are cut into the same fragments and connectives. -/
theorem parse_text_split_rejoined (tag t : Text) :
    (∀ e, parse tag t = .ok e → parse tag e.text = .ok e) ∧
    ∀ fragments connectives, split t = .ok (fragments, connectives) →
      split (rejoined fragments connectives) = .ok (fragments, connectives) :=
  ⟨fun _ => parse_text, fun _ _ => split_rejoined⟩

/-- Words in quotes are no connectives, no blank is needed behind quotes, and a connective alone has two empty
fragments. -/
theorem parse_text_split_rejoined_quoted_and_dangling :
    let e : Expression := ⟨[⟨['a'], some (.equal, "'x and y'".toList)⟩, ⟨['b'], none⟩], [.and, .or]⟩
    parse "unless".toList "a=='x and y'or b".toList = .ok e ∧
      parse "unless".toList "a == 'x and y' or b".toList = .ok e ∧
      split "or".toList = .ok ([[], []], [.and, .or]) ∧ split " or ".toList = .ok ([[], []], [.and, .or]) := by
  intro e
  have hparse : parse "unless".toList "a=='x and y'or b".toList = .ok e := Outcome.eq_ok_of_toOption (by decide +kernel)
  have hsplit : split "or".toList = .ok ([[], []], [.and, .or]) := Outcome.eq_ok_of_toOption (by decide +kernel)
  exact ⟨hparse, (parse_text_split_rejoined "unless".toList "a=='x and y'or b".toList).1 e hparse, hsplit,
    (parse_text_split_rejoined "unless".toList "or".toList).2 _ _ hsplit⟩

end Expression

end Liquid
