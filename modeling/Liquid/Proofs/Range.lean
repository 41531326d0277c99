import Liquid.Proofs.Markup.FilterName
import Liquid.Proofs.Number.Decimal
import Liquid.Proofs.Path.Binding
import Liquid.Proofs.QuotedText

/-!
# Ranges in conditions

A range is written as its two bounds with two points between them, in parentheses, and all of it is one word.  A bound
is a number in decimal, perhaps with a sign, or the name of a variable; no point stands in either, so the bounds are
what stands before and behind the first two points.  The range holds both of its bounds.

## Main definitions

* `Operand.rangeText` — a range as it is written.
* `Context.Denotes` — the ways to write a whole number as an operand.

## Main statements

* `Operand.ofText_ofInt`, `Operand.ofText_of_isIdentifier` — numbers in decimal and names as operands.
* `Operand.ofText_rangeText` — a range as an operand.
* `Expression.parse_comparison` — two words with a comparator between them.
* `Context.contains_range_inclusive` — a range holds the numbers from one bound to the other, both included.
-/

namespace Liquid

namespace Operand

/-! ## Numbers and names -/

theorem number?_of_isDigit {t digits : Text} {n : Int} (hsign : t = digits ∨ t = '-' :: digits) (hne : digits ≠ [])
    (hdigits : ∀ c ∈ digits, c.isDigit = true) (hread : Numeral.integer? t = some n) :
    number? t = some (.literal (.int n)) := by
  have hpoint : '.' ∉ digits := fun hmem => absurd (hdigits '.' hmem) (by decide)
  have hwhole : isDigits digits = true := by
    rw [isDigits, Bool.and_eq_true, List.all_eq_true]
    exact ⟨by simpa using hne, fun c hc => Path.isDecimal_of_isDigit (hdigits c hc)⟩
  rcases hsign with rfl | rfl
  · rw [number?, Text.splitAtChar_of_not_mem hpoint]
    · simp only [hwhole, if_true, hread]
    · rintro rest rfl
      exact absurd (hdigits '-' List.mem_cons_self) (by decide)
  · rw [number?, Text.splitAtChar_of_not_mem hpoint]
    simp only [hwhole, if_true, hread]

theorem number?_ofInt {n : Int} (h : (Text.ofNat n.natAbs).length ≤ Numeral.maxDigits) :
    number? (Text.ofInt n) = some (.literal (.int n)) := by
  have hsign : Text.ofInt n = Text.ofNat n.natAbs ∨ Text.ofInt n = '-' :: Text.ofNat n.natAbs := by
    rw [Text.ofInt_eq]
    split
    · exact .inr rfl
    · exact .inl rfl
  exact number?_of_isDigit hsign (Text.ofNat_ne_nil _) (fun _ => Text.isDigit_of_mem_ofNat) (Numeral.integer?_ofInt h)

/-- **A whole number in decimal is an operand**, if it has no more digits than are read. -/
theorem ofText_ofInt {n : Int} (h : (Text.ofNat n.natAbs).length ≤ Numeral.maxDigits) :
    ofText (Text.ofInt n) = .literal (.int n) := by
  have hblank : ∀ c ∈ Text.ofInt n, Text.isBlank c = false := fun _ => Text.isBlank_of_mem_ofInt
  have hword : Value.ofWord? (Text.ofInt n) = none := by
    rw [Value.ofWord?, if_neg, if_neg, if_neg]
    · exact Text.ofInt_ne_cons (by decide) (by decide) n _
    · exact Text.ofInt_ne_cons (by decide) (by decide) n _
    · have hnil := Text.ofInt_ne_cons (c := 'n') (by decide) (by decide) n
      simp only [Bool.or_eq_true, decide_eq_true_eq, not_or]
      exact ⟨⟨Text.ofInt_ne_nil n, hnil _⟩, hnil _⟩
  have hquoted : quotedBody? (Text.ofInt n) = none := by
    obtain ⟨c, t, ht⟩ := List.exists_cons_of_ne_nil (Text.ofInt_ne_nil n)
    have hquote : ¬ (c = '\'' ∨ c = '"') := by
      rintro (rfl | rfl) <;> exact Text.ofInt_ne_cons (by decide) (by decide) n t ht
    rw [ht, quotedBody?, if_neg fun hc => hquote hc.1]
  rw [ofText, Text.strip_of_forall hblank, read]
  simp only [hword, hquoted, number?_ofInt h]

/-- **An identifier that is no literal is a variable.** -/
theorem ofText_of_isIdentifier {t : Text} (h : Text.isIdentifier t = true) (hword : Value.ofWord? t = none) :
    ofText t = .path t := by
  cases t with
  | nil => exact absurd h Bool.false_ne_true
  | cons c t =>
      have hstart : Text.isIdentifierStart c = true := (Bool.and_eq_true_iff.1 h).1
      have hletter : 64 ≤ c.toNat ∧ Text.isDecimal c = false := by
        by_cases hascii : c.toNat < 128
        · have hname := Path.isNameStart_of_identifierStart hstart hascii
          exact ⟨(Path.toNat_of_isNameStart hname).1, Path.isDecimal_of_isNameStart hname⟩
        · exact ⟨by omega, Path.isDecimal_of_identifierStart hstart (by omega)⟩
      have hblank := Text.isBlank_of_identifierPart (Text.isIdentifierPart_of_start hstart)
      exact ofText_eq_path hletter.1 hblank hletter.2 (Path.getLast?_identifier_isBlank h) hword

/-! ## Ranges -/

/-- A range as it is written. -/
def rangeText (first last : Text) : Text := '(' :: (first ++ ['.', '.'] ++ last ++ [')'])

section

variable {first last : Text}

/-- The bounds of a range stand before and behind the first two points. -/
theorem cutAtPoints?_append (hne : first ≠ []) (hpoint : '.' ∉ first) (hlast : last ≠ []) :
    cutAtPoints? (first ++ ['.', '.'] ++ last) = some (first, last) := by
  induction first with
  | nil => exact absurd rfl hne
  | cons c t ih =>
      cases t with
      | nil => simp [cutAtPoints?, hlast]
      | cons d t =>
          rw [List.mem_cons, not_or] at hpoint
          have hd : d ≠ '.' := fun hd => hpoint.2 (hd ▸ List.mem_cons_self)
          have hrest := ih (List.cons_ne_nil d t) hpoint.2
          simp only [List.cons_append] at hrest ⊢
          unfold cutAtPoints?
          split
          · next he => exact absurd (List.cons.inj he).1 hd
          · rw [hrest]
            rfl

/-- A bound as it is written: characters without a point, a bracket and what ends a word. -/
structure IsBound (t : Text) : Prop where
  nonempty : t ≠ []
  word : ∀ c ∈ t, Token.endsWord c = false ∧ c ≠ '['
  point : '.' ∉ t

theorem forall_mem_rangeText {p : Char → Prop} (hopen : p '(') (hpoint : p '.') (hclose : p ')')
    (hfirst : ∀ c ∈ first, p c) (hlast : ∀ c ∈ last, p c) : ∀ c ∈ rangeText first last, p c := by
  simp only [rangeText, List.mem_cons, List.mem_append, List.not_mem_nil, or_false]
  rintro c (rfl | ((hc | rfl | rfl) | hc) | rfl)
  · exact hopen
  · exact hfirst c hc
  · exact hpoint
  · exact hpoint
  · exact hlast c hc
  · exact hclose

/-- No character of a range ends a word or opens a bracket. -/
theorem word_of_mem_rangeText (hfirst : IsBound first) (hlast : IsBound last) :
    ∀ c ∈ rangeText first last, Token.endsWord c = false ∧ c ≠ '[' :=
  forall_mem_rangeText (by decide) (by decide) (by decide) hfirst.word hlast.word

/-- **A range is one word.** -/
theorem lexeme_rangeText (hfirst : IsBound first) (hlast : IsBound last) :
    Token.Lexeme .word (rangeText first last) :=
  .word (.of_forall (word_of_mem_rangeText hfirst hlast)) (List.cons_ne_nil _ _)
    fun he => absurd (List.cons.inj he).1 (by decide)

theorem bounds?_rangeText (hfirst : IsBound first) (hlast : IsBound last) :
    bounds? (rangeText first last) = some (first, last) := by
  have hblanks : ∀ c ∈ first ++ ['.', '.'] ++ last ++ [')'], Text.isBlank c = false := fun c hc =>
    (Bool.or_eq_false_iff.1 (word_of_mem_rangeText hfirst hlast c (List.mem_cons_of_mem '(' hc)).1).1
  rw [rangeText, bounds?, if_pos, List.dropLast_concat]
  · exact cutAtPoints?_append hfirst.nonempty hfirst.point hlast.nonempty
  · exact ⟨List.getLast?_concat, List.all_eq_true.2 fun c hc => by rw [hblanks c hc]; rfl⟩

/-- **A range is an operand with the bounds as they are written.** -/
theorem ofText_rangeText (hfirst : IsBound first) (hlast : IsBound last) :
    ofText (rangeText first last) = .range first last (read first) (read last) := by
  have hword : Value.ofWord? (rangeText first last) = none :=
    Context.ofWord?_eq_none (d := '(') (by decide) List.mem_cons_self
  have hquoted : quotedBody? (rangeText first last) = none := rfl
  have hnumber : number? (rangeText first last) = none := number?_eq_none (by decide) (by decide) (by decide)
  rw [ofText, (lexeme_rangeText hfirst hlast).strip_eq_self, read]
  simp only [hword, hquoted, hnumber]
  split
  · next he =>
      rw [bounds?_rangeText hfirst hlast, Option.some.injEq, Prod.mk.injEq] at he
      obtain ⟨rfl, rfl⟩ := he
      rfl
  · next he => simp [bounds?_rangeText hfirst hlast] at he

end

end Operand

/-- **Two words with a comparator between them** are read as their comparison, if neither is a connective. -/
theorem Expression.parse_comparison {left right : Text} (hleft : Token.Lexeme .word left)
    (hright : Token.Lexeme .word right) (hfree : ∀ word ∈ [left, right], ∀ k : Connective, word ≠ k.text)
    (tag : Text) (comparator : Comparator) :
    parse tag (Condition.text ⟨left, some (comparator, right)⟩) =
      .ok ⟨[⟨left, some (comparator, right)⟩], [.and]⟩ := by
  have hword : ∀ word ∈ [left, right], isConnective ⟨.word, word, 0⟩ = false := by
    intro word hmem
    have hne := hfree word hmem
    exact Bool.or_eq_false_iff.2 ⟨beq_eq_false_iff_ne.2 (hne .and), beq_eq_false_iff_ne.2 (hne .or)⟩
  rw [List.forall_mem_cons, List.forall_mem_singleton] at hword
  have htext : Condition.text ⟨left, some (comparator, right)⟩ =
      left ++ ([' '] ++ (comparator.text ++ ([' '] ++ right))) := by
    simp only [Condition.text, List.append_assoc]
  rw [htext]
  refine parse_comparison_of_scan (Token.scan_lexeme hleft) (Token.scan_lexeme hright) rfl rfl ?_ tag comparator
  exact List.forall_mem_cons.2 ⟨hword.1, List.forall_mem_singleton.2 hword.2⟩

theorem Condition.text_contains (left right : Text) :
    text ⟨left, some (.contains, right)⟩ = left ++ " contains ".toList ++ right := by
  have hword : " contains ".toList = [' '] ++ Comparator.contains.text ++ [' '] := by decide
  rw [hword]
  simp only [text, List.append_assoc]

/-- A range holds the numbers from one bound to the other, both included. -/
theorem Value.contains_range (a b n : Int) :
    contains (.range a (b + 1)) (.int n) = .ok (decide (a ≤ n ∧ n ≤ b)) := by
  have hcontains : contains (.range a (b + 1)) (.int n) = .ok (a ≤ n && n < b + 1) := rfl
  rw [hcontains, Bool.decide_and]
  simp only [Int.lt_add_one_iff]

namespace Context

/-- The ways to write a whole number as an operand: in decimal, with no more digits than are read, and as the name of a
variable that has it as its value. -/
inductive Denotes (c : Context) (n : Int) : Text → Prop
  | decimal : (Text.ofNat n.natAbs).length ≤ Numeral.maxDigits → Denotes c n (Text.ofInt n)
  | name {t : Text} : Text.isIdentifier t = true → Value.ofWord? t = none → c.scopes.lookup t = some (.int n) →
      Denotes c n t

namespace Denotes

variable {c : Context} {n : Int} {t : Text}

/-- A number is written with a minus sign and parts of identifiers. -/
theorem eq_minus_or_isIdentifierPart (h : c.Denotes n t) : ∀ d ∈ t, d = '-' ∨ Text.isIdentifierPart d = true := by
  intro d hd
  cases h with
  | decimal _ => exact (Text.eq_minus_or_isDigit_of_mem_ofInt hd).imp_right Text.isIdentifierPart_of_isDigit
  | name hname _ _ => exact .inr (Text.isIdentifierPart_of_mem hname hd)

theorem isBound (h : c.Denotes n t) : Operand.IsBound t := by
  refine ⟨?_, ?_, ?_⟩
  · cases h with
    | decimal _ => exact Text.ofInt_ne_nil n
    | name hname _ _ =>
        rintro rfl
        exact Bool.false_ne_true hname
  · intro d hd
    rcases h.eq_minus_or_isIdentifierPart d hd with rfl | hpart
    · decide
    · exact ⟨Token.endsWord_of_identifierPart hpart, Token.ne_openBracket_of_identifierPart hpart⟩
  · intro hmem
    rcases h.eq_minus_or_isIdentifierPart '.' hmem with hc | hc <;> exact absurd hc (by decide)

/-- **What a number is written as has the number as its value.** -/
theorem resolve (h : c.Denotes n t) : c.resolve t = .ok (.int n) := by
  cases h with
  | decimal hlen =>
      rw [Context.resolve, ScopeStack.resolve, Operand.ofText_ofInt hlen]
      rfl
  | name hname hword hv =>
      have hbracket : t.contains '[' = false := by
        simpa using Path.not_mem_of_isIdentifier hname (c := '[') (by decide)
      have hpoint : '.' ∉ t := Path.not_mem_of_isIdentifier hname (by decide)
      rw [Context.resolve, ScopeStack.resolve, Operand.ofText_of_isIdentifier hname hword, Operand.resolve,
        ScopeStack.valueOf, hbracket]
      exact ScopeStack.dotted_eq _ (Text.splitAtChar_of_not_mem hpoint) (by rw [hv]; rfl)

/-- There are no blanks to be taken away from it. -/
theorem read_resolve (h : c.Denotes n t) :
    (Operand.read t).resolve c.engine c.config.isStrict c.scopes = .ok (.int n) := by
  have hblank : ∀ d ∈ t, Text.isBlank d = false := fun d hd => (Bool.or_eq_false_iff.1 (h.isBound.word d hd).1).1
  have hresolve := h.resolve
  rwa [Context.resolve, ScopeStack.resolve, Operand.ofText, Text.strip_of_forall hblank] at hresolve

end Denotes

variable {c : Context} {a b n : Int} {first last : Text}

/-- The value of a range, from one number up to and including the other. -/
theorem resolve_rangeText (hfirst : c.Denotes a first) (hlast : c.Denotes b last) :
    c.resolve (Operand.rangeText first last) = .ok (.range a (b + 1)) := by
  rw [resolve, ScopeStack.resolve, Operand.ofText_rangeText hfirst.isBound hlast.isBound, Operand.resolve,
    hfirst.read_resolve, hlast.read_resolve]
  rfl

/-- **A range holds both of its bounds.**  A range whose bounds are written in decimal or as names, `contains` and a
number in decimal are read as one condition, and it holds exactly if the number is not less than the first bound and not
greater than the last one.  So nothing is in a range that ends before it begins. -/
theorem contains_range_inclusive (hfirst : c.Denotes a first) (hlast : c.Denotes b last)
    (hn : (Text.ofNat n.natAbs).length ≤ Numeral.maxDigits) :
    let condition : Condition := ⟨Operand.rangeText first last, some (.contains, Text.ofInt n)⟩
    (∀ tag, Expression.parse tag (Operand.rangeText first last ++ " contains ".toList ++ Text.ofInt n) =
      .ok ⟨[condition], [.and]⟩) ∧
    Expression.evaluate c ⟨[condition], [.and]⟩ = .ok (decide (a ≤ n ∧ n ≤ b)) ∧
    (b < a → Expression.evaluate c ⟨[condition], [.and]⟩ = .ok false) := by
  intro condition
  have hdecimal : c.Denotes n (Text.ofInt n) := .decimal hn
  have hleft : Token.Lexeme .word condition.left := Operand.lexeme_rangeText hfirst.isBound hlast.isBound
  have hright : Token.Lexeme .word (Text.ofInt n) :=
    .word (.of_forall hdecimal.isBound.word) hdecimal.isBound.nonempty
      (Text.ofInt_ne_cons (by decide) (by decide) n _)
  have hparse : ∀ tag, Expression.parse tag condition.text = .ok ⟨[condition], [.and]⟩ := by
    intro tag
    refine Expression.parse_comparison hleft hright ?_ tag .contains
    rw [List.forall_mem_cons, List.forall_mem_singleton]
    refine ⟨fun k => ?_, fun k => ?_⟩
    · cases k <;> exact fun he => absurd (List.cons.inj he).1 (by decide)
    · cases k <;> exact Text.ofInt_ne_cons (by decide) (by decide) n _
  have hinterpret : condition.interpret c = .ok (.bool (decide (a ≤ n ∧ n ≤ b))) := by
    simp only [condition, Condition.interpret, resolve_rangeText hfirst hlast, hdecimal.resolve, bind, Except.bind,
      Comparator.holds, Value.contains_range]
    rfl
  have hevaluate : Expression.evaluate c ⟨[condition], [.and]⟩ = .ok (decide (a ≤ n ∧ n ≤ b)) :=
    Expression.evaluate_singleton hinterpret
  refine ⟨?_, hevaluate, ?_⟩
  · intro tag
    rw [← Condition.text_contains]
    exact hparse tag
  · intro hempty
    rw [hevaluate, decide_eq_false (by omega)]

/-- The last number of a range from a negative number to a variable with letters outside ASCII. -/
theorem contains_range_inclusive_last :
    let c : Context := ⟨.single [("größe".toList, .int 3)], .standard ⟨2024, 2, 29, 0, 0, 0, 0, none⟩, {}⟩
    let condition : Condition := ⟨"(-2..größe)".toList, some (.contains, ['3'])⟩
    Expression.parse "unless".toList "(-2..größe) contains 3".toList = .ok ⟨[condition], [.and]⟩ ∧
      Expression.evaluate c ⟨[condition], [.and]⟩ = .ok true := by
  intro c condition
  have hfirst : c.Denotes (-2) (Text.ofInt (-2)) := .decimal (by decide)
  have hword : Value.ofWord? "größe".toList = none := by
    rw [Value.ofWord?, if_neg (by decide), if_neg (by decide), if_neg (by decide)]
  have hlast : c.Denotes 3 "größe".toList := .name (by decide +kernel) hword rfl
  obtain ⟨hparse, hevaluate, -⟩ := contains_range_inclusive (n := 3) hfirst hlast (by decide)
  exact ⟨hparse _, hevaluate⟩

end Context

end Liquid
