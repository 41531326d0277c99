import Liquid.Proofs.Escaping
import Liquid.Proofs.Number.Decimal
import Liquid.Proofs.Undefined

/-!
# Quoted keys

A key between quotes in brackets may have any character in it but the quote and the backslash.  Names between brackets
are replaced before the quotes are read, though, and those within a key are no exception.  So a key is looked up as it
is written if there is no name between brackets in it, and otherwise as what the replacement makes of it: another key,
if the names stand for whole numbers, or no key at all.

## Main statements

* `Bracket.fragments_append_quote` — no name between brackets reaches over a quote.
* `ScopeStack.expanded_key` — in a quoted key it is the names between brackets of the key that are replaced.
* `ScopeStack.wellFormed_expanded` — a key into which no quote is written can be read between quotes.
* `Context.resolve_quoted_key` — the value of a mapping with a quoted key behind it.
* `Context.resolve_quoted_key_replaced` — a key with a name between brackets is not looked up as it is written.
-/

namespace Liquid

theorem Text.takeWhile_append_cons_of_neg {p : Char → Bool} {c : Char} (h : p c = false) (t rest : Text) :
    (t ++ c :: rest).takeWhile p = t.takeWhile p := by
  induction t with
  | nil => exact List.takeWhile_cons_of_neg (by simp [h])
  | cons d t ih =>
      rw [List.cons_append, List.takeWhile_cons, List.takeWhile_cons, ih]

theorem Text.dropWhile_append_cons_of_neg {p : Char → Bool} {c : Char} (h : p c = false) (t rest : Text) :
    (t ++ c :: rest).dropWhile p = t.dropWhile p ++ c :: rest := by
  induction t with
  | nil => exact List.dropWhile_cons_of_neg (by simp [h])
  | cons d t ih =>
      rw [List.cons_append, List.dropWhile_cons, List.dropWhile_cons, ih]
      split <;> rfl

namespace Bracket

/-- A name and the bracket behind it are found in front of a quote or not at all. -/
theorem nameAt?_append_quote (t rest : Text) :
    nameAt? (t ++ '\'' :: rest) = (nameAt? t).map fun p => (p.1, p.2 ++ '\'' :: rest) := by
  have hstop : Text.isBlank '\'' = false ∧ isNameStart '\'' = false ∧ isNamePart '\'' = false := by decide
  rw [nameAt?, nameAt?, Text.dropBlanks, Text.dropWhile_append_cons_of_neg hstop.1, ← Text.dropBlanks]
  cases Text.dropBlanks t with
  | nil => simp [hstop.2.1]
  | cons c u =>
      by_cases hc : isNameStart c = true
      · simp only [List.cons_append, hc, if_true, Text.takeWhile_append_cons_of_neg hstop.2.2,
          Text.dropWhile_append_cons_of_neg hstop.2.2, Text.dropBlanks, Text.dropWhile_append_cons_of_neg hstop.1]
        cases (u.dropWhile isNamePart).dropWhile Text.isBlank with
        | nil => rfl
        | cons d v =>
            by_cases hd : d = ']'
            · subst hd
              rfl
            · simp [hd]
      · simp [hc]

/-- **No name between brackets reaches over a quote**: what is in front of it and what is behind it are cut alone. -/
theorem fragments_append_quote (t rest : Text) :
    fragments (t ++ '\'' :: rest) = fragments t ++ .character '\'' :: fragments rest := by
  fun_induction fragments t with
  | case1 => exact fragments_cons_of_ne (by decide) rest
  | case2 t name after h ih =>
      have hname : nameAt? (t ++ '\'' :: rest) = some (name, after ++ '\'' :: rest) := by
        rw [nameAt?_append_quote, h]
        rfl
      rw [List.cons_append, fragments_name hname, ih]
      rfl
  | case3 t h ih =>
      have hname : nameAt? (t ++ '\'' :: rest) = none := by
        rw [nameAt?_append_quote, h]
        rfl
      rw [List.cons_append, fragments_bracket hname, ih]
      rfl
  | case4 c t hc ih =>
      rw [List.cons_append, fragments_cons_of_ne hc, ih]
      rfl

theorem suffix_of_nameAt? {t name after : Text} (h : nameAt? t = some (name, after)) : after <:+ t := by
  unfold nameAt? at h
  split at h
  · simp at h
  · next c rest hfirst =>
      split at h
      · split at h
        · next after hclose =>
            simp only [Option.some.injEq, Prod.mk.injEq] at h
            obtain ⟨-, rfl⟩ := h
            have hrest : c :: rest <:+ t := hfirst ▸ List.dropWhile_suffix _
            have hafter : ']' :: after <:+ rest := hclose ▸ (List.dropWhile_suffix _).trans (List.dropWhile_suffix _)
            exact ((List.suffix_cons _ _).trans hafter).trans ((List.suffix_cons _ _).trans hrest)
        · simp at h
      · simp at h

/-- A character that stands for itself is one of the text. -/
theorem mem_of_character_mem_fragments {c : Char} {t : Text} (h : .character c ∈ fragments t) : c ∈ t := by
  fun_induction fragments t with
  | case1 => exact absurd h List.not_mem_nil
  | case2 t name after hname ih =>
      have hafter : c ∈ after := ih (by simpa using h)
      exact List.mem_cons_of_mem '[' ((suffix_of_nameAt? hname).subset hafter)
  | case3 t _ ih | case4 d t _ ih =>
      rcases List.mem_cons.1 h with he | h
      · obtain rfl : c = _ := Fragment.character.inj he
        exact List.mem_cons_self
      · exact List.mem_cons_of_mem _ (ih h)

/-- Without a name between brackets nothing is replaced. -/
theorem fragments_of_names_eq_nil {t : Text} (h : names t = []) : fragments t = t.map .character := by
  have hnone : ∀ name, .name name ∉ fragments t := fun name hname =>
    List.not_mem_nil (h ▸ mem_names_iff.2 hname)
  clear h
  fun_induction fragments t with
  | case1 => rfl
  | case2 t name after _ _ => exact absurd List.mem_cons_self (hnone name)
  | case3 t _ ih | case4 d t _ ih =>
      rw [ih fun name hname => hnone name (List.mem_cons_of_mem _ hname)]
      rfl

open Liquid.Path in
theorem fragments_quoted_key {root : Text} (hroot : '[' ∉ root) (key : Text) :
    fragments (root ++ (Step.key key).text) =
      (root ++ ['[', '\'']).map .character ++ (fragments key ++ ['\'', ']'].map .character) := by
  have hname : nameAt? ('\'' :: (key ++ ['\'', ']'])) = none := nameAt?_eq_none (by decide) (by decide)
  have hclose : fragments [']'] = [.character ']'] := fragments_of_not_mem (by decide)
  rw [Step.text, fragments_append hroot, fragments_bracket hname, fragments_cons_of_ne (by decide),
    fragments_append_quote, hclose]
  simp

end Bracket

namespace ScopeStack

open Outcome

open Liquid.Path (Step)

variable {strict : Bool} {s : ScopeStack} {root key key' : Text}

theorem stops_key : Path.Stops (Step.key key).text := by
  intro c hc
  exact .inr (Option.some.inj hc).symm

/-- **In a quoted key it is the names between brackets of the key that are replaced.** -/
theorem expanded_key (hroot : '[' ∉ root) (key : Text) :
    s.expanded strict (root ++ (Step.key key).text) =
      (s.expanded strict key).map fun key' => root ++ (Step.key key').text := by
  rw [expanded, expanded, Bracket.fragments_quoted_key hroot, List.mapM_append, List.mapM_append, expand_characters,
    expand_characters]
  cases (Bracket.fragments key).mapM (s.expand strict) <;>
    simp [bind, Except.bind, pure, Except.pure, Except.map, Step.text, ← List.flatMap_def]

/-- In the place of a name between brackets stands a whole number in brackets, or something with a quote in it. -/
theorem expand_name {name t : Text} (h : s.expand strict (.name name) = .ok t) :
    '[' ∈ t ∧ ('\'' ∉ t → ∃ n, t = ['['] ++ Text.ofInt n ++ [']']) := by
  obtain ⟨v, -, hwritten⟩ := bind_eq_ok_iff.1 h
  obtain ⟨body, hbody, ht⟩ := bind_eq_ok_iff.1 hwritten
  cases v with
  | int n =>
      obtain rfl : ['['] ++ body ++ [']'] = t := Except.ok.inj ht
      have hnumber : body = Text.ofInt n := by
        rw [Value.plainText, Value.written] at hbody
        split at hbody
        · exact (Except.ok.inj hbody).symm
        · simp at hbody
      exact ⟨by simp, fun _ => ⟨n, by rw [hnumber]⟩⟩
  | _ =>
      obtain rfl : ['[', '\''] ++ body ++ ['\'', ']'] = t := Except.ok.inj ht
      exact ⟨by simp, fun hquote => absurd (by simp) hquote⟩

/-- **A key into which no quote is written** can be read between quotes. -/
theorem wellFormed_expanded (h : s.expanded strict key = .ok key') (hkey : (Step.key key).WellFormed)
    (hquote : '\'' ∉ key') : (Step.key key').WellFormed := by
  obtain ⟨pieces, hpieces, rfl⟩ := map_eq_ok_iff.1 h
  have hforall := mapM_eq_ok_iff.1 hpieces
  refine ⟨hquote, ?_, ?_⟩
  · intro hescape
    obtain ⟨piece, hpiece, hmem⟩ := List.mem_flatten.1 hescape
    obtain ⟨fragment, hfragment, hexpand⟩ := exists_mem_of_forall₂ hforall hpiece
    cases fragment with
    | character c =>
        obtain rfl : [c] = piece := Except.ok.inj hexpand
        obtain rfl : '\\' = c := List.mem_singleton.1 hmem
        exact hkey.2.1 (Bracket.mem_of_character_mem_fragments hfragment)
    | name name =>
        obtain ⟨n, rfl⟩ := (expand_name hexpand).2 fun hq => hquote (List.mem_flatten.2 ⟨piece, hpiece, hq⟩)
        have hnumber : '\\' ∈ Text.ofInt n := by simpa using hmem
        rcases Text.eq_minus_or_isDigit_of_mem_ofInt hnumber with hc | hc <;> exact absurd hc (by decide)
  · -- A star alone has no bracket in it, so nothing was replaced.
    intro hstar
    have hnames : Bracket.names key = [] := by
      refine List.eq_nil_iff_forall_not_mem.2 fun name hname => ?_
      obtain ⟨piece, hpiece, hexpand⟩ := exists_mem_of_forall₂ hforall.flip (Bracket.mem_names_iff.1 hname)
      have hbracket : '[' ∈ pieces.flatten := List.mem_flatten.2 ⟨piece, hpiece, (expand_name hexpand).1⟩
      rw [hstar] at hbracket
      exact absurd hbracket (by decide)
    have hsame : s.expanded strict key = .ok key := expanded_eq (Bracket.fragments_of_names_eq_nil hnames)
    rw [h, Except.ok.injEq] at hsame
    exact hkey.2.2 (hsame.symm.trans hstar)

section Reading

variable {engine : PathEngine} {entries : List (Value × Value)} {e : Error}

/-- **A mapping with a quoted key behind it** is the entry with the key in which the names have been replaced. -/
theorem bracketed_quoted_key (hengine : engine.SelectsEntries) (hroot : Text.isIdentifier root = true)
    (hplain : Path.isPlainName root = true) (hv : s.lookup root = some (.mapping entries))
    (hkey : (Step.key key).WellFormed) (h : s.expanded strict key = .ok key') (hquote : '\'' ∉ key') :
    s.bracketed engine strict (root ++ (Step.key key).text) =
      match Value.lookupText key' entries with
      | some v => .ok v
      | none => undefined strict (root ++ (Step.key key).text) := by
  have hfirst : Bracket.root (root ++ (Step.key key).text) = root := Bracket.root_append hroot stops_key
  have hspelled : s.expanded strict (root ++ (Step.key key).text) = .ok (Path.spelling root [.key key']) := by
    rw [expanded_key (Path.not_mem_of_isIdentifier hroot (by decide)), h]
    simp [Except.map, Path.spelling, Step.texts]
  rw [bracketed_of_expanded hfirst hspelled hv,
    select_key hengine hroot hplain (wellFormed_expanded h hkey hquote) hv]
  cases Value.lookupText key' entries <;> rfl

/-- A name in a quoted key that cannot be replaced is an error of the variable. -/
theorem bracketed_quoted_key_eq_error (hroot : Text.isIdentifier root = true)
    (hv : s.lookup root = some (.mapping entries)) (h : s.expanded strict key = .error e) :
    s.bracketed engine strict (root ++ (Step.key key).text) = .error e := by
  have hfirst : Bracket.root (root ++ (Step.key key).text) = root := Bracket.root_append hroot stops_key
  rcases scopeOf?_cases s root with ⟨-, hnone⟩ | ⟨scope, -, hscope, -, -⟩
  · exact absurd (hnone.symm.trans hv) nofun
  · rw [bracketed, hfirst, hscope, expanded_key (Path.not_mem_of_isIdentifier hroot (by decide)), h]
    rfl

end Reading

end ScopeStack

namespace Context

open Liquid.Path

/-- **A quoted key is looked up with the names between brackets in it replaced.**  Without such a name it is looked up
as it is written, brackets, points, blanks and names of variables included, whatever other variables are.  If the names
stand for whole numbers, these stand in the key that is looked up; a name that stands for something else puts a quote
into the key.  If a name cannot be replaced, nothing is looked up. -/
theorem resolve_quoted_key {c : Context} {root key : Text} {entries : List (Value × Value)}
    (hengine : c.engine.SelectsEntries) (hroot : Text.isIdentifier root = true) (hplain : isPlainName root = true)
    (hv : c.scopes.lookup root = some (.mapping entries)) (hquote : '\'' ∉ key) (hescape : '\\' ∉ key)
    (hstar : key ≠ ['*']) :
    let path : Text := root ++ "['".toList ++ key ++ "']".toList
    let entry : Text → Except Error Value := fun key =>
      match Value.lookupText key entries with
      | some v => .ok v
      | none => ScopeStack.undefined c.config.isStrict path
    (Bracket.names key = [] → c.resolve path = entry key) ∧
    (∀ key', c.scopes.expanded c.config.isStrict key = .ok key' → '\'' ∉ key' → c.resolve path = entry key') ∧
    ∀ e, c.scopes.expanded c.config.isStrict key = .error e → c.resolve path = .error e := by
  intro path entry
  have htext : path = root ++ (Step.key key).text := by simp [path, Step.text]
  have hclosed : (Step.key key).text = '[' :: '\'' :: (key ++ ['\'']) ++ [']'] := by simp [Step.text]
  have hresolve : c.resolve path = c.scopes.bracketed c.engine c.config.isStrict path := by
    rw [htext]
    exact resolve_of_isPlainName hroot hplain List.mem_cons_self (by rw [hclosed, List.getLast?_concat])
  have hreplaced : ∀ key', c.scopes.expanded c.config.isStrict key = .ok key' → '\'' ∉ key' →
      c.resolve path = entry key' := by
    intro key' hkey' hquote'
    rw [hresolve]
    simp only [entry, htext]
    exact ScopeStack.bracketed_quoted_key hengine hroot hplain hv ⟨hquote, hescape, hstar⟩ hkey' hquote'
  refine ⟨fun hnames => hreplaced key ?_ hquote, hreplaced, fun e he => ?_⟩
  · exact ScopeStack.expanded_eq (Bracket.fragments_of_names_eq_nil hnames)
  · rw [hresolve, htext]
    exact ScopeStack.bracketed_quoted_key_eq_error hroot hv he

/-- A key with a number in brackets, a blank, a point and the name of a variable. -/
theorem resolve_quoted_key_verbatim :
    let key : Text := "m [1].m".toList
    let entries : List (Value × Value) := [(.text key, .int 1)]
    let c : Context := ⟨.single [(['m'], .mapping entries)], .standard ⟨2024, 2, 29, 0, 0, 0, 0, none⟩, {}⟩
    c.resolve "m['m [1].m']".toList = .ok (.int 1) := by
  intro key entries c
  have hfound : Value.lookupText key entries = some (.int 1) := by
    simp [entries, Value.lookupText, Value.lookupKey, Value.found_text]
  have hv : c.scopes.lookup ['m'] = some (.mapping entries) := rfl
  have hnames : Bracket.names key = [] := by decide +kernel
  have h := (resolve_quoted_key (c := c) PathEngine.selectsEntries_standard (by decide) (by decide) hv (by decide)
    (by decide) (by decide)).1 hnames
  simp only [hfound] at h
  exact h

/-- A key with a name between brackets, the number of the name in its place: another entry is reached. -/
theorem resolve_quoted_key_replaced :
    let entries : List (Value × Value) := [(.text "[a]".toList, .text ['x']), (.text "[3]".toList, .text ['y'])]
    let c : Context := ⟨.single [(['m'], .mapping entries), (['a'], .int 3)],
      .standard ⟨2024, 2, 29, 0, 0, 0, 0, none⟩, {}⟩
    c.scopes.lookup ['m'] = some (.mapping entries) ∧ Value.lookupText "[a]".toList entries = some (.text ['x']) ∧
      c.resolve "m['[a]']".toList = .ok (.text ['y']) := by
  intro entries c
  have hfound : Value.lookupText "[a]".toList entries = some (.text ['x']) := by
    simp [entries, Value.lookupText, Value.lookupKey, Value.found_text]
  exact ⟨rfl, hfound, Value.eq_ok_text_of_asText? (by decide +kernel)⟩

end Context

end Liquid
