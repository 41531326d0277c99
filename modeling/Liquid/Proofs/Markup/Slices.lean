import Liquid.Proofs.Markup.Joining

/-!
# Slices of a text

A token does not depend on what stands around it, as long as it ends where it did.  So texts with blanks between them
have the tokens of each, and what stands from one token of a text to another has the tokens between these two: tokens
are put together and cut out together with their texts.

## Main statements

* `Token.tokenize_append_blanks` — the tokens of two texts with blanks between them.
* `Token.tokenize_extract` — the tokens of what stands from one token to another.
* `Token.tokenize_joined_and_cut` — both for every text.
-/

namespace Liquid.Token

variable {a b t blanks : Text} {ts us tokens : List Token}

/-- **The tokens of two texts with blanks between them**, the end of the second included. -/
theorem tokenize_append_blanks (ha : tokenize a = .ok ts) (hb : tokenize b = .ok us) (hne : blanks ≠ [])
    (hblanks : ∀ c ∈ blanks, Text.isBlank c = true) :
    tokenize (a ++ blanks ++ b) = .ok (ts.dropLast ++ us.map (shift (a.length + blanks.length))) := by
  obtain ⟨ts, hts, rfl⟩ := tokenize_eq_ok_iff_scan.1 ha
  obtain ⟨us, hus, rfl⟩ := tokenize_eq_ok_iff_scan.1 hb
  have hscan := scan_append_blanks hts hus hblanks hne
  have hend : shift (a.length + blanks.length) (atEnd b) = atEnd (a ++ (blanks ++ b)) := by
    simp only [shift, atEnd, List.length_append, Token.mk.injEq, true_and]
    omega
  rw [List.append_assoc a, List.dropLast_concat, List.map_append, List.map_singleton, hend]
  exact tokenize_eq_ok_iff_scan.2 ⟨_, hscan, (List.append_assoc ts _ _).symm⟩

section

variable {first last : Token} {i j : Nat}

/-- A run of tokens reaches from the first of them to the last. -/
theorem source_extract (hij : i ≤ j) (hfirst : tokens[i]? = some first) (hlast : tokens[j]? = some last) :
    source t (tokens.extract i (j + 1)) = t.extract first.position last.stop := by
  have hhead : (tokens.extract i (j + 1)).head? = some first := by
    rw [List.extract_eq_take_drop, List.head?_take, if_neg (by omega), List.head?_drop, hfirst]
  have hgetLast : (tokens.extract i (j + 1)).getLast? = some last := by
    have hplace : i + (j + 1 - i - 1) = j := by omega
    rw [List.extract_eq_take_drop, List.getLast?_take, if_neg (by omega), List.getElem?_drop, hplace, hlast]
    rfl
  rw [source, hhead, hgetLast, List.extract_eq_take_drop]

/-- **The tokens of what stands from one token to another** are those between the two, with their offsets counted from
the first. -/
theorem tokenize_extract (h : tokenize t = .ok tokens) (hij : i ≤ j) (hj : j + 1 < tokens.length)
    (hfirst : tokens[i]? = some first) (hlast : tokens[j]? = some last) :
    ∃ run, run.map (shift first.position) = tokens.extract i (j + 1) ∧
      tokenize (t.extract first.position last.stop) = .ok (run ++ [atEnd (t.extract first.position last.stop)]) := by
  obtain ⟨scanned, hscan, rfl⟩ := tokenize_eq_ok_iff_scan.1 h
  rw [List.length_append, List.length_singleton, Nat.add_lt_add_iff_right] at hj
  rw [List.getElem?_append_left hj] at hlast
  rw [List.getElem?_append_left (Nat.lt_of_le_of_lt hij hj)] at hfirst
  have hcut : (scanned ++ [atEnd t]).extract i (j + 1) = scanned.extract i (j + 1) := by
    rw [List.extract_eq_take_drop, List.drop_append_of_le_length (by omega), List.take_append_of_le_length,
      List.extract_eq_take_drop]
    rw [List.length_drop]
    omega
  have hsource := source_extract (t := t) hij hfirst hlast
  obtain ⟨others, hothers⟩ : ∃ others, scanned.extract i (j + 1) = first :: others := by
    obtain ⟨hi, rfl⟩ := List.getElem?_eq_some_iff.1 hfirst
    rw [List.extract_eq_take_drop, List.drop_eq_getElem_cons hi, Nat.sub_add_comm hij, List.take_succ_cons]
    exact ⟨_, rfl⟩
  have hparts : scanned.take i ++ (first :: others ++ scanned.drop (j + 1)) = scanned := by
    have hsum : j + 1 = i + (j + 1 - i) := by omega
    rw [← hothers, List.extract_eq_take_drop, hsum, ← List.drop_drop, ← hsum, List.take_append_drop,
      List.take_append_drop]
  rw [← hparts] at hscan
  obtain ⟨run, hshift, hrun⟩ := scan_source hscan
  rw [← hothers, hsource] at hrun
  refine ⟨run, ?_, tokenize_eq_ok_iff.2 hrun⟩
  rw [hcut, hothers, hshift]

end

/-- **Tokens are put together and cut out together with their texts.**  Two texts with blanks between them have the
tokens of the first, and behind them those of the second with their offsets moved.  What stands in a text from one
token to another, neither of them its end, has the tokens between these two, with their offsets counted from the
first. -/
theorem tokenize_joined_and_cut :
    (∀ (a b blanks : Text) (ts us : List Token), tokenize a = .ok ts → tokenize b = .ok us → blanks ≠ [] →
      (∀ c ∈ blanks, Text.isBlank c = true) →
      tokenize (a ++ blanks ++ b) = .ok (ts.dropLast ++ us.map (shift (a.length + blanks.length)))) ∧
    ∀ (t : Text) (tokens : List Token) (i j : Nat) (first last : Token), tokenize t = .ok tokens → i ≤ j →
      j + 1 < tokens.length → tokens[i]? = some first → tokens[j]? = some last →
      ∃ run, run.map (shift first.position) = tokens.extract i (j + 1) ∧
        tokenize (t.extract first.position last.stop) = .ok (run ++ [atEnd (t.extract first.position last.stop)]) :=
  ⟨fun _ _ _ _ _ => tokenize_append_blanks, fun _ _ _ _ _ _ => tokenize_extract⟩

/-- A comparator that would take in the one behind the blanks, and a quoted bracket between brackets. -/
theorem tokenize_joined_and_cut_brackets :
    let a : Text := "x <".toList
    let b : Text := "== y[']| ']".toList
    let t : Text := "x < \t== y[']| ']".toList
    tokenize a = .ok [⟨.word, ['x'], 0⟩, ⟨.comparator, ['<'], 2⟩, ⟨.finish, [], 3⟩] ∧
      tokenize b = .ok [⟨.comparator, "==".toList, 0⟩, ⟨.word, "y[']| ']".toList, 3⟩, ⟨.finish, [], 11⟩] ∧
      tokenize t = .ok [⟨.word, ['x'], 0⟩, ⟨.comparator, ['<'], 2⟩, ⟨.comparator, "==".toList, 5⟩,
        ⟨.word, "y[']| ']".toList, 8⟩, ⟨.finish, [], 16⟩] ∧
      ∃ run, run.map (shift 2) = [⟨.comparator, ['<'], 2⟩, ⟨.comparator, "==".toList, 5⟩] ∧
        tokenize "< \t==".toList = .ok (run ++ [⟨.finish, [], 5⟩]) := by
  intro a b t
  have ha : tokenize a = .ok [⟨.word, ['x'], 0⟩, ⟨.comparator, ['<'], 2⟩, ⟨.finish, [], 3⟩] :=
    Outcome.eq_ok_of_toOption (by decide +kernel)
  have hb : tokenize b = .ok [⟨.comparator, "==".toList, 0⟩, ⟨.word, "y[']| ']".toList, 3⟩, ⟨.finish, [], 11⟩] :=
    Outcome.eq_ok_of_toOption (by decide +kernel)
  obtain ⟨hjoined, hcut⟩ := tokenize_joined_and_cut
  have ht := hjoined a b [' ', '\t'] _ _ ha hb (List.cons_ne_nil _ _)
    (List.forall_mem_cons.2 ⟨by decide, List.forall_mem_singleton.2 (by decide)⟩)
  exact ⟨ha, hb, ht, hcut t _ 1 2 _ _ ht (by decide) (by decide) rfl rfl⟩

end Liquid.Token
