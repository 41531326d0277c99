import Liquid.Number.Numeral

/-!
# Paths

A path selects values inside a value: by the keys of mappings, by positions and slices of sequences, at any
depth, or by the presence of something further inside.  The written form of a path is read in three steps: into
symbols, into operands and operators, and into a path.  Among the operators, `..` binds loosest, then `.`,
`|`, `&`, `where` and `wherenot`, all from the left; a bracket behind an operand applies to everything before
it.

## Main definitions

* `Path` — the paths.
* `Path.Symbol.scan?` — the symbols of a text.
* `Path.items?` — operands and operators.
* `Path.assemble?` — a path from its operands and operators.
* `Path.parse?` — all of them.
-/

namespace Liquid

/-- A path into a value. -/
inductive Path
  | root
  | this
  | parent
  /-- The entries with the given keys; the key `*` stands for all entries. -/
  | fields (names : List Text)
  | index (positions : List Int)
  | slice (start stop step : Option Int)
  | child (left right : Path)
  | descendants (left right : Path)
  | filtered (left right : Path)
  | unfiltered (left right : Path)
  | union (left right : Path)
  | intersection (left right : Path)
  deriving DecidableEq

namespace Path

/-! ## Symbols -/

/-- An operator between two paths. -/
inductive Operator
  | descendants
  | child
  | union
  | intersection
  | filtered
  | unfiltered
  deriving DecidableEq

namespace Operator

/-- How tightly an operator binds. -/
def rank : Operator → Nat
  | descendants => 1
  | child => 2
  | union => 3
  | intersection => 4
  | filtered => 5
  | unfiltered => 6

/-- The path that an operator makes of two. -/
def apply : Operator → Path → Path → Path
  | descendants => Path.descendants
  | child => Path.child
  | union => Path.union
  | intersection => Path.intersection
  | filtered => Path.filtered
  | unfiltered => Path.unfiltered

end Operator

/-- A symbol of a written path. -/
inductive Symbol
  | operator (o : Operator)
  | name (t : Text)
  | number (n : Int)
  /-- A word between backquotes. -/
  | special (t : Text)
  | root
  | star
  | comma
  | colon
  | openBracket
  | closeBracket
  | openParen
  | closeParen
  deriving DecidableEq

/-- Why a written path is not read. -/
inductive ReadError
  | malformed
  | tooManyDigits
  deriving DecidableEq

namespace Symbol

/-- A character that may begin a name outside quotes. -/
def isNameStart (c : Char) : Bool := c.isAlpha || c == '_' || c == '@'

/-- A character that may continue a name outside quotes. -/
def isNamePart (c : Char) : Bool := isNameStart c || c.isDigit || c == '-'

/-- The rest of a text quoted by `quote`, without the closing quote, and the text after it.  A backslash
stands before a character that is taken as it is; a line end cannot be taken so. -/
def quoted? (quote : Char) : Text → Option (Text × Text)
  | [] => none
  | c :: rest =>
    if c = quote then some ([], rest)
    else if c = '\\' then
      match rest with
      | [] => none
      | d :: rest => if d = '\n' then none else (quoted? quote rest).map fun p => (d :: p.1, p.2)
    else (quoted? quote rest).map fun p => (c :: p.1, p.2)

theorem quoted?_length_le {quote : Char} {t body after : Text} (h : quoted? quote t = some (body, after)) :
    after.length ≤ t.length := by
  fun_induction quoted? quote t generalizing body after with
  | case1 => simp at h
  | case2 => simp only [Option.some.injEq, Prod.mk.injEq] at h; simp [← h.2]
  | case3 => simp at h
  | case4 => simp at h
  | case5 _ _ _ _ ih =>
    obtain ⟨⟨b, a⟩, hp, he⟩ := Option.map_eq_some_iff.1 h
    simp only [Prod.mk.injEq] at he
    have := ih hp
    simp only [← he.2, List.length_cons]
    omega
  | case6 _ _ _ _ ih =>
    obtain ⟨⟨b, a⟩, hp, he⟩ := Option.map_eq_some_iff.1 h
    simp only [Prod.mk.injEq] at he
    have := ih hp
    simp only [← he.2, List.length_cons]
    omega

/-- A name that is not quoted; two names are operators. -/
def ofName (t : Text) : Symbol :=
  if t = "where".toList then .operator .filtered
  else if t = "wherenot".toList then .operator .unfiltered
  else .name t

/-- The symbol of a single character. -/
def ofChar? (c : Char) : Option Symbol :=
  match c with
  | '.' => some (.operator .child)
  | '|' => some (.operator .union)
  | '&' => some (.operator .intersection)
  | '$' => some .root
  | '*' => some .star
  | ',' => some .comma
  | ':' => some .colon
  | '[' => some .openBracket
  | ']' => some .closeBracket
  | '(' => some .openParen
  | ')' => some .closeParen
  | _ => none

/-- The decimal digits at the head of a text, and the text after them. -/
def digits (t : Text) : Text × Text := (t.takeWhile Text.isDecimal, t.dropWhile Text.isDecimal)

/-- The symbol that begins with `c`, and the text after it. -/
def next? (c : Char) (rest : Text) : Except ReadError (Symbol × Text) :=
  if isNameStart c then .ok (ofName (c :: rest.takeWhile isNamePart), rest.dropWhile isNamePart)
  else if Text.isDecimal c || (c = '-' && rest.head?.any Text.isDecimal) then
    match Numeral.integer? (c :: (digits rest).1) with
    | some n => .ok (.number n, (digits rest).2)
    | none => .error .tooManyDigits
  else if c = '\'' || c = '"' || c = '`' then
    match quoted? c rest with
    | some (t, after) => .ok (if c = '`' then .special t else .name t, after)
    | none => .error .malformed
  else if c = '.' && rest.head? = some '.' then .ok (.operator .descendants, rest.drop 1)
  else
    match ofChar? c with
    | some s => .ok (s, rest)
    | none => .error .malformed

theorem next?_length_le {c : Char} {rest after : Text} {s : Symbol} (h : next? c rest = .ok (s, after)) :
    after.length ≤ rest.length := by
  unfold next? at h
  split at h
  · simp only [Except.ok.injEq, Prod.mk.injEq] at h
    rw [← h.2]
    exact Text.length_dropWhile_le _ _
  · split at h
    · split at h
      · simp only [Except.ok.injEq, Prod.mk.injEq] at h
        rw [← h.2]
        exact Text.length_dropWhile_le _ _
      · simp at h
    · split at h
      · split at h
        · next hq =>
          simp only [Except.ok.injEq, Prod.mk.injEq] at h
          rw [← h.2]
          exact quoted?_length_le hq
        · simp at h
      · split at h
        · simp only [Except.ok.injEq, Prod.mk.injEq] at h
          rw [← h.2]
          simp
        · split at h
          · simp only [Except.ok.injEq, Prod.mk.injEq] at h
            exact Nat.le_of_eq (congrArg List.length h.2.symm)
          · simp at h

/-- The symbols of a text; spaces, tabs and line feeds between them are passed over. -/
def scan? : Text → Except ReadError (List Symbol)
  | [] => .ok []
  | c :: rest =>
    if c = ' ' || c = '\t' || c = '\n' then scan? rest
    else
      match _h : next? c rest with
      | .error e => .error e
      | .ok (s, after) => (scan? after).map (s :: ·)
  termination_by t => t.length
  decreasing_by
    · simp
    · exact Nat.lt_succ_of_le (next?_length_le _h)

end Symbol

/-! ## Operands and operators -/

/-- A part of a path expression. -/
inductive Item
  | operand (p : Path)
  /-- A path in brackets: an operand by itself, or a step from the operand before it. -/
  | bracket (p : Path)
  | operator (o : Operator)
  | openParen
  | closeParen

/-- Further names after a comma each, and the symbols after them. -/
def moreNames : List Symbol → List Text × List Symbol
  | .comma :: .name t :: rest =>
    let (ts, after) := moreNames rest
    (t :: ts, after)
  | rest => ([], rest)

theorem moreNames_length_le (s : List Symbol) : (moreNames s).2.length ≤ s.length := by
  fun_induction moreNames s with
  | case1 t rest ts after h ih =>
    rw [h] at ih
    have hle : after.length ≤ rest.length := ih
    simp only [List.length_cons]
    omega
  | case2 => exact Nat.le_refl _

/-- Further numbers after a comma each, and the symbols after them. -/
def moreNumbers : List Symbol → List Int × List Symbol
  | .comma :: .number n :: rest =>
    let (ns, after) := moreNumbers rest
    (n :: ns, after)
  | rest => ([], rest)

theorem moreNumbers_length_le (s : List Symbol) : (moreNumbers s).2.length ≤ s.length := by
  fun_induction moreNumbers s with
  | case1 t rest ts after h ih =>
    rw [h] at ih
    have hle : after.length ≤ rest.length := ih
    simp only [List.length_cons]
    omega
  | case2 => exact Nat.le_refl _

/-- A number, if one stands first, and the symbols after it. -/
def bound : List Symbol → Option Int × List Symbol
  | .number n :: rest => (some n, rest)
  | rest => (none, rest)

theorem bound_length_le (s : List Symbol) : (bound s).2.length ≤ s.length := by
  unfold bound
  split <;> simp

/-- The rest of a slice after its first bound: a colon, a second bound, perhaps a colon and a step, and the
closing bracket. -/
def sliceAfter? (start : Option Int) : List Symbol → Option (Path × List Symbol)
  | .colon :: rest =>
    match (bound rest).2 with
    | .closeBracket :: after => some (.slice start (bound rest).1 none, after)
    | .colon :: rest' =>
      match (bound rest').2 with
      | .closeBracket :: after => some (.slice start (bound rest).1 (bound rest').1, after)
      | _ => none
    | _ => none
  | _ => none

theorem sliceAfter?_length_lt {start : Option Int} {s after : List Symbol} {p : Path}
    (h : sliceAfter? start s = some (p, after)) : after.length < s.length := by
  unfold sliceAfter? at h
  split at h
  · next rest =>
    have hb := bound_length_le rest
    split at h
    · next hr =>
      simp only [Option.some.injEq, Prod.mk.injEq] at h
      obtain ⟨_, rfl⟩ := h
      rw [hr] at hb
      simp only [List.length_cons] at hb ⊢
      omega
    · next rest' hr =>
      have hb' := bound_length_le rest'
      split at h
      · next hr' =>
        simp only [Option.some.injEq, Prod.mk.injEq] at h
        obtain ⟨_, rfl⟩ := h
        rw [hr] at hb
        rw [hr'] at hb'
        simp only [List.length_cons] at hb hb' ⊢
        omega
      · simp at h
    · simp at h
  · simp at h

/-- What stands in a bracket, after its opening, and the symbols after the closing bracket. -/
def bracket? : List Symbol → Option (Path × List Symbol)
  | .star :: .closeBracket :: after => some (.slice none none none, after)
  | .name t :: rest =>
    match (moreNames rest).2 with
    | .closeBracket :: after => some (.fields (t :: (moreNames rest).1), after)
    | _ => none
  | .number n :: rest =>
    match (moreNumbers rest).2 with
    | .closeBracket :: after => some (.index (n :: (moreNumbers rest).1), after)
    | _ => sliceAfter? (some n) rest
  | rest => sliceAfter? none rest

theorem bracket?_length_lt {s after : List Symbol} {p : Path} (h : bracket? s = some (p, after)) :
    after.length < s.length := by
  unfold bracket? at h
  split at h
  · simp only [Option.some.injEq, Prod.mk.injEq] at h
    obtain ⟨_, rfl⟩ := h
    simp only [List.length_cons]
    omega
  · next rest =>
    have hm := moreNames_length_le rest
    split at h
    · next hr =>
      simp only [Option.some.injEq, Prod.mk.injEq] at h
      obtain ⟨_, rfl⟩ := h
      rw [hr] at hm
      simp only [List.length_cons] at hm ⊢
      omega
    · simp at h
  · next rest =>
    have hm := moreNumbers_length_le rest
    split at h
    · next hr =>
      simp only [Option.some.injEq, Prod.mk.injEq] at h
      obtain ⟨_, rfl⟩ := h
      rw [hr] at hm
      simp only [List.length_cons] at hm ⊢
      omega
    · exact Nat.lt_succ_of_lt (sliceAfter?_length_lt h)
  · exact sliceAfter?_length_lt h

/-- The path that a word between backquotes stands for. -/
def ofSpecial? (t : Text) : Option Path :=
  if t = "this".toList then some .this else if t = "parent".toList then some .parent else none

/-- The item at the head of the symbols, and the symbols after it.  A number outside brackets names one entry
for each of its characters. -/
def item? : Symbol → List Symbol → Option (Item × List Symbol)
  | .operator o, rest => some (.operator o, rest)
  | .name t, rest => some (.operand (.fields (t :: (moreNames rest).1)), (moreNames rest).2)
  | .number n, rest => some (.operand (.fields ((Text.ofInt n).map ([·]))), rest)
  | .special t, rest => (ofSpecial? t).map fun p => (.operand p, rest)
  | .root, rest => some (.operand .root, rest)
  | .star, rest => some (.operand (.fields [['*']]), rest)
  | .openBracket, rest => (bracket? rest).map fun p => (.bracket p.1, p.2)
  | .openParen, rest => some (.openParen, rest)
  | .closeParen, rest => some (.closeParen, rest)
  | .comma, _ | .colon, _ | .closeBracket, _ => none

theorem item?_length_le {s : Symbol} {rest after : List Symbol} {i : Item}
    (h : item? s rest = some (i, after)) : after.length ≤ rest.length := by
  cases s with
  | name t =>
    simp only [item?, Option.some.injEq, Prod.mk.injEq] at h
    rw [← h.2]
    exact moreNames_length_le rest
  | special t =>
    obtain ⟨p, _, hp⟩ := Option.map_eq_some_iff.1 h
    simp only [Prod.mk.injEq] at hp
    exact Nat.le_of_eq (congrArg List.length hp.2.symm)
  | openBracket =>
    obtain ⟨p, hp, hi⟩ := Option.map_eq_some_iff.1 h
    simp only [Prod.mk.injEq] at hi
    rw [← hi.2]
    exact Nat.le_of_lt (bracket?_length_lt hp)
  | _ => simp_all [item?]

/-- The operands and operators that symbols form. -/
def items? : List Symbol → Option (List Item)
  | [] => some []
  | s :: rest =>
    match _h : item? s rest with
    | none => none
    | some (i, after) => (items? after).map (i :: ·)
  termination_by s => s.length
  decreasing_by exact Nat.lt_succ_of_le (item?_length_le _h)

/-! ## Assembly -/

/-- Operands that wait for the right operand of their operator, the last one first. -/
abbrev Pending := List (Path × Operator)

/-- Gives `right` to the waiting operators that bind at least as tightly as `rank`. -/
def close (rank : Nat) : Pending → Path → Pending × Path
  | [], right => ([], right)
  | (left, o) :: pending, right =>
    if rank ≤ o.rank then close rank pending (o.apply left right) else ((left, o) :: pending, right)

/-- Gives `right` to all waiting operators. -/
def closeAll (pending : Pending) (right : Path) : Path := (close 0 pending right).2

/-- The path that operands and operators form; `outer` are the waiting operands outside each open
parenthesis, and `current` is the operand before the items, if the last item was one. -/
def assemble? (outer : List Pending) (pending : Pending) : (current : Option Path) → List Item → Option Path
  | some p, [] => if outer.isEmpty then some (closeAll pending p) else none
  | none, [] => none
  | none, .operand p :: rest => assemble? outer pending (some p) rest
  | none, .bracket p :: rest => assemble? outer pending (some p) rest
  | none, .openParen :: rest => assemble? (pending :: outer) [] none rest
  | none, .operator _ :: _ => none
  | none, .closeParen :: _ => none
  | some p, .operator o :: rest =>
    let (pending, left) := close o.rank pending p
    assemble? outer ((left, o) :: pending) none rest
  | some p, .bracket b :: rest => assemble? outer [] (some (.child (closeAll pending p) b)) rest
  | some p, .closeParen :: rest =>
    match outer with
    | [] => none
    | waiting :: outer => assemble? outer waiting (some (closeAll pending p)) rest
  | some _, .operand _ :: _ => none
  | some _, .openParen :: _ => none

/-- The path that a text denotes. -/
def parse? (t : Text) : Except ReadError Path := do
  let symbols ← Symbol.scan? t
  match (items? symbols).bind (assemble? [] [] none) with
  | some p => .ok p
  | none => .error .malformed

end Path
end Liquid
