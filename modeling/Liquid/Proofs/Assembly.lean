import Liquid.Block
import Liquid.Proofs.Outcome

/-!
# How a block is assembled

A block keeps its guarded branches and its branch without a guard apart, so that the latter is always the last.
Seen from outside a block is one list of alternatives, to which calls append: a call opens an alternative behind
the others, or puts a node into the one that was opened last, or is refused and leaves everything as it was.  Here
the list and the place of its current alternative are kept as such, each call is a step on them, and this is shown
to be the same as building a block.

## Main definitions

* `Alternative`, `Block.alternatives` — what a block consists of, in the order in which it was opened.
* `Assembly` — the list of alternatives and the place of the current one.
* `Block.Call`, `Assembly.perform`, `Block.apply` — the calls that build a block, on either form.
* `Assembly.WellFormed` — what holds of every assembly that calls lead to.

## Main statements

* `Assembly.perform_cases` — all that a call can do.
* `Assembly.WellFormed.perform`, `Assembly.WellFormed.after` — one call and all calls keep an assembly well-formed.
* `Block.perform_assembly` — a call does to the assembly of a block what it does to the block.
* `Block.assembly_after_calls` — what is known about a block after any calls.
-/

namespace Liquid

/-- An alternative of a block: its guard as it is written and as it is read, if it has one, and its body. -/
structure Alternative (ν : Type) where
  guard : Option (Text × Expression)
  body : List ν

/-- A guarded branch as an alternative. -/
def Branch.alternative {ν : Type} (branch : Branch ν) : Alternative ν :=
  ⟨some (branch.source, branch.guard), branch.body⟩

/-- A call that builds a block. -/
inductive Block.Call (ν : Type)
  | node (node : ν)
  | branch (source : Text)
  | otherwise
  | tag (name : Text)

/-- The node that a call adds. -/
def Block.Call.node? {ν : Type} : Block.Call ν → Option ν
  | .node added => some added
  | _ => none

/-- A block while it is assembled. -/
structure Assembly (ν : Type) where
  /-- The tag that messages about its guards name. -/
  guardTag : Text
  /-- The alternatives in the order in which they were opened. -/
  alternatives : List (Alternative ν)
  /-- The place of the alternative that takes nodes. -/
  current : Nat

/-- A step of assembling a block.  The assembly is there after an error as well. -/
abbrev Assembling (ν α : Type) := ExceptT SyntaxError (StateM (Assembly ν)) α

namespace Assembly

open Block (Call)

variable {ν : Type}

/-- Whether there is an alternative without a guard. -/
def hasElse (a : Assembly ν) : Bool := a.alternatives.any fun alternative => alternative.guard.isNone

/-- An assembly with one more alternative, which becomes the current one. -/
def extended (a : Assembly ν) (guard : Option (Text × Expression)) : Assembly ν :=
  { a with alternatives := a.alternatives ++ [⟨guard, []⟩], current := a.alternatives.length }

/-- An assembly with one more node in its current alternative. -/
def withNode (a : Assembly ν) (node : ν) : Assembly ν :=
  { a with alternatives := a.alternatives.modify a.current fun last => { last with body := last.body ++ [node] } }

/-- Opens an alternative. -/
def openAlternative (guard : Option (Text × Expression)) : Assembling ν Unit := modify fun a => a.extended guard

/-- Adds a node to the current alternative. -/
def addNode (node : ν) : Assembling ν Unit := modify fun a => a.withNode node

/-- Opens a guarded alternative. -/
def addBranch (source : Text) : Assembling ν Unit := do
  let a ← get
  if a.hasElse then throw ⟨.branchAfterElse Block.tagName, some source, none⟩
  let guard ← MonadExcept.ofExcept (Expression.parse a.guardTag source)
  openAlternative (some (source, guard))

/-- Opens the alternative without a guard. -/
def addElse : Assembling ν Unit := do
  if (← get).hasElse then throw ⟨.duplicateElse Block.tagName, none, none⟩
  openAlternative none

/-- Follows a tag that is found inside the block. -/
def addTag (name : Text) : Assembling ν Unit :=
  if name = Block.elseName then addElse else throw ⟨.unknownTag name Block.tagName, none, none⟩

/-- Follows a call. -/
def perform : Call ν → Assembling ν Unit
  | .node node => addNode node
  | .branch source => addBranch source
  | .otherwise => addElse
  | .tag name => addTag name

/-- The assembly that a markup opens. -/
def opened (guardTag markup : Text) : Except SyntaxError (Assembly ν) :=
  let outcome := addBranch markup ⟨guardTag, [], 0⟩
  outcome.1.map fun _ => outcome.2

/-- An assembly after calls.  A call that is refused does not stop the others. -/
def after (a : Assembly ν) (calls : List (Call ν)) : Assembly ν := calls.foldl (fun a call => (perform call a).2) a

/-! ## What a call can do -/

/-- The calls that are refused: guards that cannot be read, tags other than `else`, and, as soon as there is an
alternative without a guard, everything that opens another one. -/
def Refuses (a : Assembly ν) : Call ν → Prop
  | .node _ => False
  | .branch source => a.hasElse = true ∨ ∀ guard, Expression.parse a.guardTag source ≠ .ok guard
  | .otherwise => a.hasElse = true
  | .tag name => name ≠ Block.elseName ∨ a.hasElse = true

/-- `Opens tag call guard`: the call asks for an alternative with this guard. -/
def Opens (tag : Text) : Call ν → Option (Text × Expression) → Prop
  | .node _, _ => False
  | .branch source, guard => ∃ read, Expression.parse tag source = .ok read ∧ guard = some (source, read)
  | .otherwise, guard => guard = none
  | .tag name, guard => name = Block.elseName ∧ guard = none

theorem addBranch_apply (a : Assembly ν) (source : Text) :
    addBranch source a =
      if a.hasElse then (.error ⟨.branchAfterElse Block.tagName, some source, none⟩, a)
      else
        match Expression.parse a.guardTag source with
        | .error e => (.error e, a)
        | .ok guard => (.ok (), a.extended (some (source, guard))) := by
  have hget : (get : Assembling ν (Assembly ν)) a = (.ok a, a) := rfl
  rw [addBranch, Outcome.bind_apply_ok hget]
  cases a.hasElse with
  | true => rfl
  | false =>
      cases hguard : Expression.parse a.guardTag source with
      | error e => rfl
      | ok guard => rfl

theorem addElse_apply (a : Assembly ν) :
    addElse a =
      if a.hasElse then (.error ⟨.duplicateElse Block.tagName, none, none⟩, a) else (.ok (), a.extended none) := by
  have hget : (get : Assembling ν (Assembly ν)) a = (.ok a, a) := rfl
  rw [addElse, Outcome.bind_apply_ok hget]
  cases a.hasElse <;> rfl

/-- **All that a call can do**: it adds a node to the current alternative, or it opens one more alternative, or it is
refused and changes nothing. -/
theorem perform_cases (a : Assembly ν) (call : Call ν) :
    (∃ node, call = .node node ∧ perform call a = (.ok (), a.withNode node)) ∨
      (a.hasElse = false ∧ ∃ guard, Opens a.guardTag call guard ∧ perform call a = (.ok (), a.extended guard)) ∨
      a.Refuses call ∧ ∃ e, perform call a = (.error e, a) := by
  -- The tag `else` is answered like the call without a tag, so that one comes first.
  have helse : (a.hasElse = false ∧ perform .otherwise a = (.ok (), a.extended none)) ∨
      a.hasElse = true ∧ ∃ e, perform .otherwise a = (.error e, a) := by
    rw [perform, addElse_apply]
    cases a.hasElse with
    | true => exact .inr ⟨rfl, _, rfl⟩
    | false => exact .inl ⟨rfl, rfl⟩
  cases call with
  | node node => exact .inl ⟨node, rfl, rfl⟩
  | branch source =>
      rw [perform, addBranch_apply]
      cases hasElse : a.hasElse with
      | true => exact .inr (.inr ⟨.inl hasElse, _, rfl⟩)
      | false =>
          cases hguard : Expression.parse a.guardTag source with
          | error e => exact .inr (.inr ⟨.inr (by simp [hguard]), e, rfl⟩)
          | ok guard => exact .inr (.inl ⟨rfl, _, ⟨guard, hguard, rfl⟩, rfl⟩)
  | otherwise =>
      rcases helse with ⟨hasElse, hrun⟩ | ⟨hasElse, e, hrun⟩
      · exact .inr (.inl ⟨hasElse, none, rfl, hrun⟩)
      · exact .inr (.inr ⟨hasElse, e, hrun⟩)
  | tag name =>
      by_cases hname : name = Block.elseName
      · have htag : perform (.tag name) a = perform .otherwise a := by
          change addTag name a = addElse a
          rw [addTag, if_pos hname]
        rw [htag]
        rcases helse with ⟨hasElse, hrun⟩ | ⟨hasElse, e, hrun⟩
        · exact .inr (.inl ⟨hasElse, none, ⟨hname, rfl⟩, hrun⟩)
        · exact .inr (.inr ⟨.inr hasElse, e, hrun⟩)
      · have htag : perform (.tag name) a = (.error ⟨.unknownTag name Block.tagName, none, none⟩, a) := by
          change addTag name a = _
          rw [addTag, if_neg hname]
          rfl
        exact .inr (.inr ⟨.inl hname, _, htag⟩)

theorem not_refuses_of_opens {a : Assembly ν} {call : Call ν} {guard : Option (Text × Expression)}
    (h : Opens a.guardTag call guard) (hasElse : a.hasElse = false) : ¬ a.Refuses call := by
  cases call with
  | node node => exact h.elim
  | branch source =>
      obtain ⟨read, hread, -⟩ := h
      simp [Refuses, hasElse, hread]
  | otherwise => simp [Refuses, hasElse]
  | tag name => simp [Refuses, hasElse, h.1]

theorem node?_of_opens {tag : Text} {call : Call ν} {guard : Option (Text × Expression)} (h : Opens tag call guard) :
    call.node? = none := by
  cases call with
  | node node => exact h.elim
  | branch | otherwise | tag => rfl

theorem parse_of_opens {tag source : Text} {call : Call ν} {read : Expression}
    (h : Opens tag call (some (source, read))) : Expression.parse tag source = .ok read := by
  cases call with
  | node node => exact h.elim
  | branch source' =>
      obtain ⟨read', hread, hguard⟩ := h
      obtain ⟨rfl, rfl⟩ := Prod.mk.inj (Option.some.inj hguard)
      exact hread
  | otherwise => exact nomatch h
  | tag name => exact nomatch h.2

/-- A call ends with an error exactly when it is refused. -/
theorem perform_eq_error_iff {a : Assembly ν} {call : Call ν} :
    (∃ e, (perform call a).1 = .error e) ↔ a.Refuses call := by
  rcases perform_cases a call with ⟨node, rfl, hrun⟩ | ⟨hasElse, guard, hopens, hrun⟩ | ⟨hrefuses, e, hrun⟩
  · simp [hrun, Refuses]
  · simp [hrun, not_refuses_of_opens hopens hasElse]
  · simp [hrun, hrefuses]

/-! ## What calls keep -/

/-- What holds of every assembly that calls lead to, after the markup that opened it and the nodes that were added. -/
structure WellFormed (tag markup : Text) (nodes : List ν) (a : Assembly ν) : Prop where
  guardTag_eq : a.guardTag = tag
  /-- The first alternative is guarded by the markup. -/
  first : ∃ guard body rest, a.alternatives = ⟨some (markup, guard), body⟩ :: rest
  /-- All alternatives before the last one are guarded. -/
  guarded : ∀ alternative ∈ a.alternatives.dropLast, alternative.guard.isSome = true
  /-- The last alternative is the one that takes nodes. -/
  current_eq : a.current + 1 = a.alternatives.length
  /-- The bodies, one after the other, are the nodes that were added. -/
  nodes_eq : a.alternatives.flatMap Alternative.body = nodes
  /-- Every guard is what is read from its source. -/
  guards_read : ∀ alternative ∈ a.alternatives, ∀ source guard, alternative.guard = some (source, guard) →
    Expression.parse tag source = .ok guard

theorem modify_length_append {α : Type} (f : α → α) (earlier : List α) (last : α) :
    (earlier ++ [last]).modify earlier.length f = earlier ++ [f last] := by
  induction earlier with
  | nil => rfl
  | cons first rest ih => exact congrArg (first :: ·) ih

namespace WellFormed

variable {tag markup : Text} {nodes : List ν} {a : Assembly ν}

/-- A node goes into the last alternative. -/
theorem exists_last (h : WellFormed tag markup nodes a) :
    ∃ earlier last, a.alternatives = earlier ++ [last] ∧
      ∀ node, a.withNode node = { a with alternatives := earlier ++ [⟨last.guard, last.body ++ [node]⟩] } := by
  obtain ⟨guard, body, rest, hfirst⟩ := h.first
  have hne : a.alternatives ≠ [] := by simp [hfirst]
  obtain ⟨earlier, last, hlast⟩ : ∃ earlier last, a.alternatives = earlier ++ [last] :=
    ⟨_, _, (List.dropLast_append_getLast hne).symm⟩
  have hcurrent : a.current = earlier.length := by
    have hlength := h.current_eq
    rw [hlast, List.length_append, List.length_singleton] at hlength
    exact Nat.succ.inj hlength
  refine ⟨earlier, last, hlast, fun node => ?_⟩
  rw [withNode, hlast, hcurrent, modify_length_append]

theorem withNode (h : WellFormed tag markup nodes a) (node : ν) :
    WellFormed tag markup (nodes ++ [node]) (a.withNode node) := by
  obtain ⟨earlier, last, hlast, hnode⟩ := h.exists_last
  rw [hnode node]
  obtain ⟨guard, body, rest, hfirst⟩ := h.first
  have hguarded := h.guarded
  have hread := h.guards_read
  rw [hlast] at hfirst hguarded hread
  refine ⟨h.guardTag_eq, ?_, ?_, ?_, ?_, ?_⟩
  · -- The first alternative is the one that changes only where it is the last as well.
    cases earlier with
    | nil =>
        rw [List.nil_append, List.cons.injEq] at hfirst
        exact ⟨guard, last.body ++ [node], [], by rw [hfirst.1]; rfl⟩
    | cons first earlier =>
        rw [List.cons_append, List.cons.injEq] at hfirst
        exact ⟨guard, body, earlier ++ [⟨last.guard, last.body ++ [node]⟩], by rw [hfirst.1]; rfl⟩
  · simpa using hguarded
  · have hlength := h.current_eq
    rw [hlast] at hlength
    simpa using hlength
  · have hnodes := h.nodes_eq
    rw [hlast, List.flatMap_append, List.flatMap_singleton] at hnodes
    rw [← hnodes, List.flatMap_append, List.flatMap_singleton, List.append_assoc]
  · intro alternative halternative source read hguard
    rcases List.mem_append.1 halternative with hmem | hmem
    · exact hread alternative (List.mem_append_left _ hmem) source read hguard
    · rw [List.mem_singleton.1 hmem] at hguard
      exact hread last (List.mem_append_right _ List.mem_cons_self) source read hguard

theorem extended (h : WellFormed tag markup nodes a) (hasElse : a.hasElse = false) {guard : Option (Text × Expression)}
    (hguard : ∀ source read, guard = some (source, read) → Expression.parse tag source = .ok read) :
    WellFormed tag markup nodes (a.extended guard) := by
  obtain ⟨first, body, rest, hfirst⟩ := h.first
  refine ⟨h.guardTag_eq, ⟨first, body, rest ++ [⟨guard, []⟩], by rw [Assembly.extended, hfirst]; rfl⟩, ?_, ?_, ?_, ?_⟩
  · intro alternative halternative
    rw [Assembly.extended, List.dropLast_concat] at halternative
    have hsome := List.any_eq_false.1 hasElse alternative halternative
    rwa [Bool.not_eq_true, Option.isNone_eq_false_iff] at hsome
  · simp [Assembly.extended]
  · rw [Assembly.extended, List.flatMap_append, List.flatMap_singleton, List.append_nil, h.nodes_eq]
  · intro alternative halternative source read hsource
    rcases List.mem_append.1 halternative with hmem | hmem
    · exact h.guards_read alternative hmem source read hsource
    · rw [List.mem_singleton.1 hmem] at hsource
      exact hguard source read hsource

/-- **One call keeps an assembly well-formed**: it adds its node to those that were added, if it has one. -/
theorem perform (h : WellFormed tag markup nodes a) (call : Call ν) :
    WellFormed tag markup (nodes ++ call.node?.toList) (perform call a).2 := by
  rcases perform_cases a call with ⟨node, rfl, hrun⟩ | ⟨hasElse, guard, hopens, hrun⟩ | ⟨hrefuses, e, hrun⟩
  · rw [hrun]
    exact h.withNode node
  · rw [hrun, node?_of_opens hopens, Option.toList_none, List.append_nil]
    refine h.extended hasElse fun source read hguard => ?_
    subst hguard
    rw [← h.guardTag_eq]
    exact parse_of_opens hopens
  · have hnode : call.node? = none := by
      cases call with
      | node node => exact hrefuses.elim
      | branch | otherwise | tag => rfl
    rw [hrun, hnode, Option.toList_none, List.append_nil]
    exact h

/-- **Calls keep an assembly well-formed.** -/
theorem after (h : WellFormed tag markup nodes a) (calls : List (Call ν)) :
    WellFormed tag markup (nodes ++ calls.filterMap Call.node?) (a.after calls) := by
  induction calls generalizing nodes a with
  | nil => rwa [List.filterMap_nil, List.append_nil]
  | cons call calls ih =>
      have hnodes : call.node?.toList ++ calls.filterMap Call.node? = (call :: calls).filterMap Call.node? := by
        cases call <;> rfl
      rw [← hnodes, ← List.append_assoc]
      exact ih (h.perform call)

end WellFormed

theorem opened_eq (tag markup : Text) :
    (opened tag markup : Except SyntaxError (Assembly ν)) =
      (Expression.parse tag markup).map fun guard => ⟨tag, [⟨some (markup, guard), []⟩], 0⟩ := by
  rw [opened, addBranch_apply, if_neg (by simp [hasElse])]
  cases Expression.parse tag markup <;> rfl

/-- The assembly that a markup opens is well-formed. -/
theorem wellFormed_of_opened {tag markup : Text} {a : Assembly ν} (h : opened tag markup = .ok a) :
    WellFormed tag markup [] a := by
  rw [opened_eq] at h
  cases hguard : Expression.parse tag markup with
  | error e =>
      rw [hguard] at h
      exact nomatch h
  | ok guard =>
      rw [hguard] at h
      obtain rfl := Except.ok.inj h
      refine ⟨rfl, ⟨guard, [], [], rfl⟩, nofun, rfl, rfl, ?_⟩
      intro alternative halternative source read hsource
      rw [List.mem_singleton.1 halternative] at hsource
      obtain ⟨rfl, rfl⟩ := Prod.mk.inj (Option.some.inj hsource)
      exact hguard

end Assembly

/-! ## The assembly of a block -/

namespace Block

variable {ν : Type}

/-- The alternatives of a block in order. -/
def alternatives (b : Block ν) : List (Alternative ν) :=
  b.branches.map Branch.alternative ++ (b.otherwise.map fun body => ⟨none, body⟩).toList

/-- A block in the form in which it is assembled. -/
def assembly (b : Block ν) : Assembly ν := ⟨b.guardTag, b.alternatives, b.size - 1⟩

/-- A block after a call, or why the call is refused. -/
def apply (b : Block ν) : Call ν → Except SyntaxError (Block ν)
  | .node added => .ok (b.addNode added)
  | .branch source => b.addBranch source
  | .otherwise => b.addElse
  | .tag name => b.addTag name

/-- A block after calls.  A call that is refused does not stop the others. -/
def after (b : Block ν) (calls : List (Call ν)) : Block ν :=
  calls.foldl (fun b call => (b.apply call).toOption.getD b) b

theorem hasElse_assembly (b : Block ν) : b.assembly.hasElse = b.hasElse := by
  obtain ⟨guardTag, earlier, latest, otherwise⟩ := b
  cases otherwise <;> simp [assembly, alternatives, Assembly.hasElse, hasElse, Branch.alternative]

theorem withNode_assembly (b : Block ν) (node : ν) : b.assembly.withNode node = (b.addNode node).assembly := by
  obtain ⟨guardTag, earlier, latest, otherwise⟩ := b
  cases otherwise with
  | none =>
      have hmodify := Assembly.modify_length_append
        (fun last : Alternative ν => { last with body := last.body ++ [node] })
        (earlier.map Branch.alternative) latest.alternative
      simpa [assembly, Assembly.withNode, alternatives, addNode, size, branches, hasElse, Branch.alternative]
        using hmodify
  | some body =>
      have hmodify := Assembly.modify_length_append
        (fun last : Alternative ν => { last with body := last.body ++ [node] })
        ((earlier ++ [latest]).map Branch.alternative) ⟨none, body⟩
      simpa [assembly, Assembly.withNode, alternatives, addNode, size, branches, hasElse] using hmodify

/-- Without an alternative without a guard, a block may open a branch. -/
theorem extended_assembly_branch {b : Block ν} (h : b.hasElse = false) (source : Text) (guard : Expression) :
    b.assembly.extended (some (source, guard)) =
      ({ b with earlier := b.branches, latest := ⟨source, guard, []⟩ } : Block ν).assembly := by
  obtain ⟨guardTag, earlier, latest, otherwise⟩ := b
  cases otherwise with
  | none => simp [assembly, Assembly.extended, alternatives, size, branches, hasElse, Branch.alternative]
  | some body => simp [hasElse] at h

theorem extended_assembly_else {b : Block ν} (h : b.hasElse = false) :
    b.assembly.extended none = ({ b with otherwise := some [] } : Block ν).assembly := by
  obtain ⟨guardTag, earlier, latest, otherwise⟩ := b
  cases otherwise with
  | none => simp [assembly, Assembly.extended, alternatives, size, branches, hasElse]
  | some body => simp [hasElse] at h

/-- **A call does to the assembly of a block what it does to the block.** -/
theorem perform_assembly (b : Block ν) (call : Call ν) :
    Assembly.perform call b.assembly =
      match b.apply call with
      | .ok b' => (.ok (), b'.assembly)
      | .error e => (.error e, b.assembly) := by
  have helse : Assembly.addElse b.assembly =
      match b.addElse with
      | .ok b' => (.ok (), b'.assembly)
      | .error e => (.error e, b.assembly) := by
    rw [Assembly.addElse_apply, hasElse_assembly, addElse]
    cases hasElse : b.hasElse with
    | true => rfl
    | false => exact congrArg (Prod.mk (Except.ok ())) (extended_assembly_else hasElse)
  cases call with
  | node node => exact congrArg (Prod.mk (Except.ok ())) (withNode_assembly b node)
  | branch source =>
      change Assembly.addBranch source b.assembly = _
      rw [Assembly.addBranch_apply, hasElse_assembly, apply, addBranch]
      cases hasElse : b.hasElse with
      | true => rfl
      | false =>
          change (match Expression.parse b.guardTag source with
            | .error e => _
            | .ok guard => _) = _
          cases Expression.parse b.guardTag source with
          | error e => rfl
          | ok guard => exact congrArg (Prod.mk (Except.ok ())) (extended_assembly_branch hasElse source guard)
  | otherwise => exact helse
  | tag name =>
      change Assembly.addTag name b.assembly = _
      rw [Assembly.addTag, apply, addTag]
      by_cases hname : name = elseName
      · rw [if_pos hname, if_pos hname]
        exact helse
      · rw [if_neg hname, if_neg hname]
        rfl

/-- Calls do to the assembly of a block what they do to the block. -/
theorem after_assembly (b : Block ν) (calls : List (Call ν)) : b.assembly.after calls = (b.after calls).assembly := by
  induction calls generalizing b with
  | nil => rfl
  | cons call calls ih =>
      have hstep : (Assembly.perform call b.assembly).2 = ((b.apply call).toOption.getD b).assembly := by
        rw [perform_assembly]
        cases b.apply call <;> rfl
      change Assembly.after (Assembly.perform call b.assembly).2 calls = _
      rw [hstep, ih]
      rfl

theorem opened_assembly {tag markup : Text} {b : Block ν} (h : opened tag markup = .ok b) :
    Assembly.opened tag markup = .ok b.assembly := by
  rw [opened] at h
  obtain ⟨guard, hguard, hb⟩ := Outcome.bind_eq_ok_iff.1 h
  obtain rfl := Except.ok.inj hb
  rw [Assembly.opened_eq, hguard]
  rfl

/-- **What is known about a block after any calls**, refused ones among them.  Its assembly is what the same calls make
of the assembly that its markup opens, and is well-formed.  A node goes into the alternative that was opened last, and
any other call that is followed opens one more.  A call does the same to the block and to its assembly; it ends with
an error exactly when it is refused, and then it changes nothing. -/
theorem assembly_after_calls {tag markup : Text} {b : Block ν} (h : opened tag markup = .ok b) (calls : List (Call ν)) :
    ∃ a₀, Assembly.opened tag markup = .ok a₀ ∧ let a := a₀.after calls
      a = (b.after calls).assembly ∧ a.WellFormed tag markup (calls.filterMap Call.node?) ∧
      (∃ earlier last, a.alternatives = earlier ++ [last] ∧ ∀ node, Assembly.perform (.node node) a =
        (.ok (), { a with alternatives := earlier ++ [⟨last.guard, last.body ++ [node]⟩] })) ∧
      ∀ call,
        (Assembly.perform call a =
          match (b.after calls).apply call with
          | .ok b' => (.ok (), b'.assembly)
          | .error e => (.error e, a)) ∧
        ((∃ e, (b.after calls).apply call = .error e) ↔ a.Refuses call) ∧
        ((Assembly.perform call a).1 = .ok () → call.node? = none →
          ∃ guard, (Assembly.perform call a).2 = a.extended guard) := by
  have hopened := opened_assembly h
  refine ⟨b.assembly, hopened, ?_⟩
  intro a
  have hwellFormed : a.WellFormed tag markup (calls.filterMap Call.node?) :=
    (Assembly.wellFormed_of_opened hopened).after calls
  have hafter : a = (b.after calls).assembly := after_assembly b calls
  obtain ⟨earlier, last, hlast, hnode⟩ := hwellFormed.exists_last
  refine ⟨hafter, hwellFormed, ⟨earlier, last, hlast, ?_⟩, fun call => ⟨?_, ?_, ?_⟩⟩
  · intro node
    rw [← hnode node]
    rfl
  · rw [hafter, perform_assembly]
  · rw [hafter, ← Assembly.perform_eq_error_iff, perform_assembly]
    cases (b.after calls).apply call <;> simp
  · rcases Assembly.perform_cases a call with ⟨node, rfl, hrun⟩ | ⟨-, guard, -, hrun⟩ | ⟨-, e, hrun⟩
    · exact fun _ hnone => nomatch hnone
    · rw [hrun]
      exact fun _ _ => ⟨guard, rfl⟩
    · rw [hrun]
      exact nofun

/-- A block `a` with a branch that is refused because it cannot be read, an alternative without a guard, and a tag that
is refused: all three nodes are in it, and it takes no further branch. -/
theorem assembly_after_calls_refused :
    let calls : List (Call Nat) :=
      [.node 1, .branch "b ==".toList, .otherwise, .node 2, .tag "elsif".toList, .node 3]
    ∃ b : Block Nat, opened tagName ['a'] = .ok b ∧
      (b.after calls).alternatives.flatMap Alternative.body = [1, 2, 3] ∧
      ∃ e, (b.after calls).addBranch ['c'] = .error e := by
  intro calls
  have hguard : Expression.parse tagName ['a'] = .ok ⟨[⟨['a'], none⟩], [.and]⟩ :=
    Outcome.eq_ok_of_toOption (by decide +kernel)
  let b : Block Nat := ⟨tagName, [], ⟨['a'], ⟨[⟨['a'], none⟩], [.and]⟩, []⟩, none⟩
  have hb : opened tagName ['a'] = .ok b := by
    rw [opened, hguard]
    rfl
  obtain ⟨a₀, -, hassembly, hwellFormed, -, hcall⟩ := assembly_after_calls hb calls
  rw [hassembly] at hwellFormed hcall
  refine ⟨b, hb, hwellFormed.nodes_eq, (hcall (.branch ['c'])).2.1.2 (.inl ?_)⟩
  rw [hasElse_assembly]
  decide +kernel

end Block
end Liquid
