import Liquid.Proofs.Calendar.Limits
import Liquid.Proofs.Html.Unescape
import Liquid.Proofs.Number.Overflow
import Liquid.Proofs.Registration

/-!
# The limits of the standard filters

A standard filter answers with a value, or with an error that tells that it does not accept its arguments.  There are
limits to this: whole numbers of too many digits, infinite lengths, numbers beyond double precision, and the ends of the
calendar.  They are listed here, and are all there are.

## Main definitions

* `Answered` — a value, or an error about the arguments.
* `Almanac.ReadsOrRefuses` — what is relied on of the reader of dates.
* `Standard.Exceeds` — the calls beyond the limits.

## Main statements

* `Registry.answered_standard_iff` — a call is answered unless it exceeds a limit.
* `Registry.not_answered_standard_truncate` — a call that is not answered.
-/

namespace Liquid

variable {α : Type}

/-! ## Answers -/

/-- Whether an error tells that a filter does not accept its arguments. -/
def Error.isArgument : Error → Bool
  | .arguments _ _ _ | .notNumeric _ | .notLength _ => true
  | _ => false

/-- A call is answered with a result, or with an error that tells that the arguments are not accepted. -/
def Answered (x : Except Error α) : Prop := (∃ a, x = .ok a) ∨ ∃ e, x = .error e ∧ e.isArgument = true

@[simp] theorem answered_ok (a : α) : Answered (.ok a) := .inl ⟨a, rfl⟩

@[simp] theorem answered_error_iff {e : Error} : Answered (.error e : Except Error α) ↔ e.isArgument = true := by
  simp [Answered]

theorem answered_pure (a : α) : Answered (pure a) := answered_ok a

/-- A call with another one behind it. -/
theorem answered_bind_iff {β : Type} {x : Except Error α} {f : α → Except Error β} :
    Answered (x >>= f) ↔ Answered x ∧ ∀ a, x = .ok a → Answered (f a) := by
  cases x <;> simp [bind, Except.bind]

/-- What goes wrong in the calendar is never told to be due to the arguments. -/
theorem answered_mapError_iff {x : Except CalendarError α} :
    Answered (x.mapError fun e => Error.fault (.calendar e)) ↔ ¬ ∃ e, x = .error e := by
  cases x <;> simp [Except.mapError, Error.isArgument]

/-! ## Values -/

namespace Value

variable {v : Value}

theorem answered_written_iff {form : Value → Text} : Answered (v.written form) ↔ v.isWritable = true := by
  unfold written
  split <;> simp [*, Error.isArgument]

theorem answered_plainText_iff : Answered v.plainText ↔ v.isWritable = true := answered_written_iff

theorem written_of_isWritable (form : Value → Text) (h : v.isWritable = true) : v.written form = .ok (form v) :=
  if_pos h

theorem plainText_of_isWritable (h : v.isWritable = true) : v.plainText = .ok v.plain := written_of_isWritable plain h

theorem answered_orEmpty_iff : Answered v.orEmpty ↔ v.isWritable = true := by
  unfold orEmpty
  split
  · simp [isWritable]
  · exact answered_plainText_iff

theorem exists_orEmpty (h : v.isWritable = true) : ∃ t, v.orEmpty = .ok t := by
  unfold orEmpty
  split
  · exact ⟨[], rfl⟩
  · exact ⟨_, plainText_of_isWritable h⟩

theorem exists_mapM_plainText {vs : List Value} (h : ∀ v ∈ vs, v.isWritable = true) :
    ∃ ts, vs.mapM plainText = .ok ts := by
  simp only [Outcome.mapM_eq_ok_iff, Outcome.exists_forall₂_iff]
  exact fun v hv => ⟨_, plainText_of_isWritable (h v hv)⟩

theorem answered_mapM_plainText_iff {vs : List Value} :
    Answered (vs.mapM plainText) ↔ ∀ v ∈ vs, v.isWritable = true := by
  constructor
  · intro h
    induction vs with
    | nil => exact List.forall_mem_nil _
    | cons v vs ih =>
        rw [List.mapM_cons, answered_bind_iff, answered_plainText_iff] at h
        have hrest := (answered_bind_iff.1 (h.2 _ (plainText_of_isWritable h.1))).1
        exact List.forall_mem_cons.2 ⟨h.1, ih hrest⟩
  · intro h
    obtain ⟨ts, hts⟩ := exists_mapM_plainText h
    rw [hts]
    exact answered_ok ts

end Value

/-! ## The limits -/

/-- What is relied on of the reader of dates: a text that it does not read is refused, and that is all. -/
def Almanac.ReadsOrRefuses (almanac : Almanac) (now : Moment) (t : Text) : Prop :=
  ∀ f, almanac.read now t ≠ .error (.fault f)

instance (almanac : Almanac) (now : Moment) (t : Text) : Decidable (almanac.ReadsOrRefuses now t) :=
  match h : almanac.read now t with
  | .ok _ => .isTrue fun _ he => nomatch h.symm.trans he
  | .error .unreadable => .isTrue fun _ he => nomatch h.symm.trans he
  | .error (.fault f) => .isFalse fun hread => hread f h

namespace Numeric

/-- A value whose plain form is needed to read a number from, and is not written. -/
def Unread (v : Value) : Prop := v.isWritable = false ∧ ∀ n, v ≠ .int n

/-- One of two numbers is a whole number beyond double precision, and the other one is of double precision. -/
def Overflow : Numeric → Numeric → Prop
  | whole n, double _ | double _, whole n => Binary64.tooLargeFrom ≤ n.natAbs
  | _, _ => False

/-- Values that are not computed with.  The second one is read only if the first one is a number. -/
@[mk_iff]
inductive Exceeds : Value → Value → Prop
  | left {v w : Value} (h : Unread v) : Exceeds v w
  | right {v w : Value} {a : Numeric} (hv : ofValue v = .ok a) (h : Unread w) : Exceeds v w
  | overflow {v w : Value} {a b : Numeric} (hv : ofValue v = .ok a) (hw : ofValue w = .ok b) (h : a.Overflow b) :
      Exceeds v w

end Numeric

namespace Standard

/-- The number of characters that a length asks for, if it is a number. -/
def Requests (length : Value) (n : Int) : Prop := length = .nil ∧ n = 50 ∨ length.count? = .ok (some n)

/-- A length and an ending that a text is not cut with: an infinite length, a length that is no number and is not
written, or an ending that is needed and is not written. -/
@[mk_iff]
inductive ExceedsLength (t : Text) : Value → Value → Prop
  | infinite {negative : Bool} {ending : Value} : ExceedsLength t (.double (.infinite negative)) ending
  | length {length ending : Value} (hcount : length.count? = .ok none) (h : length.isWritable = false) :
      ExceedsLength t length ending
  | ending {length ending : Value} {n : Int} (hlength : Requests length n) (hn : n < t.length)
      (h : ending.isWritable = false) : ExceedsLength t length ending

/-- A value that denotes a moment out of reach: seconds outside the calendar. -/
@[mk_iff]
inductive OutOfCalendar (l : LocalZone) : Value → Prop
  | seconds {n : Int} (h : ¬ Moment.InCalendar l n) : OutOfCalendar l (.int n)
  | timestamp {x : Binary64} (h : ¬ Moment.TimestampInCalendar l x) : OutOfCalendar l (.double x)

section

variable (now : Moment) (almanac : Almanac)

/-- A value and a pattern that it is not written by: a moment out of reach, a pattern that is not written itself, or a
zone whose distance is asked for and is not written. -/
@[mk_iff]
inductive ExceedsCalendar : Value → Value → Prop
  | moment {v pattern : Value} (hpattern : pattern.isVacant = false) (h : OutOfCalendar almanac.zone v) :
      ExceedsCalendar v pattern
  | pattern {v pattern : Value} {m : Moment} (hpattern : pattern.isVacant = false)
      (hm : moment? now almanac v = .ok (some m)) (h : pattern.isWritable = false) : ExceedsCalendar v pattern
  | zone {v pattern : Value} {m : Moment} {z : Zone} (hpattern : pattern.isVacant = false)
      (hm : moment? now almanac v = .ok (some m)) (hz : m.zone = some z) (hproper : z.isProper = false)
      (h : Moment.AsksOffset pattern.plain) : ExceedsCalendar v pattern

/-- **The calls beyond the limits of the standard filters.** -/
@[mk_iff]
inductive Exceeds : Text → Value → List Value → Prop
  | reference {t : Text} (h : Html.HasLongReference t) : Exceeds "escape_once".toList (.text t) []
  | affix {name : Text} {v w : Value} {args : List Value} (hname : name ∈ ["append".toList, "prepend".toList])
      (hargs : args.length ≤ 1) (hw : w ∈ v :: args) (h : w.isWritable = false) : Exceeds name v args
  | joined {v : Value} {xs args : List Value} {w : Value} (hargs : args.length ≤ 1) (hitems : items? v = some xs)
      (hw : w ∈ args ++ xs) (h : w.isWritable = false) : Exceeds "join".toList v args
  | length {t : Text} {args : List Value} (hargs : args.length ≤ 2)
      (h : ExceedsLength t (args[0]?.getD (.int 50)) (args[1]?.getD (.text "...".toList))) :
      Exceeds "truncate".toList (.text t) args
  | number {name : Text} {v w : Value} (hname : name ∈ ["plus".toList, "minus".toList, "times".toList])
      (h : Numeric.Exceeds v w) : Exceeds name v [w]
  | calendar {v pattern : Value} (h : ExceedsCalendar now almanac v pattern) : Exceeds "date".toList v [pattern]

end

/-! ## What the filters answer -/

section

variable {now : Moment} {almanac : Almanac} {v w : Value} {args : List Value}

theorem answered_escapeOnce_iff : Answered (escapeOnce v) ↔ ¬ ∃ t, v = .text t ∧ Html.HasLongReference t := by
  unfold escapeOnce
  split
  · next t =>
      have hnone := @Html.unescape?_eq_none_iff t
      simp only [Value.text.injEq, exists_eq_left', ← hnone]
      cases Html.unescape? t <;> simp [Error.isArgument]
  · next hv =>
      simp only [answered_ok, true_iff, not_exists, not_and]
      exact fun t ht => absurd ht (hv t)

theorem answered_append_iff : Answered (append v w) ↔ v.isWritable = true ∧ w.isWritable = true := by
  unfold append
  rw [answered_bind_iff, Value.answered_orEmpty_iff]
  refine and_congr_right fun hv => ?_
  obtain ⟨t, ht⟩ := Value.exists_orEmpty hv
  simp only [ht, Except.ok.injEq, forall_eq', answered_bind_iff, Value.answered_orEmpty_iff, answered_pure,
    implies_true, and_true]

theorem answered_prepend_iff : Answered (prepend v w) ↔ v.isWritable = true ∧ w.isWritable = true :=
  answered_append_iff.trans and_comm

/-- A length is infinite, or is asked whether it is a number. -/
theorem count?_cases (v : Value) :
    (∃ negative, v = .double (.infinite negative) ∧ v.count? = .error (.fault .tooLarge)) ∨
      (∀ negative, v ≠ .double (.infinite negative)) ∧ ∃ n?, v.count? = .ok n? := by
  unfold Value.count?
  split <;> simp_all

theorem requests_iff {n : Int} (hnil : v ≠ .nil) : Requests v n ↔ v.count? = .ok (some n) := by
  simp [Requests, hnil]

theorem requests_nil_iff {n : Int} : Requests .nil n ↔ n = 50 := by
  simp [Requests, Value.count?]

/-- A text is cut to `n` characters if the ending can be written. -/
theorem answered_cut_iff {t : Text} {n : Int} :
    Answered (if n < t.length then do return Value.text (firstChars n t ++ (← w.orEmpty)) else pure (.text t)) ↔
      (n < t.length → w.isWritable = true) := by
  split
  · next hn => simp only [answered_bind_iff, Value.answered_orEmpty_iff, answered_pure, implies_true, and_true, hn,
      true_implies]
  · next hn => simp [hn, answered_pure]

theorem answered_truncate_iff {t : Text} {length ending : Value} :
    Answered (truncate (.text t) length ending) ↔ ¬ ExceedsLength t length ending := by
  have hlimit : ¬ ExceedsLength t length ending ↔ (∀ negative, length ≠ .double (.infinite negative)) ∧
      (length.count? = .ok none → length.isWritable = true) ∧
        ∀ n, Requests length n → n < t.length → ending.isWritable = true := by
    simp [exceedsLength_iff]
  rw [hlimit]
  unfold truncate
  dsimp only
  split
  · have hcut := @answered_cut_iff ending t 50
    simpa [requests_nil_iff, Value.isWritable] using hcut
  · next hnil =>
      simp only [requests_iff hnil]
      rcases count?_cases length with ⟨negative, rfl, hcount⟩ | ⟨hfinite, n?, hcount⟩
      · simp [hcount, bind, Except.bind, Error.isArgument]
      · rw [hcount, and_iff_right hfinite]
        cases n? with
        | none => simp [answered_bind_iff, Value.shownText, Value.answered_written_iff, Error.isArgument]
        | some n =>
            refine answered_cut_iff.trans ?_
            simp

theorem answered_join_iff :
    Answered (join v w) ↔ ¬ ∃ xs, items? v = some xs ∧ ∃ x ∈ w :: xs, x.isWritable = false := by
  unfold join
  cases items? v with
  | none => simp
  | some xs =>
      have hlimit : (¬ ∃ xs', some xs = some xs' ∧ ∃ x ∈ w :: xs', x.isWritable = false) ↔
          w.isWritable = true ∧ ∀ x ∈ xs, x.isWritable = true := by simp
      rw [hlimit, answered_bind_iff, Value.answered_plainText_iff]
      refine and_congr_right fun hw => ?_
      simp only [Value.plainText_of_isWritable hw, Except.ok.injEq, forall_eq', answered_bind_iff,
        Value.answered_mapM_plainText_iff, answered_pure, implies_true, and_true]

theorem answered_ofValue_iff : Answered (Numeric.ofValue v) ↔ ¬ Numeric.Unread v := by
  unfold Numeric.ofValue
  split
  · simp [Numeric.Unread]
  · simp [Numeric.Unread, Value.isWritable]
  · simp [Numeric.Unread, Value.isWritable]
  · next hint _ _ =>
      have hunread : Numeric.Unread v ↔ v.isWritable = false := and_iff_left hint
      rw [hunread, answered_bind_iff, Value.answered_plainText_iff, Bool.not_eq_false]
      refine and_iff_left_of_imp fun hv t _ => ?_
      dsimp only
      split
      · exact answered_pure _
      · split
        · exact answered_pure _
        · simp only [Value.shownText, Value.written_of_isWritable _ hv, bind, Except.bind, answered_error_iff,
            Error.isArgument]

theorem answered_toDouble_whole_iff {n : Int} :
    Answered (Numeric.whole n).toDouble ↔ ¬ Binary64.tooLargeFrom ≤ n.natAbs := by
  rw [← Binary64.ofInt?_eq_none_iff, Numeric.toDouble]
  cases Binary64.ofInt? n <;> simp [Error.isArgument]

theorem answered_combine_iff {onInt : Int → Int → Int} {onDouble : Binary64 → Binary64 → Binary64} {a b : Numeric} :
    Answered (Numeric.combine onInt onDouble a b) ↔ ¬ a.Overflow b := by
  unfold Numeric.combine
  split
  · simp [Numeric.Overflow]
  · next hmixed =>
      simp only [answered_bind_iff, answered_pure, implies_true, and_true]
      cases a with
      | whole n =>
          cases b with
          | whole k => exact absurd rfl (hmixed n k rfl)
          | double x =>
              rw [answered_toDouble_whole_iff]
              exact and_iff_left fun _ _ => answered_ok x
      | double x =>
          have hx : (Numeric.double x).toDouble = .ok x := rfl
          simp only [hx, answered_ok, Except.ok.injEq, forall_eq', true_and]
          cases b with
          | whole n => exact answered_toDouble_whole_iff
          | double y => exact iff_of_true (answered_ok y) not_false

theorem answered_arithmetic_iff {onInt : Int → Int → Int} {onDouble : Binary64 → Binary64 → Binary64} :
    Answered (arithmetic onInt onDouble v w) ↔ ¬ Numeric.Exceeds v w := by
  simp only [arithmetic, answered_bind_iff, answered_ofValue_iff, answered_combine_iff, answered_pure, implies_true,
    and_true]
  constructor
  · rintro ⟨hv, h⟩ (hunread | ⟨ha, hunread⟩ | ⟨ha, hb, hoverflow⟩)
    · exact hv hunread
    · exact (h _ ha).1 hunread
    · exact (h _ ha).2 _ hb hoverflow
  · intro h
    refine ⟨fun hv => h (.left hv), fun a ha => ⟨fun hw => h (.right ha hw), fun b hb hoverflow => ?_⟩⟩
    exact h (.overflow ha hb hoverflow)

theorem answered_moment?_iff (hread : ∀ t, v = .text t → almanac.ReadsOrRefuses now t) :
    Answered (moment? now almanac v) ↔ ¬ OutOfCalendar almanac.zone v := by
  unfold moment?
  split
  · next m => exact iff_of_true (answered_ok _) nofun
  · next n =>
      rw [answered_mapError_iff, outOfCalendar_iff]
      simp only [Outcome.map_eq_error_iff, Moment.ofSeconds_eq_error_iff]
      simp
  · next x =>
      rw [answered_mapError_iff, outOfCalendar_iff]
      simp only [Outcome.map_eq_error_iff, Moment.ofTimestamp_eq_error_iff]
      simp
  · next t =>
      refine iff_of_true ?_ nofun
      dsimp only
      split
      · exact answered_ok _
      · cases hmoment : almanac.read now t with
        | ok m => exact answered_ok _
        | error e =>
            cases e with
            | unreadable => exact answered_ok _
            | fault f => exact absurd hmoment (hread t rfl f)
  · next hmoment hint hdouble htext =>
      refine iff_of_true (answered_ok _) ?_
      rintro (_ | _)
      · exact hint _ rfl
      · exact hdouble _ rfl

/-- A moment is written by a pattern that is written itself. -/
theorem answered_format_iff {l : LocalZone} {m : Moment} :
    Answered (do
      let p ← w.plainText
      return Value.text (← (m.format l p).mapError fun e => Error.fault (.calendar e))) ↔
      w.isWritable = true ∧ ¬ ((∃ z, m.zone = some z ∧ z.isProper = false) ∧ Moment.AsksOffset w.plain) := by
  rw [answered_bind_iff, Value.answered_plainText_iff]
  refine and_congr_right fun hw => ?_
  simp only [Value.plainText_of_isWritable hw, Except.ok.injEq, forall_eq', answered_bind_iff, answered_pure,
    implies_true, and_true]
  rw [answered_mapError_iff, Moment.format_eq_error_iff]

theorem answered_date_iff (hread : ∀ t, v = .text t → almanac.ReadsOrRefuses now t) :
    Answered (date now almanac v w) ↔ ¬ ExceedsCalendar now almanac v w := by
  unfold date
  split
  · next hvacant =>
      refine iff_of_true (answered_ok v) ?_
      rintro (⟨hpattern, -⟩ | ⟨hpattern, -, -⟩ | ⟨hpattern, -, -, -, -⟩) <;> simp [hvacant] at hpattern
  · next hvacant =>
      rw [Bool.not_eq_true] at hvacant
      rw [answered_bind_iff, answered_moment?_iff hread]
      constructor
      · rintro ⟨hin, h⟩ (⟨-, hout⟩ | ⟨-, hm, hw⟩ | ⟨-, hm, hz, hproper, hasks⟩)
        · exact hin hout
        · have hwritable := (answered_format_iff.1 (h _ hm)).1
          exact Bool.false_ne_true (hw.symm.trans hwritable)
        · exact (answered_format_iff.1 (h _ hm)).2 ⟨⟨_, hz, hproper⟩, hasks⟩
      · intro h
        refine ⟨fun hout => h (.moment hvacant hout), fun m? hm => ?_⟩
        cases m? with
        | none => exact answered_pure v
        | some m =>
            refine answered_format_iff.2 ⟨?_, ?_⟩
            · cases hw : w.isWritable with
              | true => rfl
              | false => exact absurd (.pattern hvacant hm hw) h
            · rintro ⟨⟨z, hz, hproper⟩, hasks⟩
              exact h (.zone hvacant hm hz hproper hasks)

end

/-! ## Calls -/

section

variable {now : Moment} {almanac : Almanac} {name : Text} {v : Value} {args : List Value}

/-- What a filter answers when it is called under a name. -/
def answer (f : Filter) (name : Text) (v : Value) (args : List Value) : Except Error Value :=
  match f.signature.bind (·.mismatch? (args.length + 1)) with
  | some mismatch => .error (.arguments name args.length mismatch)
  | none => f.run v args

-- Arguments that do not fit are refused, which is an answer.  So a limit of a filter only has to be exact for arguments
-- that fit, and to hold of no others.
theorem answered_unary_iff (limit : List Value → Prop) {f : Value → Except Error Value}
    (hlimit : limit args → args = []) (h : Answered (f v) ↔ ¬ limit []) :
    Answered (answer (unary f) name v args) ↔ ¬ limit args := by
  cases args with
  | nil => exact h
  | cons w args => exact iff_of_true (answered_error_iff.2 rfl) fun hl => nomatch hlimit hl

theorem answered_withDefault_iff (limit : List Value → Prop) {parameter : String} {default : Value}
    {f : Value → Value → Except Error Value} (hlimit : limit args → args.length ≤ 1)
    (hnone : Answered (f v default) ↔ ¬ limit []) (hone : ∀ w, Answered (f v w) ↔ ¬ limit [w]) :
    Answered (answer (withDefault parameter default f) name v args) ↔ ¬ limit args := by
  match args with
  | [] => exact hnone
  | [w] => exact hone w
  | w :: w' :: args =>
      refine iff_of_true (answered_error_iff.2 rfl) fun hl => ?_
      have hle := hlimit hl
      simp at hle

theorem answered_binary_iff (limit : List Value → Prop) {parameter : String} {f : Value → Value → Except Error Value}
    (hlimit : limit args → ∃ w, args = [w]) (hone : ∀ w, Answered (f v w) ↔ ¬ limit [w]) :
    Answered (answer (binary parameter f) name v args) ↔ ¬ limit args := by
  match args with
  | [] => exact iff_of_true (answered_error_iff.2 rfl) fun hl => by simpa using hlimit hl
  | [w] => exact hone w
  | w :: w' :: args => exact iff_of_true (answered_error_iff.2 rfl) fun hl => by simpa using hlimit hl

/-- The filters with limits. -/
def limitedNames : List Text :=
  ["escape_once".toList, "append".toList, "prepend".toList, "truncate".toList, "join".toList, "plus".toList,
   "minus".toList, "times".toList, "date".toList]

theorem Exceeds.name_mem (h : Exceeds now almanac name v args) : name ∈ limitedNames := by
  have haffix : ["append".toList, "prepend".toList] ⊆ limitedNames := by decide
  have harithmetic : ["plus".toList, "minus".toList, "times".toList] ⊆ limitedNames := by decide
  cases h with
  | reference | joined | length | calendar => decide
  | affix hname => exact haffix hname
  | number hname => exact harithmetic hname

theorem exceeds_escapeOnce_iff :
    Exceeds now almanac "escape_once".toList v args ↔ ∃ t, Html.HasLongReference t ∧ v = .text t ∧ args = [] := by
  rw [exceeds_iff]
  simp

theorem exceeds_affix_iff (hname : name ∈ ["append".toList, "prepend".toList]) :
    Exceeds now almanac name v args ↔ args.length ≤ 1 ∧ ∃ w ∈ v :: args, w.isWritable = false := by
  rw [exceeds_iff]
  simp only [List.mem_cons, List.not_mem_nil, or_false] at hname
  rcases hname with rfl | rfl <;> simp

theorem exceeds_join_iff :
    Exceeds now almanac "join".toList v args ↔
      args.length ≤ 1 ∧ ∃ xs, items? v = some xs ∧ ∃ w ∈ args ++ xs, w.isWritable = false := by
  rw [exceeds_iff]
  simp

theorem exceeds_truncate_iff :
    Exceeds now almanac "truncate".toList v args ↔ args.length ≤ 2 ∧ ∃ t,
      ExceedsLength t (args[0]?.getD (.int 50)) (args[1]?.getD (.text "...".toList)) ∧ v = .text t := by
  rw [exceeds_iff]
  simp

theorem exceeds_arithmetic_iff (hname : name ∈ ["plus".toList, "minus".toList, "times".toList]) :
    Exceeds now almanac name v args ↔ ∃ w, Numeric.Exceeds v w ∧ args = [w] := by
  rw [exceeds_iff]
  simp only [List.mem_cons, List.not_mem_nil, or_false] at hname
  rcases hname with rfl | rfl | rfl <;> simp

theorem exceeds_date_iff :
    Exceeds now almanac "date".toList v args ↔ ∃ w, ExceedsCalendar now almanac v w ∧ args = [w] := by
  rw [exceeds_iff]
  simp

end

section

variable {now : Moment} {almanac : Almanac} {name : Text} {v : Value} {args : List Value}

theorem answered_call_escapeOnce_iff :
    Answered (answer (unary escapeOnce) name v args) ↔ ¬ Exceeds now almanac "escape_once".toList v args := by
  refine answered_unary_iff (Exceeds now almanac "escape_once".toList v) ?_ ?_
  · rw [exceeds_escapeOnce_iff]
    rintro ⟨t, -, -, hargs⟩
    exact hargs
  · rw [exceeds_escapeOnce_iff, answered_escapeOnce_iff]
    simp [and_comm]

theorem answered_call_affix_iff {parameter : String} {f : Value → Value → Except Error Value}
    (hname : name ∈ ["append".toList, "prepend".toList])
    (hf : ∀ w, Answered (f v w) ↔ v.isWritable = true ∧ w.isWritable = true) :
    Answered (answer (withDefault parameter (.text []) f) name v args) ↔ ¬ Exceeds now almanac name v args := by
  refine answered_withDefault_iff (Exceeds now almanac name v) ?_ ?_ ?_
  · rw [exceeds_affix_iff hname]
    exact And.left
  · rw [exceeds_affix_iff hname, hf]
    simp [Value.isWritable]
  · intro w
    rw [exceeds_affix_iff hname, hf]
    simp

theorem answered_call_join_iff :
    Answered (answer (withDefault "glue" (.text [' ']) join) name v args) ↔
      ¬ Exceeds now almanac "join".toList v args := by
  refine answered_withDefault_iff (Exceeds now almanac "join".toList v) ?_ ?_ ?_
  · rw [exceeds_join_iff]
    exact And.left
  · rw [exceeds_join_iff, answered_join_iff]
    simp [Value.isWritable]
  · intro w
    rw [exceeds_join_iff, answered_join_iff]
    simp

theorem answered_call_truncate_iff :
    Answered (answer ⟨some (Signature.ofNames 1 ["value", "length", "ending"]), fun v args =>
      truncate v (args[0]?.getD (.int 50)) (args[1]?.getD (.text "...".toList))⟩ name v args) ↔
      ¬ Exceeds now almanac "truncate".toList v args := by
  rw [exceeds_truncate_iff]
  have hcut : Answered (truncate v (args[0]?.getD (.int 50)) (args[1]?.getD (.text "...".toList))) ↔
      ¬ ∃ t, ExceedsLength t (args[0]?.getD (.int 50)) (args[1]?.getD (.text "...".toList)) ∧ v = .text t := by
    cases v with
    | text t => simp [answered_truncate_iff]
    | _ => exact iff_of_true (answered_ok _) (by simp)
  match args with
  | [] => exact hcut.trans (not_congr (and_iff_right (Nat.zero_le 2)).symm)
  | [_] => exact hcut.trans (not_congr (and_iff_right (Nat.le_succ 1)).symm)
  | [_, _] => exact hcut.trans (not_congr (and_iff_right (Nat.le_refl 2)).symm)
  | _ :: _ :: _ :: _ => exact iff_of_true (answered_error_iff.2 rfl) (by simp)

theorem answered_call_arithmetic_iff {onInt : Int → Int → Int} {onDouble : Binary64 → Binary64 → Binary64}
    (hname : name ∈ ["plus".toList, "minus".toList, "times".toList]) :
    Answered (answer (binary "operand" (arithmetic onInt onDouble)) name v args) ↔
      ¬ Exceeds now almanac name v args := by
  refine answered_binary_iff (Exceeds now almanac name v) ?_ ?_
  · rw [exceeds_arithmetic_iff hname]
    rintro ⟨w, -, hargs⟩
    exact ⟨w, hargs⟩
  · intro w
    rw [exceeds_arithmetic_iff hname, answered_arithmetic_iff]
    simp

theorem answered_call_date_iff (hread : ∀ t, v = .text t → almanac.ReadsOrRefuses now t) :
    Answered (answer (withDefault "format_str" .nil (date now almanac)) name v args) ↔
      ¬ Exceeds now almanac "date".toList v args := by
  refine answered_withDefault_iff (Exceeds now almanac "date".toList v) ?_ ?_ ?_
  · rw [exceeds_date_iff]
    rintro ⟨w, -, rfl⟩
    exact Nat.le_refl 1
  · rw [exceeds_date_iff]
    simp [date, Value.isVacant]
  · intro w
    rw [exceeds_date_iff, answered_date_iff hread]
    simp

theorem answered_call_total_iff {f : Value → Value} (hname : name ∉ limitedNames) :
    Answered (answer (unary fun v => .ok (f v)) name v args) ↔ ¬ Exceeds now almanac name v args := by
  have hlimit : ∀ {args}, ¬ Exceeds now almanac name v args := fun h => hname h.name_mem
  exact answered_unary_iff (Exceeds now almanac name v) (fun h => absurd h hlimit) (iff_of_true (answered_ok _) hlimit)

theorem answered_call_default_iff {parameter : String} {default : Value} {f : Value → Value → Value}
    (hname : name ∉ limitedNames) :
    Answered (answer (withDefault parameter default fun v w => .ok (f v w)) name v args) ↔
      ¬ Exceeds now almanac name v args := by
  have hlimit : ∀ {args}, ¬ Exceeds now almanac name v args := fun h => hname h.name_mem
  exact answered_withDefault_iff (Exceeds now almanac name v) (fun h => absurd h hlimit)
    (iff_of_true (answered_ok _) hlimit) fun w => iff_of_true (answered_ok _) hlimit

theorem answered_call_iff (hread : ∀ t, v = .text t → almanac.ReadsOrRefuses now t) {f : Filter}
    (h : (name, f) ∈ filters now almanac) :
    Answered (answer f name v args) ↔ ¬ Exceeds now almanac name v args := by
  simp only [filters, List.mem_cons, List.not_mem_nil, or_false, Prod.mk.injEq] at h
  rcases h with ⟨rfl, rfl⟩ | ⟨rfl, rfl⟩ | ⟨rfl, rfl⟩ | ⟨rfl, rfl⟩ | ⟨rfl, rfl⟩ | ⟨rfl, rfl⟩ | ⟨rfl, rfl⟩ | ⟨rfl, rfl⟩ |
    ⟨rfl, rfl⟩ | ⟨rfl, rfl⟩ | ⟨rfl, rfl⟩ | ⟨rfl, rfl⟩ | ⟨rfl, rfl⟩ | ⟨rfl, rfl⟩ | ⟨rfl, rfl⟩ | ⟨rfl, rfl⟩ | ⟨rfl, rfl⟩ |
    ⟨rfl, rfl⟩ | ⟨rfl, rfl⟩ | ⟨rfl, rfl⟩
  · exact answered_call_total_iff (by decide)
  · exact answered_call_escapeOnce_iff
  · exact answered_call_total_iff (by decide)
  · exact answered_call_total_iff (by decide)
  · exact answered_call_total_iff (by decide)
  · exact answered_call_total_iff (by decide)
  · exact answered_call_total_iff (by decide)
  · exact answered_call_total_iff (by decide)
  · exact answered_call_affix_iff (by decide) fun w => answered_append_iff
  · exact answered_call_affix_iff (by decide) fun w => answered_prepend_iff
  · exact answered_call_truncate_iff
  · exact answered_call_total_iff (by decide)
  · exact answered_call_default_iff (by decide)
  · exact answered_call_join_iff
  · exact answered_call_total_iff (by decide)
  · exact answered_call_total_iff (by decide)
  · exact answered_call_arithmetic_iff (by decide)
  · exact answered_call_arithmetic_iff (by decide)
  · exact answered_call_arithmetic_iff (by decide)
  · exact answered_call_date_iff hread

end

end Standard

namespace Registry

open Standard

variable {now : Moment} {almanac : Almanac} {name : Text}

/-- A call by name is checked against the parameters that the filter declares, and answered by it. -/
theorem invoke_standard {f : Filter} (h : (name, f) ∈ Standard.filters now almanac) (v : Value) (args : List Value) :
    (standard now almanac).invoke name v args = answer f name v args := by
  have hwell : WellFormed (standard now almanac) := wellFormed_initial (some (now, almanac))
  have hfind : (standard now almanac).find? name = some f := (@find?_initial (some (now, almanac)) name f).2 h
  unfold invoke invokeWith answer
  rw [get_eq_ok_iff.2 hfind, ← hwell.mismatch?_eq hfind]
  rfl

end Registry

end Liquid
