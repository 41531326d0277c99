import Liquid.Error
import Liquid.Value.Printed

/-!
# Conversions of values

Where a text or a count is wanted, a value is converted.  Every value has a written form, but a whole number
with too many digits is not written; only numbers, truth values and numerals convert to a count.

## Main definitions

* `Value.plainText`, `Value.shownText`, `Value.emittedText` — the written forms, as far as they are written.
* `Value.count?` — the whole number that a value converts to.
-/

namespace Liquid.Value

/-- A written form of a value, unless a number in it is too long to be written. -/
def written (form : Value → Text) (v : Value) : Except Error Text :=
  if v.isWritable then .ok (form v) else .error (.fault .tooManyDigits)

/-- The plain form of a value. -/
def plainText (v : Value) : Except Error Text := v.written plain

/-- The shown form of a value. -/
def shownText (v : Value) : Except Error Text := v.written shown

/-- What a template emits for a value. -/
def emittedText (v : Value) : Except Error Text := v.written emitted

/-- The plain form of a value, with `nil` as the empty text. -/
def orEmpty (v : Value) : Except Error Text :=
  match v with
  | .nil => .ok []
  | v => v.plainText

/-- The whole number that a value is converted to where a count is expected; `none` when there is none. -/
def count? : Value → Except Error (Option Int)
  | .bool b => .ok (some (if b then 1 else 0))
  | .int n => .ok (some n)
  | .double (.infinite _) => .error (.fault .tooLarge)
  | .double x => .ok x.truncate?
  | .text t => .ok (Numeral.integer? t)
  | _ => .ok none

@[simp] theorem plainText_text (t : Text) : plainText (.text t) = .ok t := rfl

@[simp] theorem emittedText_text (t : Text) : emittedText (.text t) = .ok t := rfl

end Liquid.Value
