import Liquid.Calendar.Written
import Liquid.Error

/-!
# Almanacs

Two things about dates come from outside: which moment a written date denotes, and the local time.  An almanac holds
both.

## Main definitions

* `ReadingFailure` — why a text is not read as a date.
* `Almanac` — the reader of dates and the local time zone.
* `Almanac.standard` — the reader of this library, where local time is universal time.
-/

namespace Liquid

/-- Why a text is not read as a date: it denotes none, or the reader fails. -/
inductive ReadingFailure
  | unreadable
  | fault (f : Fault)

/-- The failure of a text that this library does not read. -/
def ReadingFailure.ofWritten : WrittenError → ReadingFailure
  | .unreadable => unreadable
  | .beyondPrecision => fault .imprecise

/-- How dates are read, and the local time zone. -/
structure Almanac where
  /-- The moment that a text denotes, read at a moment. -/
  read : (now : Moment) → Text → Except ReadingFailure Moment
  zone : LocalZone

/-- The reader of this library, where local time is universal time. -/
def Almanac.standard : Almanac where
  read now t := (Moment.ofWritten now t).mapError ReadingFailure.ofWritten
  zone := .universal

end Liquid
