import Liquid.Calendar.Moment
import Liquid.Text.Case

/-!
# The words of a written date

The words that a written date may hold besides numbers, in any case: days of the week, months, units of
time, the halves of the day, the names of universal time, and fillers that mean nothing.
-/

namespace Liquid.Vocabulary

/-- The place of a word in a list of lists of spellings. -/
def placeOf? (spellings : List (List String)) (word : Text) : Option Nat :=
  let w := Text.toLower word
  spellings.findIdx? fun forms => forms.any fun form => form.toList = w

/-- Fillers, which are passed over. -/
def isFiller (word : Text) : Bool :=
  (placeOf? [[" ", ".", ",", ";", "-", "/", "'", "at", "on", "and", "ad", "m", "t", "of", "st", "nd", "rd",
    "th"]] word).isSome

/-- A day of the week, Monday being 0. -/
def weekday? (word : Text) : Option Nat :=
  placeOf? [["mon", "monday"], ["tue", "tuesday"], ["wed", "wednesday"], ["thu", "thursday"],
    ["fri", "friday"], ["sat", "saturday"], ["sun", "sunday"]] word

/-- A month, counted from 1. -/
def month? (word : Text) : Option Nat :=
  (placeOf? [["jan", "january"], ["feb", "february"], ["mar", "march"], ["apr", "april"], ["may"],
    ["jun", "june"], ["jul", "july"], ["aug", "august"], ["sep", "sept", "september"], ["oct", "october"],
    ["nov", "november"], ["dec", "december"]] word).map (· + 1)

/-- A unit of time: hour, minute, second as 0, 1, 2. -/
def unit? (word : Text) : Option Nat :=
  placeOf? [["h", "hour", "hours"], ["m", "minute", "minutes"], ["s", "second", "seconds"]] word

/-- A half of the day: true for the second. -/
def afternoon? (word : Text) : Option Bool :=
  (placeOf? [["am", "a"], ["pm", "p"]] word).map (· == 1)

/-- The word between a month and its year. -/
def isOf (word : Text) : Bool := (placeOf? [["of"]] word).isSome

/-- A name of universal time, in any case. -/
def isUniversal (word : Text) : Bool := (placeOf? [["utc", "gmt", "z"]] word).isSome

/-- Whether a word can be the name of a time zone: at most five capitals, or `z`. -/
def couldNameZone (word : Text) : Bool :=
  word.length ≤ 5 && (word.all (fun c => 'A' ≤ c && c ≤ 'Z') || word = ['z'])

/-- An hour with the half of the day that it belongs to. -/
def withHalf (hour : Nat) (afternoon : Bool) : Nat :=
  if hour < 12 && afternoon then hour + 12 else if hour = 12 && !afternoon then 0 else hour

end Liquid.Vocabulary
