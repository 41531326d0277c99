import Liquid.Calendar.Moment
import Liquid.Text.Quoted

/-!
# Errors

An error is a cause; its wording is in one place, `Error.message?`.  What is wrong with a piece of markup is a
`SyntaxError`, which also tells the markup and the place in it.  A `Fault` is an operation on values that has
no answer; it has no wording of its own.
-/

namespace Liquid

/-- What is wrong with a piece of markup. -/
inductive SyntaxCause
  | unexpectedCharacter (c : Char)
  | unterminatedString
  | unterminatedBracket
  | emptyCondition
  /-- A condition of the tag `tag` that does not have the form of one. -/
  | conditionForm (tag : Text)
  | unknownOperator (operator : Text)
  | missingOperand (operator : Text)
  | unexpectedToken (token : Text)
  | missingName
  | missingPipe (token : Text)
  | invalidFilter
  | missingValue (label : Text)
  | missingArgument
  | invalidPath
  | invalidBound
  | branchAfterElse (tag : Text)
  | duplicateElse (tag : Text)
  | unknownTag (name tag : Text)
  deriving DecidableEq

/-- What is wrong with a piece of markup, with the markup and the offset where they are known. -/
structure SyntaxError where
  cause : SyntaxCause
  markup : Option Text := none
  position : Option Nat := none
  deriving DecidableEq

/-- How a call fails to fit the parameters of a filter. -/
inductive Mismatch
  | tooMany
  | missing (parameter : Text)
  deriving DecidableEq

/-- An operation on values that has no answer. -/
inductive Fault
  /-- The operation is not defined on values of this type. -/
  | wrongType
  /-- A list, a set or a mapping in the place of a member or a key. -/
  | unhashable
  /-- A relation that is none of the four. -/
  | unknownRelation
  | missingKey
  | indexOutOfRange
  /-- A slice of step zero. -/
  | zeroStep
  /-- A whole number with too many digits to be written or read. -/
  | tooManyDigits
  /-- A number too large for the numbers of the other operand, or for a length. -/
  | tooLarge
  /-- The parent of the root of a path. -/
  | noParent
  /-- The common matches of two paths. -/
  | intersection
  /-- A decimal with more digits than are computed with. -/
  | imprecise
  | calendar (e : CalendarError)
  | invalidJson
  deriving DecidableEq

/-- What can go wrong between a template and its output. -/
inductive Error
  | malformed (e : SyntaxError)
  | outermostScope
  | undefined (path : Text)
  | unknownFilter (name : Text)
  | arguments (filter : Text) (count : Nat) (mismatch : Mismatch)
  /-- Not a number, in its shown form. -/
  | notNumeric (shown : Text)
  /-- Not a length, in its shown form. -/
  | notLength (shown : Text)
  /-- Two types that do not compare. -/
  | incomparable (left right operator : Text)
  | invalidFilterName (name : Text)
  | notCallable (name : Text)
  | noInput (name : Text)
  | mismatchedConditions (conditions connectives : Nat)
  | unknownKeys (keys : List Text)
  | missingConfig (name : Text)
  | configNotMapping (name : Text)
  | fault (f : Fault)
  deriving DecidableEq

/-- The wording of a cause. -/
def SyntaxCause.message : SyntaxCause → Text
  | unexpectedCharacter c => "Unexpected character '".toList ++ [c, '\'']
  | unterminatedString => "Unterminated string".toList
  | unterminatedBracket => "Unterminated '['".toList
  | emptyCondition => "Empty condition".toList
  | conditionForm tag =>
    "Syntax Error in tag '".toList ++ tag ++ "' - Valid syntax: ".toList ++ tag ++ " [condition]".toList
  | unknownOperator op => "Unknown operator '".toList ++ op ++ ['\'']
  | missingOperand op => "Missing right operand for '".toList ++ op ++ ['\'']
  | unexpectedToken token => "Unexpected token '".toList ++ token ++ ['\'']
  | missingName => "Missing variable name".toList
  | missingPipe token => "Expected '|' after variable name, got '".toList ++ token ++ ['\'']
  | invalidFilter => "Invalid filter name".toList
  | missingValue label => "Missing value for argument '".toList ++ label ++ ['\'']
  | missingArgument => "Missing filter argument".toList
  | invalidPath => "Invalid variable path".toList
  | invalidBound => "Invalid range bound".toList
  | branchAfterElse tag => "Condition after 'else' in tag '".toList ++ tag ++ ['\'']
  | duplicateElse tag => "Duplicate 'else' in tag '".toList ++ tag ++ ['\'']
  | unknownTag name tag => "Unknown tag '".toList ++ name ++ "' in '".toList ++ tag ++ "' block".toList

/-- The wording of a syntax error: the cause, the markup, the place. -/
def SyntaxError.message (e : SyntaxError) : Text :=
  e.cause.message
    ++ (match e.markup with
      | none => []
      | some markup => ": ".toList ++ Text.quote markup)
    ++ (match e.position with
      | none => []
      | some position => " (at position ".toList ++ Text.ofNat position ++ [')'])

/-- The wording of a mismatch. -/
def Mismatch.message : Mismatch → Text
  | tooMany => "too many positional arguments".toList
  | missing parameter => "missing a required argument: ".toList ++ Text.quote parameter

/-- The wording of an error; a fault has none. -/
def Error.message? : Error → Option Text
  | malformed e => some e.message
  | outermostScope => some "Cannot pop the outermost scope".toList
  | undefined path => some ("Undefined variable '".toList ++ path ++ ['\''])
  | unknownFilter name => some ("Unknown filter '".toList ++ name ++ ['\''])
  | arguments filter count mismatch =>
    some ("Filter '".toList ++ filter ++ "' called with ".toList ++ Text.ofNat count
      ++ " argument(s): ".toList ++ mismatch.message)
  | notNumeric shown => some ("Expected a number, got ".toList ++ shown)
  | notLength shown => some ("truncate length must be a number, got ".toList ++ shown)
  | incomparable left right op =>
    some ("Cannot compare ".toList ++ left ++ " with ".toList ++ right ++ " using '".toList ++ op ++ ['\''])
  | invalidFilterName name => some ("Invalid filter name: ".toList ++ Text.quote name)
  | notCallable name => some ("Filter '".toList ++ name ++ "' is not callable".toList)
  | noInput name =>
    some ("Filter '".toList ++ name ++ "' must accept the piped value as a positional argument".toList)
  | mismatchedConditions m n =>
    some ("Expected matching non-empty conditions and connectives, got ".toList ++ Text.ofNat m
      ++ " and ".toList ++ Text.ofNat n)
  | unknownKeys keys => some ("Unknown compiler config keys: ".toList ++ Text.join ", ".toList keys)
  | missingConfig name => some ("Compiler config not found: ".toList ++ name)
  | configNotMapping name =>
    some ("Compiler config '".toList ++ name ++ "' must be a JSON object".toList)
  | fault _ => none

end Liquid
