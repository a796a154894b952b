/-!
# Faults of regular patterns

Why a pattern is refused: most causes lie in its text, a few in what its text stands for, and the
last in the size of what it stands for.
-/

namespace Verbal.Regular

/-- Why a regular pattern is refused. -/
inductive Fault where
  | classUnclosed
  | classRangeReversed
  | classRangeBoundary
  | classEscape
  | groupUnclosed
  | groupUnopened
  | groupNameEmpty
  | groupNameInvalid
  | groupNameUnclosed
  | groupNameDuplicate
  | repetitionWithoutTarget
  | repetitionUnclosed
  | repetitionWithoutCount
  | repetitionReversed
  | decimalTooLarge
  | escapeUnfinished
  | escapeUnknown
  | backreference
  | lookAround
  | hexEmpty
  | hexDigitInvalid
  | hexNoCharacter
  | flagUnknown
  | flagDuplicate
  | flagNegationRepeated
  | flagNegationDangling
  | flagUnfinished
  | propertyInvalid
  | propertyUnknown
  | propertyValueUnknown
  | boundaryUnclosed
  | boundaryUnknown
  | boundaryUnfinished
  | nonUtf8
  | unicodeNotAllowed
  | nestingTooDeep
  | tooLarge
  deriving Repr, DecidableEq

/-- The deepest nesting of a pattern. -/
def nestingLimit : Nat := 250

/-- The largest size of a compiled pattern, in bytes. -/
def sizeLimit : Nat := 10485760

/-- The reason as it is reported. -/
def Fault.message : Fault → String
  | classUnclosed => "unclosed character class"
  | classRangeReversed => "invalid character class range, the start must be <= the end"
  | classRangeBoundary => "invalid range boundary, must be a literal"
  | classEscape => "invalid escape sequence found in character class"
  | groupUnclosed => "unclosed group"
  | groupUnopened => "unopened group"
  | groupNameEmpty => "empty capture group name"
  | groupNameInvalid => "invalid capture group character"
  | groupNameUnclosed => "unclosed capture group name"
  | groupNameDuplicate => "duplicate capture group name"
  | repetitionWithoutTarget => "repetition operator missing expression"
  | repetitionUnclosed => "unclosed counted repetition"
  | repetitionWithoutCount => "repetition quantifier expects a valid decimal"
  | repetitionReversed => "invalid repetition count range, the start must be <= the end"
  | decimalTooLarge => "decimal literal invalid"
  | escapeUnfinished => "incomplete escape sequence, reached end of pattern prematurely"
  | escapeUnknown => "unrecognized escape sequence"
  | backreference => "backreferences are not supported"
  | lookAround => "look-around, including look-ahead and look-behind, is not supported"
  | hexEmpty => "hexadecimal literal empty"
  | hexDigitInvalid => "invalid hexadecimal digit"
  | hexNoCharacter => "hexadecimal literal is not a Unicode scalar value"
  | flagUnknown => "unrecognized flag"
  | flagDuplicate => "duplicate flag"
  | flagNegationRepeated => "flag negation operator repeated"
  | flagNegationDangling => "dangling flag negation operator"
  | flagUnfinished => "expected flag but got end of regex"
  | propertyInvalid => "invalid Unicode character class"
  | propertyUnknown => "Unicode property not found"
  | propertyValueUnknown => "Unicode property value not found"
  | boundaryUnclosed =>
    "special word boundary assertion is either unclosed or contains an invalid character"
  | boundaryUnknown =>
    "unrecognized special word boundary assertion, valid choices are: start, end, start-half " ++
      "or end-half"
  | boundaryUnfinished =>
    "found either the beginning of a special word boundary or a bounded repetition on a \\b " ++
      "with an opening brace, but no closing brace"
  | nonUtf8 => "pattern can match invalid UTF-8"
  | unicodeNotAllowed => "Unicode not allowed here"
  | nestingTooDeep =>
    s!"exceed the maximum number of nested parentheses/brackets ({nestingLimit})"
  | tooLarge => s!"Compiled regex exceeds size limit of {sizeLimit} bytes."

end Verbal.Regular
