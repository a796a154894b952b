/-!
# Faults of extended patterns

Why an extended pattern is refused. Most faults are found while the pattern is read; the last ones
when it is compiled, among them those of the regular parts that it is cut into.
-/

namespace Verbal.Extended

/-- Why an extended pattern is refused. -/
inductive Fault where
  | groupUnclosed
  | endNotReached
  | closeExpected
  | conditionAlone
  | classInvalid
  | targetInvalid
  | trailingBackslash
  | escapeInvalid (escaped : Char)
  | hexInvalid
  | hexNoCharacter
  | propertyUnclosed
  | flagUnknown (text : List Char)
  | unicodeDisabled
  | nameInvalid
  | nameUnknown (name : List Char)
  | numberInvalid
  | nestingTooDeep
  | numberUnopened
  | numberBesideNames
  | lookBehindVaries
  | partInvalid
  | partTooLarge
  deriving Repr, DecidableEq

/-- What stands in front of the faults found while reading. -/
def parsing (text : String) : String := "Parsing error: " ++ text

/-- What stands in front of the faults found while compiling. -/
def compiling (text : String) : String := "Error compiling regex: " ++ text

/-- The reason as it is reported. -/
def Fault.message : Fault → String
  | groupUnclosed => parsing "Opening parenthesis without closing parenthesis"
  | endNotReached => parsing "General parsing error: end of string not reached"
  | closeExpected => parsing "General parsing error: expected close paren"
  | conditionAlone =>
    parsing ("General parsing error: expected conditional to be a backreference or at least " ++
      "an expression for when the condition is true")
  | classInvalid => parsing "Invalid character class"
  | targetInvalid => parsing "Target of repeat operator is invalid"
  | trailingBackslash => parsing "Backslash without following character"
  | escapeInvalid c => parsing ("Invalid escape: \\" ++ String.singleton c)
  | hexInvalid => parsing "Invalid hex escape"
  | hexNoCharacter => parsing "Invalid codepoint for hex or unicode escape"
  | propertyUnclosed => parsing "Unicode escape not closed"
  | flagUnknown text => parsing ("Unknown group flag: (?" ++ String.ofList text)
  | unicodeDisabled => parsing "Disabling Unicode not supported"
  | nameInvalid => parsing "Could not parse group name"
  | nameUnknown name => parsing ("Invalid group name in back reference: " ++ String.ofList name)
  | numberInvalid => parsing "Invalid back reference"
  | nestingTooDeep => parsing "Pattern too deeply nested"
  | numberUnopened => compiling "Invalid back reference"
  | numberBesideNames =>
    compiling ("Numbered backref/call not allowed because named group was used, use a named " ++
      "backref instead")
  | lookBehindVaries => compiling "Look-behind assertion without constant size"
  | partInvalid => compiling "Regex error: error parsing pattern 0"
  | partTooLarge => compiling "Regex error: error building NFA"

end Verbal.Extended
