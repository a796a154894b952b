import Verbal.Regular.Fault
import Verbal.Regular.Regex

/-!
# What a pattern stands for

`Ast.regex` applies the flags of a pattern to what it holds. A switch without a group lasts to the
end of the group around it, across its bars, so the flags are handed on from left to right and a
group gives back those that it found. Case is ignored before a class is negated.

Where Unicode is switched off, classes are ASCII, and whatever could read a part of a character is
refused: the dot, negated classes, and escapes of bytes beyond ASCII.
-/

namespace Verbal.Regular

open Verbal.Unicode

/-- The flags in force. -/
structure Flags where
  anyCase : Bool
  multiLine : Bool
  dotAll : Bool
  swapGreed : Bool
  unicode : Bool
  crlf : Bool
  deriving Repr, DecidableEq

namespace Flags

/-- The flags that a pattern begins with. -/
def initial (anyCase : Bool) : Flags := ⟨anyCase, false, false, false, true, false⟩

/-- The flags after a switch. The mode of the text is no concern of what it stands for. -/
def set (flags : Flags) : Flag × Bool → Flags
  | (.anyCase, b) => { flags with anyCase := b }
  | (.multiLine, b) => { flags with multiLine := b }
  | (.dotAll, b) => { flags with dotAll := b }
  | (.swapGreed, b) => { flags with swapGreed := b }
  | (.unicode, b) => { flags with unicode := b }
  | (.crlf, b) => { flags with crlf := b }
  | (.verbose, _) => flags

/-- The flags after switches. -/
def apply (flags : Flags) (switches : Switches) : Flags := switches.foldl set flags

end Flags

/-! ## Classes -/

/-- The characters of an ASCII class. -/
def AsciiClass.characters : AsciiClass → CharSet
  | alnum => .unions [.range '0' '9', .range 'A' 'Z', .range 'a' 'z']
  | alpha => .union (.range 'A' 'Z') (.range 'a' 'z')
  | ascii => .range '\x00' '\x7f'
  | blank => .ofChars ['\t', ' ']
  | cntrl => .union (.range '\x00' '\x1f') (.single '\x7f')
  | digit => .range '0' '9'
  | graph => .range '!' '~'
  | lower => .range 'a' 'z'
  | print => .range ' ' '~'
  | punct => .unions [.range '!' '/', .range ':' '@', .range '[' (Char.ofNat 96), .range '\x7b' '~']
  | space => .spaceAscii
  | upper => .range 'A' 'Z'
  | word => .wordAscii
  | xdigit => .unions [.range '0' '9', .range 'A' 'F', .range 'a' 'f']

/-- The characters of a Perl class, of any script or of ASCII alone. -/
def PerlClass.characters (unicode : Bool) : PerlClass → CharSet
  | digit => if unicode then .decimal else .decimalAscii
  | space => if unicode then .space else .spaceAscii
  | word => if unicode then .word else .wordAscii

/-- The result of an operator on two sets. -/
def SetOp.apply : SetOp → CharSet → CharSet → CharSet
  | inter, a, b => .inter a b
  | diff, a, b => .diff a b
  | symDiff, a, b => .symDiff a b

/-- A set with the characters that are the same but for case, if case is ignored. -/
def Flags.fold (flags : Flags) (set : CharSet) : CharSet :=
  if flags.anyCase then
    if flags.unicode then .anyCase set else .anyCaseAscii set
  else set

/-- A set, or all other characters. Without Unicode these could not be told from parts of
characters, so they are refused. -/
def Flags.negate (flags : Flags) (negated : Bool) (set : CharSet) : Except Fault CharSet :=
  if !negated then .ok set
  else if flags.unicode then .ok (.compl set)
  else .error .nonUtf8

/-- The character that a letter of a class stands for. -/
def Flags.classLetter (flags : Flags) (l : Letter) : Except Fault Char :=
  if flags.unicode || l.char.toNat < 128 then .ok l.char
  else if l.byte then .error .nonUtf8
  else .error .unicodeNotAllowed

/-- The characters that have a property, or that do not have it. -/
def Flags.property (flags : Flags) (query : PropertyQuery) (negated : Bool) :
    Except Fault CharSet :=
  if !flags.unicode then .error .unicodeNotAllowed
  else
    match query.characters with
    | .error .unknownProperty => .error .propertyUnknown
    | .error .unknownValue => .error .propertyValueUnknown
    | .ok set => flags.negate negated (flags.fold set)

/-- The characters of what stands in a class. -/
def ClassItem.characters (flags : Flags) : ClassItem → Except Fault CharSet
  | empty => .ok .none
  | letter l => (flags.classLetter l).map .single
  | range lo hi => do return .range (← flags.classLetter lo) (← flags.classLetter hi)
  | ascii kind negated => flags.negate negated (flags.fold kind.characters)
  | perl kind negated => flags.negate negated (kind.characters flags.unicode)
  | property query negated => flags.property query negated
  | bracketed negated set => do flags.negate negated (flags.fold (← set.characters flags))
  | union first rest => do return .union (← first.characters flags) (← rest.characters flags)
  | combine op left right => do
    let left ← left.characters flags
    let right ← right.characters flags
    return op.apply (flags.fold left) (flags.fold right)

/-! ## Primitives -/

/-- The characters that a letter outside of classes stands for. -/
def Flags.letter (flags : Flags) (l : Letter) : Except Fault CharSet :=
  if flags.unicode then
    .ok (if flags.anyCase then .ofChars (caseVariants l.char) else .single l.char)
  else if l.byte && 128 ≤ l.char.toNat then .error .nonUtf8
  else .ok (if flags.anyCase then .ofChars [l.char, CharSet.swapAscii l.char] else .single l.char)

/-- The characters that a dot stands for. -/
def Flags.dot (flags : Flags) : Except Fault CharSet :=
  if !flags.unicode then .error .nonUtf8
  else if flags.dotAll then .ok .all
  else if flags.crlf then .ok (.compl (.ofChars ['\n', '\r']))
  else .ok (.compl (.single '\n'))

/-- What an assertion stands for. -/
def Flags.look (flags : Flags) : Assertion → Look
  | .startLine =>
    if !flags.multiLine then .startText else if flags.crlf then .startLineCrlf else .startLine
  | .endLine =>
    if !flags.multiLine then .endText else if flags.crlf then .endLineCrlf else .endLine
  | .startText => .startText
  | .endText => .endText
  | .wordBoundary => .wordBoundary flags.unicode
  | .notWordBoundary => .notWordBoundary flags.unicode
  | .wordStart => .wordStart flags.unicode
  | .wordEnd => .wordEnd flags.unicode
  | .wordStartHalf => .wordStartHalf flags.unicode
  | .wordEndHalf => .wordEndHalf flags.unicode

/-- What a primitive stands for. -/
def Primitive.regex (flags : Flags) : Primitive → Except Fault Regex
  | letter l => (flags.letter l).map .letter
  | dot => flags.dot.map .letter
  | assertion a => .ok (.look (flags.look a))
  | perl kind negated => (flags.negate negated (kind.characters flags.unicode)).map .letter
  | property query negated => (flags.property query negated).map .letter

/-! ## Patterns -/

/-- What a pattern stands for under the given flags, and the flags that it leaves in force. -/
def Ast.regex (flags : Flags) : Ast → Except Fault (Regex × Flags)
  | empty => .ok (.empty, flags)
  | .flags switches => .ok (.empty, flags.apply switches)
  | primitive p => (p.regex flags).map fun r => (r, flags)
  | set item => (item.characters flags).map fun s => (.letter s, flags)
  | repetition count reluctant body => do
    let (r, flags) ← body.regex flags
    return (.repeated count (reluctant == flags.swapGreed) r, flags)
  | group (.capture index) body => do
    let (r, _) ← body.regex flags
    return (.group index r, flags)
  | group (.plain switches) body => do
    let (r, _) ← body.regex (flags.apply switches)
    return (r, flags)
  | concat first rest => do
    let (a, flags) ← first.regex flags
    let (b, flags) ← rest.regex flags
    return (.concat a b, flags)
  | alternate first rest => do
    let (a, flags) ← first.regex flags
    let (b, flags) ← rest.regex flags
    return (.alternate a b, flags)

end Verbal.Regular
