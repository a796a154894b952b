import Verbal.Unicode.Age
import Verbal.Unicode.BinaryProperty
import Verbal.Unicode.CharSet
import Verbal.Unicode.GeneralCategory
import Verbal.Unicode.Script
import Verbal.Unicode.ScriptExtensions

/-!
# Character properties by name

Properties are asked for by one name (`Greek`, `Lu`, `Alphabetic`) or by a name and a value
(`Script=Greek`). Names are compared in a normal form that drops blanks, dashes, underscores, case
and an `is` in front. One name is looked up among the binary properties first, then among the
general categories and last among the scripts.
-/

namespace Verbal.Unicode

/-- A property as it is asked for. -/
inductive PropertyQuery where
  | named (name : List Char)
  | valued (name value : List Char)
  deriving Repr, DecidableEq

/-- Why a property cannot be answered. -/
inductive PropertyFault where
  | unknownProperty
  | unknownValue
  deriving Repr, DecidableEq

/-- The normal form of a name of a property or of a value. -/
def normalName (name : List Char) : String :=
  let (stripped, rest) := match name with
    | a :: b :: rest => if a.toLower == 'i' && b.toLower == 's' then (true, rest) else (false, name)
    | _ => (false, name)
  let kept := (rest.filter fun c => c.toNat < 128 && c != ' ' && c != '_' && c != '-').map
    Char.toLower
  -- `isc` is a name of its own: the other category `c` cannot be written with an `is` in front
  if stripped && kept == ['c'] then "isc" else String.ofList kept

/-- The text of the first entry that has the name. -/
def setNamed? (table : List (List String × String)) (name : String) : Option CharSet :=
  (table.find? (·.1.contains name)).map fun e => .table (.ofText e.2)

/-- The general category of that name, or one of the sets `any`, `assigned` and `ascii`. -/
def category? (name : String) : Option (Except PropertyFault CharSet) :=
  if name == "any" then some (.ok .all)
  else if name == "assigned" then (setNamed? generalCategories "cn").map fun s => .ok (.compl s)
  else if name == "ascii" then some (.ok (.range '\x00' '\x7f'))
  else if name == "cs" || name == "surrogate" then some (.error .unknownValue)
  else match categoryGroups.find? (·.1.contains name) with
    | some g => some (.ok (.unions (g.2.filterMap (setNamed? generalCategories))))
    | none => (setNamed? generalCategories name).map .ok

/-- The names of script values that no character has. -/
def emptyScripts : List String := ["hrkt", "katakanaorhiragana", "zzzz", "unknown"]

/-- The script of that name. -/
def script? (table : List (List String × String)) (name : String) :
    Option (Except PropertyFault CharSet) :=
  if emptyScripts.contains name then some (.error .unknownValue)
  else (setNamed? table name).map .ok

/-- The characters known in the version of that name. -/
def age? (name : String) : Option CharSet :=
  match ages.findIdx? (·.1.contains name) with
  | none => none
  | some i => some (.unions ((ages.take (i + 1)).map fun e => .table (.ofText e.2)))

/-- Names of properties that hold other values than yes and no, in their normal form. -/
def otherProperties : List String := [
  "age", "bc", "bidiclass", "bidimirroringglyph", "bidipairedbracket", "bidipairedbrackettype",
  "blk", "block", "bmg", "bpb", "bpt", "canonicalcombiningclass", "casefolding", "ccc", "ce", "cf",
  "compex", "compositionexclusion", "cwkcf", "decompositionmapping", "decompositiontype", "dm",
  "dt", "ea", "eastasianwidth", "equideo", "equivalentunifiedideograph", "fullcompositionexclusion",
  "gcb", "gc", "generalcategory", "graphemeclusterbreak", "hangulsyllabletype", "hst",
  "indicpositionalcategory", "indicsyllabiccategory", "inpc", "insc", "isc", "isocomment",
  "jamoshortname", "jg", "joininggroup", "joiningtype", "jsn", "jt", "lb", "lc", "linebreak",
  "lowercasemapping", "na", "na1", "name", "namealias", "nfcqc", "nfcquickcheck", "nfdqc",
  "nfdquickcheck", "nfkccasefold", "nfkccf", "nfkcqc", "nfkcquickcheck", "nfkdqc",
  "nfkdquickcheck", "nt", "numerictype", "numericvalue", "nv", "sb", "sc", "scf", "script",
  "scriptextensions", "scx", "sentencebreak", "sfc", "simplecasefolding", "simplelowercasemapping",
  "simpletitlecasemapping", "simpleuppercasemapping", "slc", "stc", "suc", "tc",
  "titlecasemapping", "uc", "unicode1name", "uppercasemapping", "verticalorientation", "vo", "wb",
  "wordbreak"]

/-- The characters of one name. The names `cf`, `sc` and `lc` are general categories, although
properties have them too. -/
def namedProperty (name : String) : Except PropertyFault CharSet :=
  let own := name == "cf" || name == "sc" || name == "lc"
  match if own then none else setNamed? binaryProperties name with
  | some s => .ok s
  | none =>
    if !own && otherProperties.contains name then .error .unknownProperty
    else match category? name with
      | some r => r
      | none => (script? scripts name).getD (.error .unknownProperty)

/-- The characters for which a property has a value. -/
def valuedProperty (name value : String) : Except PropertyFault CharSet :=
  if name == "gc" || name == "generalcategory" then
    (category? value).getD (.error .unknownValue)
  else if name == "sc" || name == "script" then
    (script? scripts value).getD (.error .unknownValue)
  else if name == "scx" || name == "scriptextensions" then
    (script? scriptExtensions value).getD (.error .unknownValue)
  else if name == "age" then
    match age? value with
    | some s => .ok s
    | none => .error .unknownValue
  else if otherProperties.contains name || (setNamed? binaryProperties name).isSome then
    .error .unknownValue
  else .error .unknownProperty

/-- The characters that a query asks for. -/
def PropertyQuery.characters : PropertyQuery → Except PropertyFault CharSet
  | .named name => namedProperty (normalName name)
  | .valued name value => valuedProperty (normalName name) (normalName value)

end Verbal.Unicode
