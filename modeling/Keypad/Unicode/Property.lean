import Keypad.Unicode.Age
import Keypad.Unicode.Break
import Keypad.Unicode.CaseOrbit
import Keypad.Unicode.Letter
import Keypad.Unicode.Script
import Keypad.Unicode.ScriptExtension
/-!
Sets of characters by Unicode property, and the other cases of a character. Names are compared
without regard to case, blanks, dashes, underscores and a leading "is".
-/
namespace Keypad.Unicode

open Keypad.Charset

def decimalDigits : Intervals := category "nd"

def whiteSpace : Intervals := binary "whitespace"

def wordCharacters : Intervals :=
  Intervals.normalize
    (alphabetic ++ ["mn", "mc", "me", "nd", "pc"].flatMap category ++ binary "joincontrol")

def isWordCharacter (c : Char) : Bool :=
  if c.toNat < 0x80 then c.isAlphanum || c == '_' else wordCharacters.contains c.toNat

inductive PropertyError
  | unknownProperty
  | unknownValue
  deriving DecidableEq, Repr, Inhabited

/-- The form in which names are compared. One name keeps its leading "is", which would otherwise
make it the name of a category. -/
def normalizeName (name : String) : String :=
  let lower := name.toList.map Char.toLower
  let hasIs := ['i', 's'].isPrefixOf lower
  let body := (if hasIs then lower.drop 2 else lower).filter fun c =>
    c.toNat < 0x80 && c != ' ' && c != '_' && c != '-'
  if hasIs ∧ body = ['c'] then "isc" else String.ofList body

def generalCategory? (name : String) : Option Intervals :=
  match name with
  | "any" => some (Intervals.complement .scalar [])
  | "assigned" => some ((category "cn").complement .scalar)
  | "ascii" => some [⟨0, 0x7F⟩]
  | _ =>
    match Row.find? name generalCategories with
    | some row => some row.intervals
    | none =>
      (categoryGroups.find? (·.1.contains name)).map fun group =>
        Intervals.normalize (group.2.flatMap category)

def rowSet? (rows : List Row) (name : String) : Option Intervals :=
  (Row.find? name rows).map Row.intervals

def upToAge : List Row → String → Option Intervals
  | [], _ => none
  | r :: rest, name =>
    if r.names.contains name then some r.intervals
    else (upToAge rest name).map fun s => r.intervals.union s

def byName (name : String) : Except PropertyError Intervals :=
  let name := normalizeName name
  match (rowSet? binaryProperties name).orElse fun _ =>
      (generalCategory? name).orElse fun _ => rowSet? scripts name with
  | some s => .ok s
  | none => .error .unknownProperty

def byValue (name value : String) : Except PropertyError Intervals :=
  let value := normalizeName value
  let found : Except PropertyError (Option Intervals) :=
    match normalizeName name with
    | "gc" | "generalcategory" => .ok (generalCategory? value)
    | "sc" | "script" => .ok (rowSet? scripts value)
    | "scx" | "scriptextensions" => .ok (rowSet? scriptExtensions value)
    | "age" => .ok (upToAge ages value)
    | "gcb" | "graphemeclusterbreak" => .ok (rowSet? graphemeBreaks value)
    | "wb" | "wordbreak" => .ok (rowSet? wordBreaks value)
    | "sb" | "sentencebreak" => .ok (rowSet? sentenceBreaks value)
    | _ => .error .unknownProperty
  match found with
  | .ok (some s) => .ok s
  | .ok none => .error .unknownValue
  | .error e => .error e

def readOrbits : List Char → List Nat → Option Nat → List (List Nat)
  | [], group, n => [group ++ n.toList]
  | c :: rest, group, n =>
    if c = ';' then (group ++ n.toList) :: readOrbits rest [] none
    else if c = ' ' then readOrbits rest (group ++ n.toList) none
    else if c = '\n' then readOrbits rest group n
    else readOrbits rest group (some (n.getD 0 * 16 + digitValue c))

def caseOrbits : List (List Nat) :=
  (readOrbits caseOrbitText.toList [] none).map fun orbit => orbit.filter (decide ·.isValidChar)

def foldCase (s : Intervals) : Intervals :=
  let added := caseOrbits.flatMap fun orbit => if orbit.any s.contains then orbit else []
  Intervals.normalize (s ++ added.map Interval.single)

end Keypad.Unicode
