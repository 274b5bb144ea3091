import Keypad.Text.BreakPoint
import Keypad.Text.Width
/-!
Wrapping text to a number of columns. A line is cut into fragments where it may end; fragments are
put on a line as long as they fit, and the blanks behind the last one of a line are dropped. Nothing
else is lost.
-/
namespace Keypad.Text.Wrap

structure Fragment where
  text : List Char
  blanks : Nat
  deriving DecidableEq, Repr, Inhabited

namespace Fragment

def columns (f : Fragment) : Nat := width f.text

def toList (f : Fragment) : List Char := f.text ++ List.replicate f.blanks ' '

def ofText (text : List Char) : Fragment :=
  let kept := (text.reverse.dropWhile (· == ' ')).reverse
  ⟨kept, text.length - kept.length⟩

end Fragment

def softHyphen : Char := '\xad'

def cutsHere (before : Char) (allowed : Bool) : Bool :=
  allowed && before ≠ '-' && before ≠ softHyphen

def isAlphanumeric (c : Char) : Bool := Unicode.isAlphabetic c || Unicode.isNumeric c

def hyphenParts : List Char → List Char → List (List Char)
  | part, [] => [part.reverse]
  | part, c :: rest =>
    let cut := c = '-' ∧ (part.head?.any isAlphanumeric) ∧ (rest.head?.any isAlphanumeric)
    if cut then (c :: part).reverse :: hyphenParts [] rest else hyphenParts (c :: part) rest

def limitParts (limit : Nat) : List Char → List Char → List (List Char)
  | part, [] => [part.reverse]
  | part, c :: rest =>
    if 0 < width part ∧ limit < width part + columns c then
      part.reverse :: limitParts limit [c] rest
    else limitParts limit (c :: part) rest

def ofParts (parts : List (List Char)) (blanks : Nat) : List Fragment :=
  match parts.reverse with
  | [] => []
  | final :: earlier => earlier.reverse.map (⟨·, 0⟩) ++ [⟨final, blanks⟩]

def Fragment.split (cut : List Char → List (List Char)) (f : Fragment) : List Fragment :=
  ofParts (cut f.text) f.blanks

def fragments (limit : Nat) (line : List Char) : List Fragment :=
  let words := (cutLine cutsHere line).map Fragment.ofText
  (words.flatMap (Fragment.split (hyphenParts []))).flatMap fun f =>
    if limit < f.columns then f.split (limitParts limit []) else [f]

def joinLine : List Fragment → List Char
  | [] => []
  | [f] => f.text
  | f :: rest => f.toList ++ joinLine rest

def packFrom (limit : Nat) (line : List Fragment) (used : Nat) :
    List Fragment → List (List Fragment)
  | [] => [line]
  | f :: rest =>
    if limit < used + f.columns ∧ line ≠ [] then
      line :: packFrom limit [f] (f.columns + f.blanks) rest
    else packFrom limit (line ++ [f]) (used + f.columns + f.blanks) rest

def pack (limit : Nat) (fs : List Fragment) : List (List Fragment) := packFrom limit [] 0 fs

def lines (limit : Nat) (line : List Char) : List (List Char) :=
  (pack limit (fragments limit line)).map joinLine

/-- Wraps each line of a text. The first line begins with one indentation and the others with
another, which takes as many columns. -/
def fill (opening continuation : String) (limit : Nat) (text : String) : String :=
  let room := limit - width opening.toList
  let wrapped := (text.toList.splitOn '\n').flatMap (lines room)
  match wrapped with
  | [] => ""
  | first :: rest =>
    "\n".intercalate
      ((opening ++ String.ofList first) :: rest.map (continuation ++ String.ofList ·))

end Keypad.Text.Wrap
