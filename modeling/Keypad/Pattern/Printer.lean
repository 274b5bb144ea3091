import Keypad.Pattern.Form
/-!
Writing a form as the text of a pattern. Sequences, alternatives and literals of several characters
are bracketed; a repetition writes only its operator behind what it repeats.
-/
namespace Keypad.Pattern.Printer

open Keypad.Charset

def isMeta (c : Char) : Bool :=
  ['\\', '.', '+', '*', '?', '(', ')', '|', '[', ']', '\x7b', '\x7d', '^', '$', '#', '&', '-',
    '~'].contains c

def char (c : Char) : List Char := if isMeta c then ['\\', c] else [c]

def hexDigit (n : Nat) : Char :=
  if n < 10 then Char.ofNat (n + 0x30) else Char.ofNat (n - 10 + 0x41)

def hexByte (b : Nat) : List Char := ['\\', 'x', hexDigit (b / 16), hexDigit (b % 16)]

def isPlainByte (b : Nat) : Bool := 0x20 < b && b < 0x7F

def classByte (b : Nat) : List Char := if isPlainByte b then char (Char.ofNat b) else hexByte b

def byte (b : Nat) : List Char :=
  if isPlainByte b then char (Char.ofNat b) else "(?-u:".toList ++ hexByte b ++ [')']

def interval (member : Nat → List Char) (i : Interval) : List Char :=
  if i.lo = i.hi then member i.lo
  else if i.lo + 1 = i.hi then member i.lo ++ member i.hi
  else member i.lo ++ '-' :: member i.hi

def classBody (member : Nat → List Char) (s : Intervals) : List Char :=
  '[' :: s.flatMap (interval member) ++ [']']

def emptyClass : List Char := "[a&&b]".toList

def literal (bs : List UInt8) : List Char :=
  let (count, body) :=
    match Text.Utf8.decode? bs with
    | some cs => (cs.length, cs.flatMap char)
    | none => (bs.length, bs.flatMap fun b => byte b.toNat)
  if count > 1 then "(?:".toList ++ body ++ [')'] else body

def wordEdge : WordEdge → String
  | .boundary => "\\b"
  | .notBoundary => "\\B"
  | .start => "\\b\x7bstart\x7d"
  | .finish => "\\b\x7bend\x7d"
  | .startHalf => "\\b\x7bstart-half\x7d"
  | .finishHalf => "\\b\x7bend-half\x7d"

def look : Look → String
  | .textStart => "\\A"
  | .textEnd => "\\z"
  | .lineStart false => "(?m:^)"
  | .lineEnd false => "(?m:$)"
  | .lineStart true => "(?mR:^)"
  | .lineEnd true => "(?mR:$)"
  | .wordEdge k false => "(?-u:" ++ wordEdge k ++ ")"
  | .wordEdge k true => wordEdge k

def braced (text : String) : String := "\x7b" ++ text ++ "\x7d"

def operator (min : Nat) (max : Option Nat) (greedy : Bool) : String :=
  let lazyMark := if greedy then "" else "?"
  match min, max with
  | 0, some 1 => "?" ++ lazyMark
  | 0, none => "*" ++ lazyMark
  | 1, none => "+" ++ lazyMark
  | 1, some 1 => ""
  | m, none => braced s!"{m}," ++ lazyMark
  | m, some n => if m = n then braced s!"{m}" else braced s!"{m},{n}" ++ lazyMark

/-- Which bracket is open around a part: that of a sequence, of alternatives, or neither. -/
inductive Within
  | seq
  | alt
  | other
  deriving DecidableEq

def bracketed (needed : Bool) (body : List Char) : List Char :=
  if needed then "(?:".toList ++ body ++ [')'] else body

def form (within : Within) : Form → List Char
  | .empty => "(?:)".toList
  | .look l => (look l).toList
  | .literal bs => literal bs
  | .bytes s =>
    if s.isEmpty then emptyClass else "(?-u:".toList ++ classBody classByte s ++ [')']
  | .chars s =>
    if s.isEmpty then emptyClass else classBody (fun n => char (Char.ofNat n)) s
  | .iterate min max greedy sub => form .other sub ++ (operator min max greedy).toList
  | .group _ name sub =>
    let opening := match name with
      | some n => "(?P<" ++ n ++ ">"
      | none => "("
    opening.toList ++ form .other sub ++ [')']
  | .seq a b => bracketed (within != .seq) (form .other a ++ form .seq b)
  | .alt a b => bracketed (within != .alt) (form .other a ++ '|' :: form .alt b)

end Printer

def Form.render (f : Form) : String := String.ofList (Printer.form .other f)

end Keypad.Pattern
