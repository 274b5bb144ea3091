/-!
The bytes of text, and reading a character back from the bytes on either side of a place.
-/
namespace Keypad.Text.Utf8

def encodeChar (c : Char) : List UInt8 := String.utf8EncodeChar c

def encode (text : String) : List UInt8 := text.toList.flatMap encodeChar

def isTail (b : UInt8) : Bool := 0x80 ≤ b && b ≤ 0xBF

def length? (b : UInt8) : Option Nat :=
  if b ≤ 0x7F then some 1
  else if 0xC2 ≤ b && b ≤ 0xDF then some 2
  else if 0xE0 ≤ b && b ≤ 0xEF then some 3
  else if 0xF0 ≤ b && b ≤ 0xF4 then some 4
  else none

def number (b : UInt8) (tail : List UInt8) : Nat :=
  let lead := match tail.length with
    | 0 => b.toNat
    | 1 => b.toNat - 0xC0
    | 2 => b.toNat - 0xE0
    | _ => b.toNat - 0xF0
  tail.foldl (fun n t => n * 64 + (t.toNat - 0x80)) lead

def least : Nat → Nat
  | 0 | 1 => 0
  | 2 => 0x80
  | 3 => 0x800
  | _ => 0x10000

def first? (bytes : List UInt8) : Option Char :=
  match bytes with
  | [] => none
  | b :: rest =>
    match length? b with
    | none => none
    | some n =>
      let tail := rest.take (n - 1)
      let v := number b tail
      if tail.length = n - 1 ∧ tail.all isTail ∧ least n ≤ v ∧
        v.isValidChar then some (Char.ofNat v)
      else none

/-- The character that ends just before a place; `before` holds the bytes in front, nearest
first. -/
def last? (before : List UInt8) : Option Char :=
  let n := ((before.take 3).takeWhile isTail).length + 1
  let bytes := (before.take n).reverse
  match first? bytes with
  | some c => if (encodeChar c).length = bytes.length then some c else none
  | none => none

def decode? (bytes : List UInt8) : Option (List Char) :=
  match bytes with
  | [] => some []
  | b :: rest =>
    match first? (b :: rest) with
    | none => none
    | some c => (decode? (rest.drop ((encodeChar c).length - 1))).map (c :: ·)
  termination_by bytes.length
  decreasing_by simp only [List.length_drop, List.length_cons]; omega

end Keypad.Text.Utf8
