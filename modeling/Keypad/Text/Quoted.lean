import Keypad.Unicode.Letter
/-!
Text between quotes with escapes, so that every character can be seen. A character without a picture
of its own is written by its number.
-/
namespace Keypad.Text.Quoted

def hex (n : Nat) : List Char := Nat.toDigits 16 n

def byNumber (c : Char) : List Char := '\\' :: 'u' :: '\x7b' :: hex c.toNat ++ ['\x7d']

def escape (c : Char) : List Char :=
  if c = '\x00' then ['\\', '0']
  else if c = '\t' then ['\\', 't']
  else if c = '\r' then ['\\', 'r']
  else if c = '\n' then ['\\', 'n']
  else if c = '\\' then ['\\', '\\']
  else if c = '\x22' then ['\\', '\x22']
  else if Unicode.isGraphemeExtend c || !Unicode.isPrintable c then byNumber c
  else [c]

def encode (text : String) : String :=
  String.ofList ('\x22' :: text.toList.flatMap escape ++ ['\x22'])

end Keypad.Text.Quoted
