import Keypad.Unicode.BinaryProperty
import Keypad.Unicode.GeneralCategory
/-!
Letters, numbers and characters that can be shown.
-/
namespace Keypad.Unicode

open Keypad.Charset

def binary (name : String) : Intervals :=
  ((Row.find? name binaryProperties).map Row.intervals).getD []

def category (name : String) : Intervals :=
  ((Row.find? name generalCategories).map Row.intervals).getD []

def alphabetic : Intervals := binary "alphabetic"

def numeric : Intervals := Intervals.normalize (category "nd" ++ category "nl" ++ category "no")

def isAlphabetic (c : Char) : Bool :=
  if c.toNat < 0x80 then c.isAlpha else alphabetic.contains c.toNat

def isNumeric (c : Char) : Bool :=
  if c.toNat < 0x80 then c.isDigit else numeric.contains c.toNat

def hidden : Intervals :=
  Intervals.normalize (["cc", "cf", "cn", "co", "zl", "zp", "zs"].flatMap category)

def isPrintable (c : Char) : Bool :=
  if c.toNat < 0x80 then 0x20 ≤ c.toNat && c.toNat < 0x7F else !hidden.contains c.toNat

def graphemeExtend : Intervals := binary "graphemeextend"

def isGraphemeExtend (c : Char) : Bool := 0x80 ≤ c.toNat && graphemeExtend.contains c.toNat

end Keypad.Unicode
