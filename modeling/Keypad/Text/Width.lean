import Keypad.Unicode.Break
import Keypad.Unicode.Letter
import Keypad.Unicode.LineBreak
/-!
How many columns a character takes: two for the wide ones, none for controls, characters that can be
ignored and those drawn with the one before them, and one for the rest.
-/
namespace Keypad.Text

open Keypad.Charset Keypad.Unicode

def surroundingMarks : Intervals :=
  [0x605, 0x70F, 0x890, 0x891, 0x8E2, 0xA8FA].map Interval.single

def innerJamo : Intervals :=
  ["v", "t"].flatMap fun name => ((Row.find? name graphemeBreaks).map Row.intervals).getD []

def columnless : Intervals :=
  Intervals.normalize
    (category "cc" ++ binary "defaultignorablecodepoint" ++ graphemeExtend ++ innerJamo ++
      surroundingMarks)

def missingLeadingJamo : Nat := 0x115F

def columns (c : Char) : Nat :=
  let n := c.toNat
  if n < 0x7F then if n < 0x20 then 0 else 1
  else if n ≠ missingLeadingJamo ∧ columnless.contains n then 0
  else if wide.contains n then 2
  else 1

def width (text : List Char) : Nat := text.foldr (fun c n => columns c + n) 0

end Keypad.Text
