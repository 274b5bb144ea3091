import Keypad.Symbol
/-!
An utterance spelled out: each character is a word, and a symbol is given by its spoken form.
-/
namespace Keypad.Spoken

def lead : String := "dtmf-"

def word (c : Char) : String :=
  match Symbol.ofChar? c with
  | some s => lead ++ s.spoken
  | none => lead ++ c.toString

def utterance (text : String) : String := " ".intercalate (text.toList.map word)

end Keypad.Spoken
