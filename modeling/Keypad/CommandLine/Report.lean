import Keypad.PatternError
import Keypad.Symbol
import Keypad.Text.Wrap
/-!
Errors as reports for a terminal: the code of the error, its message wrapped beside a bar, and a
line of help.
-/
namespace Keypad.CommandLine

structure Report where
  code : String
  message : String
  help : String
  deriving DecidableEq, Repr, Inhabited

namespace Report

def lineWidth : Nat := 78

def page (r : Report) : String :=
  r.code ++ "\n\n" ++ Text.Wrap.fill "  × " "  │ " lineWidth r.message ++ "\n" ++
    Text.Wrap.fill "  help: " "        " lineWidth r.help ++ "\n"

def ofPattern (e : PatternError) : Report := ⟨PatternError.code, e.message, PatternError.help⟩

def ofSymbol (e : SymbolError) : Report := ⟨SymbolError.code, e.message, SymbolError.help⟩

end Report

end Keypad.CommandLine
