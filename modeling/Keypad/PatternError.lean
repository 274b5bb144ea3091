/-!
The error of a pattern that cannot be used, with its text and the reason.
-/
namespace Keypad

structure PatternError where
  pattern : String
  reason : String
  deriving DecidableEq, Repr, Inhabited

namespace PatternError

def message (e : PatternError) : String :=
  s!"cannot compile grammar pattern `{e.pattern}`: {e.reason}"

def code : String := "dtmfmatch::pattern"

def help : String := "the grammar compiler must emit a pattern in `regex` crate syntax"

end PatternError

end Keypad
