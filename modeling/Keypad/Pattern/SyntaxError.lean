import Keypad.Pattern.Expr
/-!
What can be wrong with the text of a pattern, the place it is found at, and the report that shows
the place under the text.
-/
namespace Keypad.Pattern

inductive SyntaxCause
  | captureNameDuplicate
  | captureNameEmpty
  | captureNameInvalid
  | captureNameUnclosed
  | classEscapeInvalid
  | classRangeInvalid
  | classRangeNotLiteral
  | classUnclosed
  | countEmpty
  | countInvalid
  | countReversed
  | countUnclosed
  | escapeUnclosed
  | escapeUnrecognized
  | backreference
  | flagDangling
  | flagDuplicate
  | flagRepeatedMinus
  | flagUnclosed
  | flagUnrecognized
  | groupUnclosed
  | groupUnopened
  | hexEmpty
  | hexInvalid
  | hexInvalidDigit
  | lookaround
  | nestingExceeded (limit : Nat)
  | repetitionOfNothing
  | unicodeClassInvalid
  | unicodeNotAllowed
  | unicodePropertyNotFound
  | unicodePropertyValueNotFound
  | wordEdgeUnclosed
  | wordEdgeUnrecognized
  deriving DecidableEq, Repr, Inhabited

namespace SyntaxCause

def message : SyntaxCause → String
  | .captureNameDuplicate => "duplicate capture group name"
  | .captureNameEmpty => "empty capture group name"
  | .captureNameInvalid => "invalid capture group character"
  | .captureNameUnclosed => "unclosed capture group name"
  | .classEscapeInvalid => "invalid escape sequence found in character class"
  | .classRangeInvalid => "invalid character class range, the start must be <= the end"
  | .classRangeNotLiteral => "invalid range boundary, must be a literal"
  | .classUnclosed => "unclosed character class"
  | .countEmpty => "repetition quantifier expects a valid decimal"
  | .countInvalid => "decimal literal invalid"
  | .countReversed => "invalid repetition count range, the start must be <= the end"
  | .countUnclosed => "unclosed counted repetition"
  | .escapeUnclosed => "incomplete escape sequence, reached end of pattern prematurely"
  | .escapeUnrecognized => "unrecognized escape sequence"
  | .backreference => "backreferences are not supported"
  | .flagDangling => "dangling flag negation operator"
  | .flagDuplicate => "duplicate flag"
  | .flagRepeatedMinus => "flag negation operator repeated"
  | .flagUnclosed => "expected flag but got end of regex"
  | .flagUnrecognized => "unrecognized flag"
  | .groupUnclosed => "unclosed group"
  | .groupUnopened => "unopened group"
  | .hexEmpty => "hexadecimal literal empty"
  | .hexInvalid => "hexadecimal literal is not a Unicode scalar value"
  | .hexInvalidDigit => "invalid hexadecimal digit"
  | .lookaround => "look-around, including look-ahead and look-behind, is not supported"
  | .nestingExceeded n => s!"exceed the maximum number of nested parentheses/brackets ({n})"
  | .repetitionOfNothing => "repetition operator missing expression"
  | .unicodeClassInvalid => "invalid Unicode character class"
  | .unicodeNotAllowed => "Unicode not allowed here"
  | .unicodePropertyNotFound => "Unicode property not found"
  | .unicodePropertyValueNotFound => "Unicode property value not found"
  | .wordEdgeUnclosed =>
    "special word boundary assertion is either unclosed or contains an invalid character"
  | .wordEdgeUnrecognized => "unrecognized special word boundary assertion, valid choices are: " ++
    "start, end, start-half or end-half"

end SyntaxCause

structure SyntaxError where
  cause : SyntaxCause
  span : Span
  deriving DecidableEq, Repr, Inhabited

namespace SyntaxError

def position (text : List Char) (offset : Nat) : Nat × Nat :=
  (text.take offset).foldl
    (fun (line, column) c => if c = '\n' then (line + 1, 1) else (line, column + 1)) (1, 1)

def spaces (n : Nat) : List Char := List.replicate n ' '

def padLeft (width : Nat) (text : List Char) : List Char := spaces (width - text.length) ++ text

def linesOf (text : List Char) : List (List Char) :=
  let lines := text.splitOn '\n'
  let lines := if lines.getLast? = some [] then lines.dropLast else lines
  let bare (l : List Char) := if l.getLast? = some '\r' then l.dropLast else l
  let broken := lines.length - (if text.getLast? = some '\n' then 0 else 1)
  lines.mapIdx fun i l => if i < broken then bare l else l

/-- The text with a row of carets below the line that holds the place. -/
def notated (text : List Char) (span : Span) : List (List Char) :=
  let lines := linesOf text
  let count := if text.getLast? = some '\n' then lines.length + 1 else lines.length
  let width := if count ≤ 1 then 0 else (toString count).length
  let margin := if width = 0 then 4 else width + 2
  let (line, column) := position text span.start
  let (lastLine, lastColumn) := position text span.stop
  let carets := spaces (margin + (column - 1)) ++ List.replicate (max 1 (lastColumn - column)) '^'
  (lines.mapIdx fun i l =>
    let label :=
      if width = 0 then spaces 4 else padLeft width (toString (i + 1)).toList ++ [':', ' ']
    let row := label ++ l
    if line = lastLine ∧ i + 1 = line then [row, carets] else [row]).flatten

def report (pattern : String) (e : SyntaxError) : String :=
  let text := pattern.toList
  let rows := notated text e.span
  let message := "error: ".toList ++ e.cause.message.toList
  let heading := "regex parse error:".toList
  let all :=
    if text.contains '\n' then
      let divider := List.replicate 79 '~'
      let (line, column) := position text e.span.start
      let (lastLine, lastColumn) := position text e.span.stop
      let note := s!"on line {line} (column {column}) through line {lastLine} " ++
        s!"(column {lastColumn - 1})"
      let notes := if line = lastLine then [] else [note.toList]
      [heading, divider] ++ rows ++ [divider] ++ notes ++ [message]
    else heading :: rows ++ [message]
  String.ofList (List.intercalate ['\n'] all)

end SyntaxError

end Keypad.Pattern
