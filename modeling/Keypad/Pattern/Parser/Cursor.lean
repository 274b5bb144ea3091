import Keypad.Text.Blank
import Keypad.Pattern.SyntaxError
/-!
Where reading a pattern stands: the characters still to be read and how many were read before. In
verbose mode white space and comments between the tokens are skipped.
-/
namespace Keypad.Pattern

structure Cursor where
  rest : List Char
  offset : Nat
  deriving DecidableEq, Repr, Inhabited

namespace Cursor

def ofText (text : String) : Cursor := ⟨text.toList, 0⟩

def head? (c : Cursor) : Option Char := c.rest.head?

def atEnd (c : Cursor) : Bool := c.rest.isEmpty

def bump (c : Cursor) : Cursor :=
  match c.rest with
  | [] => c
  | _ :: rest => ⟨rest, c.offset + 1⟩

/-- White space and comments at the start of a text are dropped; a comment runs to the end of its
line. -/
def skipFrom (inComment : Bool) : List Char → Nat → Cursor
  | [], n => ⟨[], n⟩
  | c :: rest, n =>
    if inComment then skipFrom (c != '\n') rest (n + 1)
    else if Text.isBlank c then skipFrom false rest (n + 1)
    else if c = '#' then skipFrom true rest (n + 1)
    else ⟨c :: rest, n⟩

def skip (verbose : Bool) (c : Cursor) : Cursor :=
  if verbose then skipFrom false c.rest c.offset else c

def next (verbose : Bool) (c : Cursor) : Cursor := c.bump.skip verbose

def spanHere (c : Cursor) : Span := ⟨c.offset, c.bump.offset⟩

def spanBefore (c : Cursor) : Span := ⟨c.offset, c.offset⟩

def take? (text : String) (c : Cursor) : Option Cursor :=
  if text.toList.isPrefixOf c.rest then some ⟨c.rest.drop text.length, c.offset + text.length⟩
  else none

/-- The character behind the next one. In verbose mode white space before it is passed over, and so
is the sign that opens a comment, but not the text of the comment. -/
def peekFrom (inComment : Bool) : List Char → Option Char
  | [] => none
  | c :: rest =>
    if Text.isBlank c then peekFrom inComment rest
    else if !inComment && c = '#' then peekFrom true rest
    else some c

def peek (verbose : Bool) (c : Cursor) : Option Char :=
  let behind := c.rest.drop 1
  if verbose then (peekFrom false behind).orElse fun _ => behind.head? else behind.head?

def fail {α : Type} (cause : SyntaxCause) (span : Span) : Except SyntaxError α :=
  .error ⟨cause, span⟩

end Cursor

end Keypad.Pattern
