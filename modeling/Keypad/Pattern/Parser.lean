import Keypad.Unicode.Letter
import Keypad.Pattern.Parser.ClassSet
import Keypad.Pattern.Nesting
/-!
Reading a pattern. The reader is a machine that takes one token a step; groups and alternatives
that are still open wait on a stack of frames. `Expr.parse` reads a whole text.
-/
namespace Keypad.Pattern

namespace Parser

structure Row where
  start : Nat
  items : List Expr
  deriving Repr, Inhabited

namespace Row

def push (r : Row) (e : Expr) : Row := { r with items := e :: r.items }

def toExpr (r : Row) (stop : Nat) : Expr :=
  match r.items with
  | [] => .empty ⟨r.start, stop⟩
  | [e] => e
  | items => .concat ⟨r.start, stop⟩ items.reverse

end Row

/-- What is open around the current row. -/
inductive Frame
  | group (outer : Row) (start : Nat) (kind : GroupKind) (verbose : Bool)
  | alternation (start : Nat) (branches : List Expr)
  deriving Repr, Inhabited

structure State where
  cursor : Cursor
  verbose : Bool
  row : Row
  frames : List Frame
  captures : Nat
  names : List String
  deriving Repr, Inhabited

def State.start (text : String) : State := ⟨Cursor.ofText text, false, ⟨0, []⟩, [], 0, []⟩

def flag? : Char → Option Flag
  | 'i' => some .caseInsensitive | 'm' => some .multiLine | 's' => some .dotAll
  | 'U' => some .swapGreed | 'u' => some .unicode | 'R' => some .crlf | 'x' => some .verbose
  | _ => none

def flagItems : Nat → List FlagItem → Cursor → Except SyntaxError (List FlagItem × Cursor)
  | 0, _, c => Cursor.fail .flagUnclosed c.spanBefore
  | fuel + 1, done, c =>
    match c.head? with
    | none => Cursor.fail .flagUnclosed c.spanBefore
    | some ch =>
      if ch = ':' ∨ ch = ')' then
        if done.head? = some .minus then Cursor.fail .flagDangling ⟨c.offset - 1, c.offset⟩
        else .ok (done.reverse, c)
      else if ch = '-' then
        if done.contains .minus then Cursor.fail .flagRepeatedMinus c.spanHere
        else flagItems fuel (.minus :: done) c.bump
      else
        match flag? ch with
        | none => Cursor.fail .flagUnrecognized c.spanHere
        | some f =>
          if done.contains (.flag f) then Cursor.fail .flagDuplicate c.spanHere
          else flagItems fuel (.flag f :: done) c.bump

def isNameChar (first : Bool) (c : Char) : Bool :=
  if first then c == '_' || Unicode.isAlphabetic c
  else c == '_' || c == '.' || c == '[' || c == ']' || Unicode.isAlphabetic c || Unicode.isNumeric c

def nameChars (first : Bool) : List Char → Nat → Except SyntaxError (List Char × Cursor)
  | [], n => Cursor.fail .captureNameUnclosed ⟨n, n⟩
  | c :: rest, n =>
    if c = '>' then .ok ([], ⟨c :: rest, n⟩)
    else if !isNameChar first c then Cursor.fail .captureNameInvalid ⟨n, n + 1⟩
    else do
      let (cs, cursor) ← nameChars false rest (n + 1)
      return (c :: cs, cursor)

def groupName (names : List String) (c : Cursor) : Except SyntaxError (String × Cursor) := do
  let start := c.offset
  let (cs, c) ← nameChars true c.rest c.offset
  let name := String.ofList cs
  if cs.isEmpty then Cursor.fail .captureNameEmpty ⟨start, start⟩
  else if names.contains name then Cursor.fail .captureNameDuplicate ⟨start, c.offset⟩
  else return (name, c.bump)

def isLookaround (c : Cursor) : Bool :=
  ["?=", "?!", "?<=", "?<!"].any fun sign => (c.take? sign).isSome

def State.open (s : State) (start : Nat) (kind : GroupKind) (verbose : Bool) (cursor : Cursor) :
    State :=
  { s with
    cursor, verbose
    row := ⟨cursor.offset, []⟩
    frames := .group s.row start kind s.verbose :: s.frames }

def openGroup (s : State) : Except SyntaxError State := do
  let start := s.cursor.offset
  let here := s.cursor.spanHere
  let c := s.cursor.next s.verbose
  if isLookaround c then Cursor.fail .lookaround ⟨start, c.offset + 2⟩
  else if let some c := (c.take? "?P<").orElse fun _ => c.take? "?<" then
    let (name, c) ← groupName s.names c
    let s := { s with captures := s.captures + 1, names := name :: s.names }
    return s.open start (.capture s.captures (some name)) s.verbose c
  else if let some inner := c.take? "?" then
    if inner.atEnd then Cursor.fail .groupUnclosed here
    else
      let (items, stop) ← flagItems (inner.rest.length + 1) [] inner
      if stop.head? = some ')' then
        if items.isEmpty then Cursor.fail .repetitionOfNothing c.spanBefore
        else
          return { s with
            cursor := stop.bump
            verbose := (FlagItem.state? .verbose items).getD s.verbose
            row := s.row.push (.flags ⟨start, stop.bump.offset⟩ items) }
      else
        return s.open start (.scoped items) ((FlagItem.state? .verbose items).getD s.verbose)
          stop.bump
  else
    let s := { s with captures := s.captures + 1 }
    return s.open start (.capture s.captures none) s.verbose c

def nextBranch (s : State) : State :=
  let branch := s.row.toExpr s.cursor.offset
  let cursor := s.cursor.bump
  let frames := match s.frames with
    | .alternation start branches :: rest => .alternation start (branch :: branches) :: rest
    | frames => .alternation s.row.start [branch] :: frames
  { s with cursor, row := ⟨cursor.offset, []⟩, frames }

def collect (row : Row) (stop : Nat) : List Frame → Expr × List Frame
  | .alternation start branches :: rest =>
    (.alternation ⟨start, stop⟩ (row.toExpr stop :: branches).reverse, rest)
  | frames => (row.toExpr stop, frames)

def closeGroup (s : State) : Except SyntaxError State :=
  let (body, frames) := collect s.row s.cursor.offset s.frames
  match frames with
  | .group outer start kind verbose :: rest =>
    let cursor := s.cursor.bump
    .ok { s with
      cursor, verbose
      row := outer.push (.group ⟨start, cursor.offset⟩ kind body)
      frames := rest }
  | _ => Cursor.fail .groupUnopened s.cursor.spanHere

def operand (s : State) (span : Span) : Except SyntaxError (Expr × Row) :=
  match s.row.items with
  | [] | .empty _ :: _ | .flags _ _ :: _ => Cursor.fail .repetitionOfNothing span
  | e :: rest => .ok (e, { s.row with items := rest })

def State.repeated (s : State) (row : Row) (e : Expr) (min : Nat) (max : Option Nat) (greedy : Bool)
    (cursor : Cursor) : State :=
  { s with cursor, row := row.push (.iterate ⟨e.span.start, cursor.offset⟩ min max greedy e) }

def signRepetition (s : State) (min : Nat) (max : Option Nat) : Except SyntaxError State := do
  let (e, row) ← operand s s.cursor.spanBefore
  let c := s.cursor.bump
  if c.head? = some '?' then return s.repeated row e min max false c.bump
  else return s.repeated row e min max true c

def skipBlanks (c : Cursor) : Cursor :=
  let blanks := c.rest.takeWhile Text.isBlank
  ⟨c.rest.drop blanks.length, c.offset + blanks.length⟩

def digits (verbose : Bool) : Nat → Cursor → List Nat × Cursor
  | 0, c => ([], c)
  | fuel + 1, c =>
    match c.head? with
    | some ch =>
      if '0' ≤ ch ∧ ch ≤ '9' then
        let (ds, c) := digits verbose fuel (c.next verbose)
        ((ch.toNat - 0x30) :: ds, c)
      else ([], c)
    | none => ([], c)

def maxCount : Nat := 0xFFFFFFFF

def count (verbose : Bool) (c : Cursor) : Except SyntaxError Nat × Cursor :=
  let c := skipBlanks c
  let (ds, stop) := digits verbose (c.rest.length + 1) c
  let span : Span := ⟨c.offset, stop.offset⟩
  let n := ds.foldl (fun n d => n * 10 + d) 0
  let value : Except SyntaxError Nat :=
    if ds.isEmpty then Cursor.fail .countEmpty span
    else if n ≤ maxCount then .ok n
    else Cursor.fail .countInvalid span
  (value, (skipBlanks stop).skip (verbose && (skipBlanks stop).offset != stop.offset))

def closeCount (s : State) (row : Row) (e : Expr) (start min : Nat) (max : Option Nat)
    (c : Cursor) :
    Except SyntaxError State :=
  if c.head? ≠ some '\x7d' then Cursor.fail .countUnclosed ⟨start, c.offset⟩
  else
    let c := c.next s.verbose
    let isLazy := c.head? = some '?'
    let c := if isLazy then c.bump else c
    if max.all (min ≤ ·) then .ok (s.repeated row e min max (!isLazy) c)
    else Cursor.fail .countReversed ⟨start, c.offset⟩

def countedRepetition (s : State) : Except SyntaxError State := do
  let start := s.cursor.offset
  let (e, row) ← operand s s.cursor.spanBefore
  let unclosed (c : Cursor) : Except SyntaxError State :=
    Cursor.fail .countUnclosed ⟨start, c.offset⟩
  let c := s.cursor.next s.verbose
  if c.atEnd then unclosed c
  else
    let (first, c) := count s.verbose c
    if c.atEnd then unclosed c
    else if c.head? = some ',' then
      let c := c.next s.verbose
      if c.atEnd then unclosed c
      else if c.head? = some '\x7d' then do
        let min ← first
        closeCount s row e start min none c
      else do
        let min ← first
        let (second, c) := count s.verbose c
        let max ← second
        closeCount s row e start min (some max) c
    else do
      let n ← first
      closeCount s row e start n (some n) c

def step (s : State) : Except SyntaxError State :=
  match s.cursor.head? with
  | some '(' => openGroup s
  | some ')' => closeGroup s
  | some '|' => .ok (nextBranch s)
  | some '[' => do
    let (span, negated, body, c) ← bracketed s.verbose (2 * s.cursor.rest.length + 2) s.cursor
    return { s with cursor := c, row := s.row.push (.bracketed span negated body) }
  | some '?' => signRepetition s 0 (some 1)
  | some '*' => signRepetition s 0 none
  | some '+' => signRepetition s 1 none
  | some '\x7b' => countedRepetition s
  | _ => do
    let (p, c) ← primitive s.verbose s.cursor
    return { s with cursor := c, row := s.row.push p.toExpr }

/-- Reads tokens until the text ends. Each one takes a character, which bounds their number. -/
def run : Nat → State → Except SyntaxError State
  | fuel, s =>
    let s := { s with cursor := s.cursor.skip s.verbose }
    if s.cursor.atEnd then .ok s
    else
      match fuel with
      | 0 => .ok s
      | fuel + 1 =>
        match step s with
        | .ok s => run fuel s
        | .error e => .error e

def finish (s : State) : Except SyntaxError Expr :=
  let (body, frames) := collect s.row s.cursor.offset s.frames
  match frames with
  | [] => .ok body
  | .group _ start _ _ :: _ => Cursor.fail .groupUnclosed ⟨start, start + 1⟩
  | .alternation start _ :: _ => Cursor.fail .groupUnclosed ⟨start, start + 1⟩

end Parser

def Expr.parse (text : String) : Except SyntaxError Expr := do
  let s ← Parser.run (text.length + 1) (Parser.State.start text)
  let e ← Parser.finish s
  Nesting.check e
  return e

end Keypad.Pattern
