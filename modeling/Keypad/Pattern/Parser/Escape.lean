import Keypad.Pattern.Printer
import Keypad.Pattern.Parser.Cursor
/-!
Reading a single element of a pattern: a character, a dot, an anchor or an escape sequence.
-/
namespace Keypad.Pattern

inductive Primitive
  | literal (l : Literal)
  | assertion (span : Span) (a : Assertion)
  | dot (span : Span)
  | short (span : Span) (kind : ShortClass) (negated : Bool)
  | property (span : Span) (query : PropertyQuery) (negated : Bool)
  deriving Repr, Inhabited

namespace Primitive

def span : Primitive → Span
  | .literal l => l.span
  | .assertion s _ | .dot s | .short s _ _ | .property s _ _ => s

def toExpr : Primitive → Expr
  | .literal l => .literal l
  | .assertion s a => .assertion s a
  | .dot s => .dot s
  | .short s k n => .short s k n
  | .property s q n => .property s q n

def toClassItem : Primitive → Except SyntaxError ClassExpr
  | .literal l => .ok (.literal l)
  | .short s k n => .ok (.short s k n)
  | .property s q n => .ok (.property s q n)
  | .assertion s _ | .dot s => .error ⟨.classEscapeInvalid, s⟩

def toRangeEnd : Primitive → Except SyntaxError Literal
  | .literal l => .ok l
  | p => .error ⟨.classRangeNotLiteral, p.span⟩

end Primitive

namespace Parser

def hexValue? (c : Char) : Option Nat :=
  if '0' ≤ c ∧ c ≤ '9' then some (c.toNat - 0x30)
  else if 'a' ≤ c ∧ c ≤ 'f' then some (c.toNat - 0x61 + 10)
  else if 'A' ≤ c ∧ c ≤ 'F' then some (c.toNat - 0x41 + 10)
  else none

def scalar? (digits : List Nat) : Option Char :=
  let n := digits.foldl (fun n d => n * 16 + d) 0
  if n.isValidChar then some (Char.ofNat n) else none

def hexDigits (verbose : Bool) : Nat → Cursor → Except SyntaxError (List Nat × Cursor)
  | 0, c => .ok ([], c)
  | n + 1, c =>
    match c.head? with
    | none => Cursor.fail .escapeUnclosed c.spanBefore
    | some ch =>
      match hexValue? ch with
      | none => Cursor.fail .hexInvalidDigit c.spanHere
      | some d => do
        let (ds, c) ← hexDigits verbose n (c.next verbose)
        return (d :: ds, c)

def hexBraced (verbose : Bool) (opening : Nat) :
    Nat → Cursor → Except SyntaxError (List Nat × Cursor)
  | 0, c => Cursor.fail .escapeUnclosed ⟨opening, c.offset⟩
  | fuel + 1, c =>
    match c.head? with
    | none => Cursor.fail .escapeUnclosed ⟨opening, c.offset⟩
    | some '\x7d' => .ok ([], c)
    | some ch =>
      match hexValue? ch with
      | none => Cursor.fail .hexInvalidDigit c.spanHere
      | some d => do
        let (ds, c) ← hexBraced verbose opening fuel (c.next verbose)
        return (d :: ds, c)

def hex (verbose : Bool) (start : Nat) (c : Cursor) : Except SyntaxError (Primitive × Cursor) := do
  let count := match c.head? with
    | some 'x' => 2
    | some 'u' => 4
    | _ => 8
  let c := c.next verbose
  match c.head? with
  | none => Cursor.fail .escapeUnclosed c.spanBefore
  | some '\x7b' =>
    let opening := c.offset
    let first := c.bump.offset
    let (ds, c) ← hexBraced verbose opening (c.rest.length + 1) (c.next verbose)
    let stop := c.offset
    let c := c.next verbose
    if ds.isEmpty then Cursor.fail .hexEmpty ⟨opening, c.offset⟩
    else match scalar? ds with
      | none => Cursor.fail .hexInvalid ⟨first, stop⟩
      | some ch => return (.literal ⟨⟨start, c.offset⟩, ch, false⟩, c)
  | some _ =>
    let first := c.offset
    let (ds, c) ← hexDigits verbose count c
    match scalar? ds with
    | none => Cursor.fail .hexInvalid ⟨first, c.offset⟩
    | some ch => return (.literal ⟨⟨start, c.offset⟩, ch, count = 2⟩, c)

def nameBraced (verbose : Bool) : Nat → Cursor → List Char × Cursor
  | 0, c => ([], c)
  | fuel + 1, c =>
    match c.head? with
    | none | some '\x7d' => ([], c)
    | some ch =>
      let (cs, c) := nameBraced verbose fuel (c.next verbose)
      (ch :: cs, c)

def splitAt? (mark : List Char) : List Char → Option (List Char × List Char)
  | [] => none
  | c :: rest =>
    if mark.isPrefixOf (c :: rest) then some ([], (c :: rest).drop mark.length)
    else (splitAt? mark rest).map fun (before, behind) => (c :: before, behind)

def queryOf (name : List Char) : PropertyQuery × Bool :=
  match splitAt? ['!', '='] name with
  | some (n, v) => (.valued (String.ofList n) (String.ofList v), true)
  | none =>
    match (splitAt? [':'] name).orElse fun _ => splitAt? ['='] name with
    | some (n, v) => (.valued (String.ofList n) (String.ofList v), false)
    | none => (.named (String.ofList name), false)

def property (verbose : Bool) (start : Nat) (c : Cursor) :
    Except SyntaxError (Primitive × Cursor) := do
  let negated := c.head? = some 'P'
  let c := c.next verbose
  match c.head? with
  | none => Cursor.fail .escapeUnclosed c.spanBefore
  | some '\x7b' =>
    let (name, c) := nameBraced verbose (c.rest.length + 1) (c.next verbose)
    if c.atEnd then Cursor.fail .escapeUnclosed c.spanBefore
    else
      let c := c.bump
      let (query, unequal) := queryOf name
      return (.property ⟨start, c.offset⟩ query (negated != unequal), c)
  | some '\\' => Cursor.fail .unicodeClassInvalid c.spanHere
  | some ch =>
    let c := c.next verbose
    return (.property ⟨start, c.offset⟩ (.letter ch) negated, c)

def isEdgeLetter (c : Char) : Bool := c.isAlpha || c == '-'

def edgeLetters (verbose : Bool) : Nat → Cursor → List Char × Cursor
  | 0, c => ([], c)
  | fuel + 1, c =>
    match c.head? with
    | some ch =>
      if isEdgeLetter ch then
        let (cs, c) := edgeLetters verbose fuel (c.next verbose)
        (ch :: cs, c)
      else ([], c)
    | none => ([], c)

/-- A name in braces behind a word boundary. Braces that hold no name belong to a repetition and
are left to be read. -/
def namedEdge? (verbose : Bool) (start : Nat) (c : Cursor) :
    Except SyntaxError (Option (WordEdge × Cursor)) := do
  if c.head? ≠ some '\x7b' then return none
  let opening := c.offset
  let inner := c.next verbose
  match inner.head? with
  | none => Cursor.fail .wordEdgeUnclosed ⟨start, inner.offset⟩
  | some ch =>
    if !isEdgeLetter ch then return none
    let (name, c) := edgeLetters verbose (inner.rest.length + 1) inner
    if c.head? ≠ some '\x7d' then Cursor.fail .wordEdgeUnclosed ⟨opening, c.offset⟩
    else
      match String.ofList name with
      | "start" => return some (.start, c.bump)
      | "end" => return some (.finish, c.bump)
      | "start-half" => return some (.startHalf, c.bump)
      | "end-half" => return some (.finishHalf, c.bump)
      | _ => Cursor.fail .wordEdgeUnrecognized ⟨inner.offset, c.offset⟩

def standsForItself (c : Char) : Bool :=
  c.toNat < 0x80 && !c.isAlphanum && c != '<' && c != '>'

def control? : Char → Option Char
  | 'a' => some '\x07' | 'f' => some '\x0c' | 't' => some '\t' | 'n' => some '\n'
  | 'r' => some '\r' | 'v' => some '\x0b' | _ => none

def shortClass? : Char → Option (ShortClass × Bool)
  | 'd' => some (.digit, false) | 'D' => some (.digit, true)
  | 's' => some (.space, false) | 'S' => some (.space, true)
  | 'w' => some (.word, false) | 'W' => some (.word, true)
  | _ => none

def escape (verbose : Bool) (c : Cursor) : Except SyntaxError (Primitive × Cursor) := do
  let start := c.offset
  let c := c.bump
  match c.head? with
  | none => Cursor.fail .escapeUnclosed ⟨start, c.offset⟩
  | some ch =>
    let after := c.bump
    let span : Span := ⟨start, after.offset⟩
    if '0' ≤ ch ∧ ch ≤ '9' then Cursor.fail .backreference span
    else if ch = 'x' ∨ ch = 'u' ∨ ch = 'U' then hex verbose start c
    else if ch = 'p' ∨ ch = 'P' then property verbose start c
    else if let some (kind, negated) := shortClass? ch then return (.short span kind negated, after)
    else if standsForItself ch then return (.literal ⟨span, ch, false⟩, after)
    else if let some control := control? ch then return (.literal ⟨span, control, false⟩, after)
    else
      match ch with
      | 'A' => return (.assertion span .textStart, after)
      | 'z' => return (.assertion span .textEnd, after)
      | 'b' =>
        match ← namedEdge? verbose start after with
        | some (kind, c) => return (.assertion ⟨start, c.offset⟩ (.wordEdge kind), c)
        | none => return (.assertion span (.wordEdge .boundary), after)
      | 'B' => return (.assertion span (.wordEdge .notBoundary), after)
      | '<' => return (.assertion span (.wordEdge .start), after)
      | '>' => return (.assertion span (.wordEdge .finish), after)
      | _ => Cursor.fail .escapeUnrecognized span

def primitive (verbose : Bool) (c : Cursor) : Except SyntaxError (Primitive × Cursor) :=
  match c.head? with
  | none => Cursor.fail .escapeUnclosed c.spanBefore
  | some '\\' => escape verbose c
  | some '.' => .ok (.dot c.spanHere, c.bump)
  | some '^' => .ok (.assertion c.spanHere .lineStart, c.bump)
  | some '$' => .ok (.assertion c.spanHere .lineEnd, c.bump)
  | some ch => .ok (.literal ⟨c.spanHere, ch, false⟩, c.bump)

end Parser

end Keypad.Pattern
