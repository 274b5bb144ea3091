import Keypad.Pattern.Parser.Escape
/-!
Reading a class in square brackets: members and ranges, nested classes, and the set operations,
which bind to the left and weaker than standing side by side.
-/
namespace Keypad.Pattern.Parser

structure Members where
  start : Nat
  items : List ClassExpr
  deriving Repr, Inhabited

namespace Members

def emptyAt (c : Cursor) : Members := ⟨c.offset, []⟩

def push (m : Members) (e : ClassExpr) : Members :=
  ⟨if m.items.isEmpty then e.span.start else m.start, e :: m.items⟩

def toExpr (m : Members) : ClassExpr :=
  match m.items with
  | [] => .empty ⟨m.start, m.start⟩
  | [e] => e
  | e :: _ => .union ⟨m.start, e.span.stop⟩ m.items.reverse

end Members

abbrev Pending := Option (SetOperation × ClassExpr)

def Pending.close (p : Pending) (rhs : ClassExpr) : ClassExpr :=
  match p with
  | some (op, lhs) => .operation ⟨lhs.span.start, rhs.span.stop⟩ op lhs rhs
  | none => rhs

def namedClass? (c : Cursor) : Option (ClassExpr × Cursor) := do
  let inner ← c.take? "[:"
  let (negated, inner) := match inner.take? "^" with
    | some i => (true, i)
    | none => (false, inner)
  let name := inner.rest.takeWhile (· != ':')
  let behind : Cursor := ⟨inner.rest.drop name.length, inner.offset + name.length⟩
  let stop ← behind.take? ":]"
  let kind ← NamedClass.ofName? (String.ofList name)
  return (.named ⟨c.offset, stop.offset⟩ kind negated, stop)

def classPrimitive (verbose : Bool) (c : Cursor) : Except SyntaxError (Primitive × Cursor) :=
  match c.head? with
  | some '\\' => escape verbose c
  | some ch => .ok (.literal ⟨c.spanHere, ch, false⟩, c.bump)
  | none => Cursor.fail .classUnclosed c.spanBefore

def classRange (verbose : Bool) (opening : Nat) (c : Cursor) :
    Except SyntaxError (ClassExpr × Cursor) := do
  let unclosed : Span := ⟨opening, opening + 1⟩
  let (first, c) ← classPrimitive verbose c
  let c := c.skip verbose
  if c.atEnd then Cursor.fail .classUnclosed unclosed
  else
    let behind := c.peek verbose
    if c.head? ≠ some '-' ∨ behind = some ']' ∨ behind = some '-' then
      return (← first.toClassItem, c)
    else
      let c := c.next verbose
      if c.atEnd then Cursor.fail .classUnclosed unclosed
      else
        let (second, c) ← classPrimitive verbose c
        let lo ← first.toRangeEnd
        let hi ← second.toRangeEnd
        let span : Span := ⟨lo.span.start, hi.span.stop⟩
        if lo.char ≤ hi.char then return (.range span lo hi, c)
        else Cursor.fail .classRangeInvalid span

def leadingDashes (verbose : Bool) (opening : Nat) :
    Nat → Members → Cursor → Except SyntaxError (Members × Cursor)
  | 0, m, c => .ok (m, c)
  | fuel + 1, m, c =>
    if c.head? = some '-' then
      let m := m.push (.literal ⟨c.spanHere, '-', false⟩)
      let c := c.next verbose
      if c.atEnd then Cursor.fail .classUnclosed ⟨opening, opening⟩
      else leadingDashes verbose opening fuel m c
    else .ok (m, c)

/-- The start of a class: its sign of negation, leading dashes, and a closing bracket that stands
for itself because nothing comes before it. -/
def classOpening (verbose : Bool) (c : Cursor) : Except SyntaxError (Bool × Members × Cursor) := do
  let opening := c.offset
  let c := c.next verbose
  if c.atEnd then Cursor.fail .classUnclosed ⟨opening, c.offset⟩
  else
    let negated := c.head? = some '^'
    let c := if negated then c.next verbose else c
    if c.atEnd then Cursor.fail .classUnclosed ⟨opening, c.offset⟩
    else
      let (m, c) ← leadingDashes verbose opening (c.rest.length + 1) (Members.emptyAt c) c
      if m.items.isEmpty ∧ c.head? = some ']' then
        let m := m.push (.literal ⟨c.spanHere, ']', false⟩)
        let c := c.next verbose
        if c.atEnd then Cursor.fail .classUnclosed ⟨opening, c.offset⟩
        else return (negated, m, c)
      else return (negated, m, c)

def setOperation? (c : Cursor) : Option (SetOperation × Cursor) :=
  match c.take? "&&" with
  | some c => some (.intersection, c)
  | none =>
    match c.take? "--" with
    | some c => some (.difference, c)
    | none => (c.take? "~~").map fun c => (.symmetricDifference, c)

mutual

def bracketed (verbose : Bool) :
    Nat → Cursor → Except SyntaxError (Span × Bool × ClassExpr × Cursor)
  | 0, c => Cursor.fail .classUnclosed c.spanHere
  | fuel + 1, c => do
    let opening := c.offset
    let (negated, m, c) ← classOpening verbose c
    let (body, c) ← classBody verbose opening fuel none m c
    return (⟨opening, c.offset⟩, negated, body, c)

def classBody (verbose : Bool) (opening : Nat) :
    Nat → Pending → Members → Cursor → Except SyntaxError (ClassExpr × Cursor)
  | 0, _, _, c => Cursor.fail .classUnclosed ⟨opening, c.offset⟩
  | fuel + 1, pending, m, c => do
    let c := c.skip verbose
    match c.head? with
    | none => Cursor.fail .classUnclosed ⟨opening, opening + 1⟩
    | some '[' =>
      match namedClass? c with
      | some (named, c) => classBody verbose opening fuel pending (m.push named) c
      | none => do
        let (span, negated, body, c) ← bracketed verbose fuel c
        classBody verbose opening fuel pending (m.push (.bracketed span negated body)) c
    | some ']' => return (pending.close m.toExpr, c.bump)
    | some _ =>
      match setOperation? c with
      | some (op, c) =>
        classBody verbose opening fuel (some (op, pending.close m.toExpr)) (Members.emptyAt c) c
      | none => do
        let (item, c) ← classRange verbose opening c
        classBody verbose opening fuel pending (m.push item) c

end

end Keypad.Pattern.Parser
