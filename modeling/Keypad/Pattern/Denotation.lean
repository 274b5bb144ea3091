import Keypad.Unicode.Property
import Keypad.Pattern.Parser
import Keypad.Pattern.Form
/-!
What a written pattern denotes under flags: the sets of its classes, and its normal form. Flags hold
from where they stand to the end of the group around them, through later alternatives too, so the
state of the flags is threaded from left to right.
-/
namespace Keypad.Pattern

open Keypad.Charset

def NamedClass.members : NamedClass → Intervals
  | .alnum => [⟨0x30, 0x39⟩, ⟨0x41, 0x5A⟩, ⟨0x61, 0x7A⟩]
  | .alpha => [⟨0x41, 0x5A⟩, ⟨0x61, 0x7A⟩]
  | .ascii => [⟨0x00, 0x7F⟩]
  | .blank => [⟨0x09, 0x09⟩, ⟨0x20, 0x20⟩]
  | .cntrl => [⟨0x00, 0x1F⟩, ⟨0x7F, 0x7F⟩]
  | .digit => [⟨0x30, 0x39⟩]
  | .graph => [⟨0x21, 0x7E⟩]
  | .lower => [⟨0x61, 0x7A⟩]
  | .print => [⟨0x20, 0x7E⟩]
  | .punct => [⟨0x21, 0x2F⟩, ⟨0x3A, 0x40⟩, ⟨0x5B, 0x60⟩, ⟨0x7B, 0x7E⟩]
  | .space => [⟨0x09, 0x0D⟩, ⟨0x20, 0x20⟩]
  | .upper => [⟨0x41, 0x5A⟩]
  | .word => [⟨0x30, 0x39⟩, ⟨0x41, 0x5A⟩, ⟨0x5F, 0x5F⟩, ⟨0x61, 0x7A⟩]
  | .xdigit => [⟨0x30, 0x39⟩, ⟨0x41, 0x46⟩, ⟨0x61, 0x66⟩]

def ShortClass.members (unicode : Bool) : ShortClass → Intervals
  | .digit => if unicode then Unicode.decimalDigits else NamedClass.members .digit
  | .space => if unicode then Unicode.whiteSpace else NamedClass.members .space
  | .word => if unicode then Unicode.wordCharacters else NamedClass.members .word

structure Flags where
  caseInsensitive : Bool
  multiLine : Bool
  dotAll : Bool
  swapGreed : Bool
  unicode : Bool
  crlf : Bool
  deriving DecidableEq, Repr, Inhabited

namespace Flags

def initial (unicode : Bool) : Flags := ⟨false, false, false, false, unicode, false⟩

def set (f : Flags) (items : List FlagItem) : Flags :=
  let pick (flag : Flag) (old : Bool) := (FlagItem.state? flag items).getD old
  { caseInsensitive := pick .caseInsensitive f.caseInsensitive
    multiLine := pick .multiLine f.multiLine
    dotAll := pick .dotAll f.dotAll
    swapGreed := pick .swapGreed f.swapGreed
    unicode := pick .unicode f.unicode
    crlf := pick .crlf f.crlf }

def domain (f : Flags) : Domain := if f.unicode then .scalar else .byte

def foldCase (f : Flags) (s : Intervals) : Intervals :=
  if !f.caseInsensitive then s
  else if f.unicode then Unicode.foldCase s
  else s.foldAscii

def negate (f : Flags) (negated : Bool) (s : Intervals) : Intervals :=
  if negated then s.complement f.domain else s

def short (f : Flags) (kind : ShortClass) (negated : Bool) : Intervals :=
  negate f negated (kind.members f.unicode)

def property (f : Flags) (span : Span) (query : PropertyQuery) (negated : Bool) :
    Except SyntaxError Intervals :=
  if !f.unicode then .error ⟨.unicodeNotAllowed, span⟩
  else
    let found := match query with
      | .letter c => Unicode.byName c.toString
      | .named name => Unicode.byName name
      | .valued name value => Unicode.byValue name value
    match found with
    | .ok s => .ok (negate f negated (foldCase f s))
    | .error .unknownProperty => .error ⟨.unicodePropertyNotFound, span⟩
    | .error .unknownValue => .error ⟨.unicodePropertyValueNotFound, span⟩

/-- The number of a member of a class. A class of bytes holds no character beyond ASCII, but a byte
given by its number. -/
def member (f : Flags) (l : Literal) : Except SyntaxError Nat :=
  if f.unicode ∨ l.isByte ∨ l.char.toNat < 0x80 then .ok l.char.toNat
  else .error ⟨.unicodeNotAllowed, l.span⟩

def operate (d : Domain) (op : SetOperation) (s t : Intervals) : Intervals :=
  match op with
  | .intersection => s.inter t
  | .difference => s.diff d t
  | .symmetricDifference => s.symmDiff d t

mutual

def classSet (f : Flags) : ClassExpr → Except SyntaxError Intervals
  | .empty _ => .ok []
  | .literal l => do
    let n ← member f l
    return [Interval.single n]
  | .range _ lo hi => do
    let a ← member f lo
    let b ← member f hi
    return [⟨a, b⟩]
  | .named _ kind negated => .ok (negate f negated (foldCase f (kind.members)))
  | .property span query negated => property f span query negated
  | .short _ kind negated => .ok (short f kind negated)
  | .bracketed _ negated body => do
    let s ← classSet f body
    return negate f negated (foldCase f s)
  | .union _ items => classSets f items
  | .operation _ op lhs rhs => do
    let s ← classSet f lhs
    let t ← classSet f rhs
    return operate f.domain op (foldCase f s) (foldCase f t)

def classSets (f : Flags) : List ClassExpr → Except SyntaxError Intervals
  | [] => .ok []
  | e :: rest => do
    let s ← classSet f e
    let t ← classSets f rest
    return s.union t

end

def dot (f : Flags) : Form :=
  let excluded : Intervals :=
    if f.dotAll then []
    else if f.crlf then [⟨0x0A, 0x0A⟩, ⟨0x0D, 0x0D⟩]
    else [⟨0x0A, 0x0A⟩]
  Form.classOf f.domain (excluded.complement f.domain)

def assertion (f : Flags) : Assertion → Look
  | .lineStart => if f.multiLine then .lineStart f.crlf else .textStart
  | .lineEnd => if f.multiLine then .lineEnd f.crlf else .textEnd
  | .textStart => .textStart
  | .textEnd => .textEnd
  | .wordEdge kind => .wordEdge kind f.unicode

def literal (f : Flags) (l : Literal) : Form :=
  let n := l.char.toNat
  if !f.unicode ∧ l.isByte ∧ 0x7F < n then .literal [n.toUInt8]
  else
    let cases := if f.caseInsensitive then foldCase f [Interval.single n] else [Interval.single n]
    if cases.single?.isSome then .literal (Text.Utf8.encodeChar l.char)
    else Form.classOf f.domain cases

mutual

def form (f : Flags) : Expr → Except SyntaxError (Form × Flags)
  | .empty _ => .ok (.empty, f)
  | .flags _ items => .ok (.empty, f.set items)
  | .literal l => .ok (literal f l, f)
  | .dot _ => .ok (dot f, f)
  | .assertion _ a => .ok (.look (assertion f a), f)
  | .property span query negated => do
    let s ← property f span query negated
    return (Form.classOf f.domain s, f)
  | .short _ kind negated => .ok (Form.classOf f.domain (short f kind negated), f)
  | .bracketed _ negated body => do
    let s ← classSet f body
    return (Form.classOf f.domain (negate f negated (foldCase f s)), f)
  | .iterate _ min max greedy sub => do
    let (inner, g) ← form f sub
    return (Form.iterated min max (greedy != g.swapGreed) inner, g)
  | .group _ (.capture index name) sub => do
    let (inner, _) ← form f sub
    return (.group index name inner, f)
  | .group _ (.scoped items) sub => do
    let (inner, _) ← form (f.set items) sub
    return (inner, f)
  | .alternation _ items => do
    let (branches, g) ← forms f items
    return (Form.alternate branches, g)
  | .concat _ items => do
    let (parts, g) ← forms f items
    return (Form.concat parts, g)

def forms (f : Flags) : List Expr → Except SyntaxError (List Form × Flags)
  | [] => .ok ([], f)
  | e :: rest => do
    let (first, g) ← form f e
    let (others, g) ← forms g rest
    return (first :: others, g)

end

end Flags

def Expr.toForm (unicode : Bool) (e : Expr) : Except SyntaxError Form := do
  let (form, _) ← (Flags.initial unicode).form e
  return form

def Form.parse (unicode : Bool) (text : String) : Except SyntaxError Form := do
  let e ← Expr.parse text
  e.toForm unicode

end Keypad.Pattern
