import Keypad.Pattern.Look
/-!
A pattern as it is written: flags, groups, classes with their set operations, and the place in the
text of each part that an error can point at. Places count characters.
-/
namespace Keypad.Pattern

structure Span where
  start : Nat
  stop : Nat
  deriving DecidableEq, Repr, Inhabited

inductive Flag
  | caseInsensitive
  | multiLine
  | dotAll
  | swapGreed
  | unicode
  | crlf
  | verbose
  deriving DecidableEq, Repr, Inhabited

inductive FlagItem
  | minus
  | flag (f : Flag)
  deriving DecidableEq, Repr, Inhabited

namespace FlagItem

def state? (f : Flag) : List FlagItem → Option Bool
  | items => go true items
where
  go (value : Bool) : List FlagItem → Option Bool
    | [] => none
    | .minus :: rest => go false rest
    | .flag g :: rest => if g = f then some value else go value rest

end FlagItem

/-- A character as written. One written by two hexadecimal digits can stand for a single byte. -/
structure Literal where
  span : Span
  char : Char
  isByte : Bool
  deriving DecidableEq, Repr, Inhabited

inductive ShortClass
  | digit
  | space
  | word
  deriving DecidableEq, Repr, Inhabited

inductive NamedClass
  | alnum | alpha | ascii | blank | cntrl | digit | graph | lower | print | punct | space | upper
  | word | xdigit
  deriving DecidableEq, Repr, Inhabited

namespace NamedClass

def all : List (String × NamedClass) :=
  [("alnum", .alnum), ("alpha", .alpha), ("ascii", .ascii), ("blank", .blank), ("cntrl", .cntrl),
    ("digit", .digit), ("graph", .graph), ("lower", .lower), ("print", .print), ("punct", .punct),
    ("space", .space), ("upper", .upper), ("word", .word), ("xdigit", .xdigit)]

def ofName? (name : String) : Option NamedClass := all.lookup name

end NamedClass

inductive PropertyQuery
  | letter (c : Char)
  | named (name : String)
  | valued (name value : String)
  deriving DecidableEq, Repr, Inhabited

inductive SetOperation
  | intersection
  | difference
  | symmetricDifference
  deriving DecidableEq, Repr, Inhabited

inductive ClassExpr
  | empty (span : Span)
  | literal (l : Literal)
  | range (span : Span) (lo hi : Literal)
  | named (span : Span) (kind : NamedClass) (negated : Bool)
  | property (span : Span) (query : PropertyQuery) (negated : Bool)
  | short (span : Span) (kind : ShortClass) (negated : Bool)
  | bracketed (span : Span) (negated : Bool) (body : ClassExpr)
  | union (span : Span) (items : List ClassExpr)
  | operation (span : Span) (op : SetOperation) (lhs rhs : ClassExpr)
  deriving Repr, Inhabited

def ClassExpr.span : ClassExpr → Span
  | .empty s | .range s _ _ | .named s _ _ | .property s _ _ | .short s _ _ | .bracketed s _ _
  | .union s _ | .operation s _ _ _ => s
  | .literal l => l.span

inductive Assertion
  | lineStart
  | lineEnd
  | textStart
  | textEnd
  | wordEdge (kind : WordEdge)
  deriving DecidableEq, Repr, Inhabited

inductive GroupKind
  | capture (index : Nat) (name : Option String)
  | scoped (flags : List FlagItem)
  deriving DecidableEq, Repr, Inhabited

inductive Expr
  | empty (span : Span)
  | flags (span : Span) (items : List FlagItem)
  | literal (l : Literal)
  | dot (span : Span)
  | assertion (span : Span) (a : Assertion)
  | property (span : Span) (query : PropertyQuery) (negated : Bool)
  | short (span : Span) (kind : ShortClass) (negated : Bool)
  | bracketed (span : Span) (negated : Bool) (body : ClassExpr)
  | iterate (span : Span) (min : Nat) (max : Option Nat) (greedy : Bool) (sub : Expr)
  | group (span : Span) (kind : GroupKind) (sub : Expr)
  | alternation (span : Span) (items : List Expr)
  | concat (span : Span) (items : List Expr)
  deriving Repr, Inhabited

def Expr.span : Expr → Span
  | .empty s | .flags s _ | .dot s | .assertion s _ | .property s _ _ | .short s _ _
  | .bracketed s _ _ | .iterate s _ _ _ _ | .group s _ _ | .alternation s _ | .concat s _ => s
  | .literal l => l.span

end Keypad.Pattern
