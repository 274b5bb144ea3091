import Keypad.Unicode.LineBreak
/-!
Where a line of text may end. Between any two characters a line may end unless a rule forbids it;
the rules look at the class of the character behind the place and at what stands before it, and the
first rule that applies decides.
-/
namespace Keypad.Text

open Keypad.Unicode

/-- What stands before a place in a line: the class as which the last character acts, that of the
last one that is no blank, whether a joiner stands right before, whether a run of regional
indicators there is odd, and whether a hyphen there follows a Hebrew letter. -/
structure BreakContext where
  last : LineClass
  solid : LineClass
  joined : Bool
  odd : Bool
  hebrewHyphen : Bool
  deriving DecidableEq, Repr, Inhabited

namespace BreakContext

def isLetter (c : LineClass) : Bool := c = .ordinary || c = .hebrew

def endsLine (c : LineClass) : Bool := c ∈ [.mandatory, .carriageReturn, .lineFeed, .nextLine]

def isSyllablePart (c : LineClass) : Bool :=
  c ∈ [.leadingJamo, .vowelJamo, .trailingJamo, .hangulPair, .hangulTriple]

def isPicture (c : LineClass) : Bool := c ∈ [.ideograph, .emojiBase, .emojiModifier]

def isAffix (c : LineClass) : Bool := c = .prefixMark || c = .postfixMark

def attaches (s : BreakContext) (c : LineClass) : Bool :=
  (c = .mark || c = .joiner) && !endsLine s.last && s.last ≠ .space && s.last ≠ .zeroWidthSpace

def acting (c : LineClass) : LineClass := if c = .mark || c = .joiner then .ordinary else c

def joinsNumber (a b : LineClass) : Bool :=
  (a ∈ [.close, .closeParenthesis, .numeric] && isAffix b) ||
    (isAffix a && b ∈ [.opening, .wideOpening, .numeric]) ||
    (a ∈ [.hyphen, .infixMark, .numeric, .slash] && b = .numeric)

def joinsSyllable (a b : LineClass) : Bool :=
  (a = .leadingJamo && isSyllablePart b && b ≠ .trailingJamo) ||
    (a ∈ [.vowelJamo, .hangulPair] && b ∈ [.vowelJamo, .trailingJamo]) ||
    (a ∈ [.trailingJamo, .hangulTriple] && b = .trailingJamo)

/-- Neighbours that stay together where neither is a blank or a mark of punctuation with a rule of
its own. -/
def joinsText (s : BreakContext) (b : LineClass) : Bool :=
  let a := s.last
  b ∈ [.breakAfter, .hyphen, .nonstarter] || a = .breakBefore ||
    s.hebrewHyphen || (a = .slash && b = .hebrew) || b = .inseparable ||
    (isLetter a && b = .numeric) || (a = .numeric && isLetter b) ||
    (a = .prefixMark && isPicture b) || (isPicture a && b = .postfixMark) ||
    (isAffix a && isLetter b) || (isLetter a && isAffix b) ||
    joinsNumber a b || joinsSyllable a b ||
    (isSyllablePart a && b = .postfixMark) || (a = .prefixMark && isSyllablePart b) ||
    (isLetter a && isLetter b) || (a = .infixMark && isLetter b) ||
    ((isLetter a || a = .numeric) && b = .opening) ||
    (a = .closeParenthesis && (isLetter b || b = .numeric)) ||
    (a = .regional && b = .regional && s.odd) || (a = .emojiBase && b = .emojiModifier)

def allows (s : BreakContext) (c : LineClass) : Bool :=
  if endsLine s.last then !(s.last = .carriageReturn && c = .lineFeed)
  else if endsLine c || c = .space || c = .zeroWidthSpace then false
  else if s.solid = .zeroWidthSpace then true
  else if s.joined || s.attaches c then false
  else
    let b := acting c
    if b = .wordJoiner || s.last = .wordJoiner || s.last = .glue then false
    else if b = .glue && s.last ∉ [.space, .breakAfter, .hyphen] then false
    else if b ∈ [.close, .closeParenthesis, .exclamation, .infixMark, .slash] then false
    else if s.solid = .opening || s.solid = .wideOpening then false
    else if s.solid = .quotation && (b = .opening || b = .wideOpening) then false
    else if s.solid ∈ [.close, .closeParenthesis] && b = .nonstarter then false
    else if s.solid = .dash && b = .dash then false
    else if s.last = .space then true
    else if b = .quotation || s.last = .quotation then false
    else if b = .contingent || s.last = .contingent then true
    else !s.joinsText b

def push (s : BreakContext) (c : LineClass) : BreakContext :=
  if s.attaches c then { s with joined := c = .joiner }
  else
    let b := acting c
    { last := b
      solid := if b = .space then s.solid else b
      joined := c = .joiner
      odd := b = .regional && !(s.last = .regional && s.odd)
      hebrewHyphen := (b = .hyphen || b = .breakAfter) && s.last = .hebrew }

def start (c : LineClass) : BreakContext :=
  let b := acting c
  ⟨b, b, c = .joiner, b = .regional, false⟩

end BreakContext

def cutFrom (cut : Char → Bool → Bool) (s : BreakContext) (before : Char) (word : List Char) :
    List Char → List (List Char)
  | [] => [word]
  | c :: rest =>
    let k := lineClass c
    if cut before (s.allows k) then word :: cutFrom cut (s.push k) c [c] rest
    else cutFrom cut (s.push k) c (word ++ [c]) rest

def cutLine (cut : Char → Bool → Bool) : List Char → List (List Char)
  | [] => []
  | c :: rest => cutFrom cut (BreakContext.start (lineClass c)) c [c] rest

end Keypad.Text
