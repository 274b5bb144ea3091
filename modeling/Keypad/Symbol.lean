/-!
The sixteen symbols of a telephone keypad, each with its printed character, its spoken word and its
byte. Reading a text of symbols reports the first character that is none of them and how many
characters stand before it.
-/
namespace Keypad

inductive Symbol
  | digit0 | digit1 | digit2 | digit3 | digit4 | digit5 | digit6 | digit7 | digit8 | digit9
  | pound | star
  | letterA | letterB | letterC | letterD
  deriving DecidableEq, Repr, Inhabited

namespace Symbol

def all : List Symbol :=
  [.digit0, .digit1, .digit2, .digit3, .digit4, .digit5, .digit6, .digit7, .digit8, .digit9,
    .pound, .star, .letterA, .letterB, .letterC, .letterD]

structure Entry where
  symbol : Symbol
  char : Char
  spoken : String
  deriving DecidableEq, Repr, Inhabited

/-- The registry. A symbol is spoken as its character, except for the two signs, which have
words. -/
def registry : List Entry :=
  [⟨.digit0, '0', "0"⟩, ⟨.digit1, '1', "1"⟩, ⟨.digit2, '2', "2"⟩, ⟨.digit3, '3', "3"⟩,
    ⟨.digit4, '4', "4"⟩, ⟨.digit5, '5', "5"⟩, ⟨.digit6, '6', "6"⟩, ⟨.digit7, '7', "7"⟩,
    ⟨.digit8, '8', "8"⟩, ⟨.digit9, '9', "9"⟩, ⟨.pound, '#', "pound"⟩, ⟨.star, '*', "star"⟩,
    ⟨.letterA, 'A', "A"⟩, ⟨.letterB, 'B', "B"⟩, ⟨.letterC, 'C', "C"⟩, ⟨.letterD, 'D', "D"⟩]

def rank (s : Symbol) : Nat := s.ctorIdx

theorem rank_lt (s : Symbol) : s.rank < registry.length := by cases s <;> decide

def entry (s : Symbol) : Entry := registry.get ⟨s.rank, s.rank_lt⟩

def char (s : Symbol) : Char := s.entry.char

def byte (s : Symbol) : UInt8 := s.char.toUInt8

def spoken (s : Symbol) : String := s.entry.spoken

def name : Symbol → String
  | .digit0 => "Digit0" | .digit1 => "Digit1" | .digit2 => "Digit2" | .digit3 => "Digit3"
  | .digit4 => "Digit4" | .digit5 => "Digit5" | .digit6 => "Digit6" | .digit7 => "Digit7"
  | .digit8 => "Digit8" | .digit9 => "Digit9"
  | .pound => "Pound" | .star => "Star"
  | .letterA => "A" | .letterB => "B" | .letterC => "C" | .letterD => "D"

def ofChar? (c : Char) : Option Symbol := (registry.find? (·.char == c)).map Entry.symbol

instance : Ord Symbol := ⟨fun s t => compare s.rank t.rank⟩

@[simp] theorem mem_all (s : Symbol) : s ∈ all := by cases s <;> decide

theorem entry_of_mem_registry {e : Entry} (h : e ∈ registry) : e.symbol.entry = e := by
  revert e
  decide

@[simp] theorem ofChar?_char (s : Symbol) : ofChar? s.char = some s := by cases s <;> decide

theorem char_of_ofChar? {c : Char} {s : Symbol} (h : ofChar? c = some s) : s.char = c := by
  obtain ⟨e, he, rfl⟩ := Option.map_eq_some_iff.mp h
  rw [char, entry_of_mem_registry (List.mem_of_find?_eq_some he)]
  simpa using List.find?_some he

theorem ofChar?_eq_some_iff {c : Char} {s : Symbol} : ofChar? c = some s ↔ s.char = c :=
  ⟨char_of_ofChar?, fun h => h ▸ ofChar?_char s⟩

end Symbol

structure SymbolError where
  found : Char
  offset : Option Nat
  deriving DecidableEq, Repr, Inhabited

namespace SymbolError

def message (e : SymbolError) : String :=
  match e.offset with
  | some n => s!"`{e.found}` at offset {n} is not a DTMF symbol"
  | none => s!"`{e.found}` is not a DTMF symbol"

def code : String := "dtmfmatch::symbol"

def help : String := "valid symbols are 0-9, #, * and A-D"

end SymbolError

namespace Symbol

def read (c : Char) : Except SymbolError Symbol :=
  match ofChar? c with
  | some s => .ok s
  | none => .error ⟨c, none⟩

def readAll (n : Nat) : List Char → Except SymbolError (List Symbol)
  | [] => .ok []
  | c :: rest =>
    match ofChar? c with
    | none => .error ⟨c, some n⟩
    | some s =>
      match readAll (n + 1) rest with
      | .ok ss => .ok (s :: ss)
      | .error e => .error e

def parse (text : String) : Except SymbolError (List Symbol) := readAll 0 text.toList

def textOf (ss : List Symbol) : String := String.ofList (ss.map char)

theorem readAll_map_char (n : Nat) (ss : List Symbol) : readAll n (ss.map char) = .ok ss := by
  induction ss generalizing n with
  | nil => rfl
  | cons s ss ih => simp [readAll, ih]

end Symbol

end Keypad
