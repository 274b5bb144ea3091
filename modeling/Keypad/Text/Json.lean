/-!
Structured data and its two written forms: compact, and on lines of their own with two blanks for
each level.
-/
namespace Keypad.Text

inductive Json
  | string (text : String)
  | number (n : Nat)
  | array (items : List Json)
  | object (fields : List (String × Json))
  deriving Repr, Inhabited

namespace Json

def hexDigit (n : Nat) : Char :=
  if n < 10 then Char.ofNat (n + 0x30) else Char.ofNat (n - 10 + 0x61)

def escape (c : Char) : List Char :=
  if c = '\x22' then ['\\', '\x22']
  else if c = '\\' then ['\\', '\\']
  else if c = '\x08' then ['\\', 'b']
  else if c = '\x0c' then ['\\', 'f']
  else if c = '\n' then ['\\', 'n']
  else if c = '\r' then ['\\', 'r']
  else if c = '\t' then ['\\', 't']
  else if c.toNat < 0x20 then ['\\', 'u', '0', '0', hexDigit (c.toNat / 16),
    hexDigit (c.toNat % 16)]
  else [c]

def quote (text : String) : List Char := '\x22' :: text.toList.flatMap escape ++ ['\x22']

def digits (n : Nat) : List Char := (toString n).toList

def enclose (opening closing : Char) (items : List (List Char)) : List Char :=
  opening :: List.intercalate [','] items ++ [closing]

mutual

def compactChars : Json → List Char
  | .string s => quote s
  | .number n => digits n
  | .array items => enclose '[' ']' (compactItems items)
  | .object fields => enclose '\x7b' '\x7d' (compactFields fields)

def compactItems : List Json → List (List Char)
  | [] => []
  | j :: rest => compactChars j :: compactItems rest

def compactFields : List (String × Json) → List (List Char)
  | [] => []
  | (key, j) :: rest => (quote key ++ ':' :: compactChars j) :: compactFields rest

end

def newLine (level : Nat) : List Char := '\n' :: List.replicate (2 * level) ' '

def encloseLines (level : Nat) (opening closing : Char) (items : List (List Char)) : List Char :=
  match items with
  | [] => [opening, closing]
  | items =>
    opening :: newLine (level + 1) ++ List.intercalate (',' :: newLine (level + 1)) items ++
      newLine level ++ [closing]

mutual

def prettyChars (level : Nat) : Json → List Char
  | .string s => quote s
  | .number n => digits n
  | .array items => encloseLines level '[' ']' (prettyItems (level + 1) items)
  | .object fields => encloseLines level '\x7b' '\x7d' (prettyFields (level + 1) fields)

def prettyItems (level : Nat) : List Json → List (List Char)
  | [] => []
  | j :: rest => prettyChars level j :: prettyItems level rest

def prettyFields (level : Nat) : List (String × Json) → List (List Char)
  | [] => []
  | (key, j) :: rest => (quote key ++ ':' :: ' ' :: prettyChars level j) :: prettyFields level rest

end

def compact (j : Json) : String := String.ofList (compactChars j)

def pretty (j : Json) : String := String.ofList (prettyChars 0 j)

end Json

end Keypad.Text
