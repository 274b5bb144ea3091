import Keypad.Proofs.Tokens
import Keypad.Text.Json
import Keypad.Text.Quoted
import Mathlib.Tactic.SplitIfs
/-!
Reading back text that was put between quotes. Both ways to escape it give each character a written
form that is read again whatever follows, so neither a quote nor a backslash in the text can move
its end.
-/
namespace Keypad.Text

open Pattern.Parser (hexValue?)

abbrev Unquoted := Option (List Char × List Char)

def Unquoted.ahead (c : Char) (l : Unquoted) : Unquoted :=
  l.map fun (text, rest) => (c :: text, rest)

theorem Unquoted.rest_of_ahead {c : Char} {l : Unquoted} {text rest : List Char}
    (h : l.ahead c = some (text, rest)) :
    ∃ text', l = some (text', rest) := by
  obtain ⟨⟨text', rest'⟩, hl, heq⟩ := Option.map_eq_some_iff.mp h
  obtain ⟨-, rfl⟩ := Prod.mk.inj heq
  exact ⟨text', hl⟩

def scalar? (n : Nat) : Option Char := if n.isValidChar then some (Char.ofNat n) else none

theorem scalar?_toNat (c : Char) : scalar? c.toNat = some c := by
  have hvalid : c.toNat.isValidChar := c.valid
  rw [scalar?, if_pos hvalid, Char.ofNat_toNat]

theorem takeWhile_append_stop {p : Char → Bool} {word : List Char} (hword : ∀ c ∈ word, p c = true)
    (rest : List Char) (hrest : ∀ c ∈ rest.head?, p c = false) :
    (word ++ rest).takeWhile p = word ∧ (word ++ rest).dropWhile p = rest := by
  have hnone : rest.takeWhile p = [] ∧ rest.dropWhile p = rest := by
    cases rest with
    | nil => exact ⟨rfl, rfl⟩
    | cons c rest => simp [hrest c rfl]
  rw [List.takeWhile_append_of_pos hword, List.dropWhile_append_of_pos hword, hnone.1, hnone.2,
    List.append_nil]
  exact ⟨rfl, rfl⟩

theorem read_flatMap {read : List Char → Unquoted} {escape : Char → List Char}
    (hclose : ∀ rest, read ('\x22' :: rest) = some ([], rest))
    (hescape : ∀ c rest, read (escape c ++ rest) = (read rest).ahead c) (text rest : List Char) :
    read (text.flatMap escape ++ '\x22' :: rest) = some (text, rest) := by
  induction text with
  | nil => exact hclose rest
  | cons c text ih =>
    rw [List.flatMap_cons, List.append_assoc, hescape, ih]
    rfl

namespace Quoted

def meaning? : Char → Option Char
  | '0' => some '\x00'
  | 't' => some '\t'
  | 'r' => some '\r'
  | 'n' => some '\n'
  | '\\' => some '\\'
  | '\x22' => some '\x22'
  | '\x27' => some '\x27'
  | _ => none

def readFrom : Option Nat → List Char → Unquoted
  | _, [] => none
  | some n, c :: rest =>
    if c = '\x7d' then (scalar? n).bind fun x => (readFrom none rest).ahead x
    else (hexValue? c).bind fun d => readFrom (some (n * 16 + d)) rest
  | none, '\x22' :: rest => some ([], rest)
  | none, '\\' :: 'u' :: '\x7b' :: rest => readFrom (some 0) rest
  | none, '\\' :: c :: rest => (meaning? c).bind fun x => (readFrom none rest).ahead x
  | none, c :: rest => if c = '\\' then none else (readFrom none rest).ahead c

def read? : List Char → Unquoted
  | '\x22' :: rest => readFrom none rest
  | _ => none

theorem readFrom_digit {n d : Nat} (hd : d < 16) (rest : List Char) :
    readFrom (some n) (Nat.digitChar d :: rest) = readFrom (some (n * 16 + d)) rest := by
  have hbrace : Nat.digitChar d ≠ '\x7d' := by
    revert d
    decide
  have hvalue : hexValue? (Nat.digitChar d) = some d := by
    revert d
    decide
  rw [readFrom, if_neg hbrace, hvalue]
  rfl

theorem readFrom_hex (n : Nat) (rest : List Char) :
    readFrom (some 0) (hex n ++ rest) = readFrom (some n) rest := by
  induction n using Nat.strongRecOn generalizing rest with
  | ind n ih =>
    rcases Nat.lt_or_ge n 16 with hlt | hge
    · rw [hex, Nat.toDigits_of_lt_base hlt, List.singleton_append, readFrom_digit hlt,
        Nat.zero_mul, Nat.zero_add]
    · have hless : n / 16 < n := by omega
      rw [hex, Nat.toDigits_of_base_le (by decide) hge, List.append_assoc, List.singleton_append]
      refine (ih (n / 16) hless _).trans ?_
      rw [readFrom_digit (Nat.mod_lt n (by decide)), Nat.div_add_mod']

theorem readFrom_byNumber (c : Char) (rest : List Char) :
    readFrom none (byNumber c ++ rest) = (readFrom none rest).ahead c := by
  have happend : byNumber c ++ rest = '\\' :: 'u' :: '\x7b' :: (hex c.toNat ++ '\x7d' :: rest) := by
    simp [byNumber]
  rw [happend, readFrom, readFrom_hex, readFrom, if_pos rfl, scalar?_toNat]
  rfl

theorem readFrom_escape (c : Char) (rest : List Char) :
    readFrom none (escape c ++ rest) = (readFrom none rest).ahead c := by
  unfold escape
  split_ifs with hnull htab hreturn hline hbackslash hquote hhidden
  · subst hnull; rfl
  · subst htab; rfl
  · subst hreturn; rfl
  · subst hline; rfl
  · subst hbackslash; rfl
  · subst hquote; rfl
  · exact readFrom_byNumber c rest
  · rw [List.singleton_append, readFrom]
    · exact if_neg hbackslash
    · exact hquote
    · exact fun _ h => absurd h hbackslash
    · exact fun _ _ h => absurd h hbackslash

theorem encode_append (text : String) (rest : List Char) :
    (encode text).toList ++ rest = '\x22' :: (text.toList.flatMap escape ++ '\x22' :: rest) := by
  simp [encode]

@[simp] theorem read?_encode (text : String) (rest : List Char) :
    read? ((encode text).toList ++ rest) = some (text.toList, rest) := by
  rw [encode_append]
  exact read_flatMap (fun _ => rfl) readFrom_escape text.toList rest

end Quoted

namespace Json

def meaning? : Char → Option Char
  | '\x22' => some '\x22'
  | '\\' => some '\\'
  | '/' => some '/'
  | 'b' => some '\x08'
  | 'f' => some '\x0c'
  | 'n' => some '\n'
  | 'r' => some '\r'
  | 't' => some '\t'
  | _ => none

/-- The character whose number has four digits. Characters with more digits are never written by a
number. -/
def numbered? (a b c d : Char) : Option Char := do
  let a ← hexValue? a
  let b ← hexValue? b
  let c ← hexValue? c
  let d ← hexValue? d
  scalar? (((a * 16 + b) * 16 + c) * 16 + d)

def readText : List Char → Unquoted
  | [] => none
  | '\x22' :: rest => some ([], rest)
  | '\\' :: 'u' :: a :: b :: c :: d :: rest =>
    (numbered? a b c d).bind fun x => (readText rest).ahead x
  | '\\' :: c :: rest => (meaning? c).bind fun x => (readText rest).ahead x
  | c :: rest => if c = '\\' ∨ c.toNat < 0x20 then none else (readText rest).ahead c

theorem hexValue?_hexDigit {n : Nat} (h : n < 16) : hexValue? (hexDigit n) = some n := by
  revert n
  decide

theorem numbered?_control {c : Char} (h : c.toNat < 0x20) :
    numbered? '0' '0' (hexDigit (c.toNat / 16)) (hexDigit (c.toNat % 16)) = some c := by
  have hzero : hexValue? '0' = some 0 := by decide
  have hnumber : ((0 * 16 + 0) * 16 + c.toNat / 16) * 16 + c.toNat % 16 = c.toNat := by omega
  have hhi := hexValue?_hexDigit (n := c.toNat / 16) (by omega)
  have hlo := hexValue?_hexDigit (n := c.toNat % 16) (by omega)
  simp only [numbered?, hzero, hhi, hlo, Option.bind_eq_bind, Option.bind_some, hnumber,
    scalar?_toNat]

theorem readText_escape (c : Char) (rest : List Char) :
    readText (escape c ++ rest) = (readText rest).ahead c := by
  unfold escape
  split_ifs with hquote hbackslash hback hfeed hline hreturn htab hcontrol
  · subst hquote; rfl
  · subst hbackslash; rfl
  · subst hback; rfl
  · subst hfeed; rfl
  · subst hline; rfl
  · subst hreturn; rfl
  · subst htab; rfl
  · show (numbered? _ _ _ _).bind _ = _
    rw [numbered?_control hcontrol]
    rfl
  · rw [List.singleton_append, readText]
    · exact if_neg (not_or.mpr ⟨hbackslash, hcontrol⟩)
    · exact hquote
    · exact fun _ _ _ _ _ h => absurd h hbackslash
    · exact fun _ _ h => absurd h hbackslash

theorem quote_append (text : String) (rest : List Char) :
    quote text ++ rest = '\x22' :: (text.toList.flatMap escape ++ '\x22' :: rest) := by
  simp [quote]

@[simp] theorem readText_quote (text : String) (rest : List Char) :
    readText (text.toList.flatMap escape ++ '\x22' :: rest) = some (text.toList, rest) :=
  read_flatMap (fun _ => rfl) readText_escape text.toList rest

end Json

end Keypad.Text
