/-!
How alike two words are, from 0 to 1. Letters correspond when they are equal and not too far apart;
the measure is the mean of the share of letters that correspond in each word and the share of those
that keep their order.
-/
namespace Keypad.Text.Similarity

def reach (s t : List Char) : Nat := max s.length t.length / 2 - 1

def place? (c : Char) (lo hi : Nat) (taken : List Nat) : Nat → List Char → Option Nat
  | _, [] => none
  | n, d :: rest =>
    if lo ≤ n ∧ n ≤ hi ∧ c = d ∧ n ∉ taken then some n else place? c lo hi taken (n + 1) rest

def pairs (r : Nat) (t : List Char) (taken : List Nat) : Nat → List Char → List (Nat × Nat)
  | _, [] => []
  | n, c :: rest =>
    match place? c (n - r) (n + r) taken 0 t with
    | some m => (n, m) :: pairs r t (m :: taken) (n + 1) rest
    | none => pairs r t taken (n + 1) rest

def pick (places : List Nat) : Nat → List Char → List Char
  | _, [] => []
  | n, c :: rest => if n ∈ places then c :: pick places (n + 1) rest else pick places (n + 1) rest

def differences (s t : List Char) : Nat := ((s.zip t).filter fun p => p.1 ≠ p.2).length

def measure (s t : List Char) : Rat :=
  let common := pairs (reach s t) t [] 0 s
  let m := common.length
  if m = 0 then if s.isEmpty && t.isEmpty then 1 else 0
  else
    let swaps := differences (pick (common.map (·.1)) 0 s) (pick (common.map (·.2)) 0 t) / 2
    ((m : Rat) / s.length + (m : Rat) / t.length + ((m - swaps : Nat) : Rat) / m) / 3

def threshold : Rat := 7 / 10

/-- The candidates that are like a word, the likest last. -/
def alike (word : String) (candidates : List String) : List String :=
  let scored := candidates.map fun c => (measure word.toList c.toList, c)
  ((scored.filter (threshold ≤ ·.1)).mergeSort (·.1 ≤ ·.1)).map (·.2)

def likest? (word : String) (candidates : List String) : Option String :=
  (alike word candidates).getLast?

end Keypad.Text.Similarity
