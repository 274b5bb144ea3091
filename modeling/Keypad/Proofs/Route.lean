import Keypad.Automaton.Priority
import Keypad.Proofs.Alike
/-!
The routes of a thread through a program and a text, and which of them is preferred. A route starts
anywhere in the text, ends at the end of the program and comes to no place twice. Of two routes the
one is preferred that takes an earlier way where they part, and a start counts as an earlier way
than the starts behind it.
-/
namespace Keypad.Automaton

open Keypad.Pattern

abbrev holdsAt (before after : List UInt8) : Look → Bool := holdsBetween before.reverse after

structure Place where
  pc : Nat
  before : List UInt8
  after : List UInt8
  deriving DecidableEq, Repr

namespace Program

def readOn (p : Program) (x : Place) : List Place :=
  match x.after with
  | [] => []
  | b :: rest => ((p.read? b x.pc).map (⟨·, x.before ++ [b], rest⟩)).toList

def ways (p : Program) (x : Place) : List Place :=
  (p.branches (holdsAt x.before x.after) x.pc).map (⟨·, x.before, x.after⟩) ++ p.readOn x

def openings (before : List UInt8) : List UInt8 → List Place
  | [] => [⟨0, before, []⟩]
  | b :: rest => ⟨0, before, b :: rest⟩ :: openings (before ++ [b]) rest

/-- The places that a thread comes to from one of the options up to the end of the program. It comes
to no place twice, and to none of the past. -/
inductive Route (p : Program) : Set Place → List Place → List Place → Prop
  | last {past options x} (hx : x ∈ options) (hnew : x ∉ past) (h : p.isAccept x.pc = true) :
    Route p past options [x]
  | step {past options x route} (hx : x ∈ options) (hnew : x ∉ past)
    (h : Route p (insert x past) (p.ways x) route) : Route p past options (x :: route)

/-- Where two routes part the first one takes the earlier way. -/
inductive Precedes (p : Program) : List Place → List Place → List Place → Prop
  | here {options x y route other} (h : options.idxOf x < options.idxOf y) :
    Precedes p options (x :: route) (y :: other)
  | later {options x route other} (h : Precedes p (p.ways x) route other) :
    Precedes p options (x :: route) (x :: other)

/-- The route of a match in the text that is preferred to every other: the leftmost ones come first,
and of these the one that the pattern asks for first. -/
def LeftmostFirst (p : Program) (text : List UInt8) (route : List Place) : Prop :=
  p.Route ∅ (openings [] text) route ∧
    ∀ other, p.Route ∅ (openings [] text) other →
      other = route ∨ p.Precedes (openings [] text) route other

/-- A group takes part in a match when its route leaves the group. -/
def TakesPart (p : Program) (group : Nat) (route : List Place) : Prop :=
  ∃ x ∈ route, ∃ next, p.at? x.pc = some (.mark group next)

def leaves (p : Program) (pc : Nat) : Trail := p.noted List.cons pc []

def notes (p : Program) : List Place → Trail
  | [] => []
  | x :: route => p.notes route ++ p.leaves x.pc

variable {p : Program} {past : Set Place} {options route : List Place} {x y : Place}

theorem noted_eq (pc : Nat) (trail : Trail) :
    p.noted List.cons pc trail = p.leaves pc ++ trail := by
  unfold leaves noted
  cases p.at? pc with
  | none => rfl
  | some i => cases i <;> rfl

@[simp] theorem mem_leaves {i pc : Nat} :
    i ∈ p.leaves pc ↔ ∃ next, p.at? pc = some (.mark i next) := by
  unfold leaves noted
  cases p.at? pc with
  | none => simp
  | some instr => cases instr <;> simp [Instr.noted, eq_comm]

@[simp] theorem mem_notes {i : Nat} : i ∈ p.notes route ↔ p.TakesPart i route := by
  induction route with
  | nil => simp [notes, TakesPart]
  | cons x route ih =>
    rw [notes, List.mem_append, ih, mem_leaves]
    simp [TakesPart, or_comm]

section Ways

theorem read?_of_isAccept {b : UInt8} {pc : Nat} (h : p.isAccept pc = true) :
    p.read? b pc = none := by
  unfold isAccept at h
  unfold read?
  split at h
  · next hat => rw [hat]
  · cases h

theorem ways_of_isAccept (h : p.isAccept x.pc = true) : p.ways x = [] := by
  rw [ways, branches_of_waits (ready_of_isAccept h _), readOn]
  split
  · rfl
  · rw [read?_of_isAccept h]
    rfl

theorem ways_of_waits (h : p.waits (holdsAt x.before x.after) x.pc = true) :
    p.ways x = p.readOn x := by
  rw [ways, branches_of_waits h]
  rfl

theorem readOn_cons {pc : Nat} {before rest : List UInt8} {b : UInt8} :
    p.readOn ⟨pc, before, b :: rest⟩ = ((p.read? b pc).map (⟨·, before ++ [b], rest⟩)).toList := rfl

theorem readOn_of_not_waits (h : p.waits (holdsAt x.before x.after) x.pc = false) :
    p.readOn x = [] := by
  rw [readOn]
  split
  · rfl
  · next b rest _ =>
    cases hr : p.read? b x.pc with
    | none => rfl
    | some next => cases (ready_of_read? hr _).symm.trans h

theorem ways_of_not_waits (h : p.waits (holdsAt x.before x.after) x.pc = false) :
    p.ways x = (p.branches (holdsAt x.before x.after) x.pc).map (⟨·, x.before, x.after⟩) := by
  rw [ways, readOn_of_not_waits h, List.append_nil]

theorem ways_of_size_le (h : p.size ≤ x.pc) : p.ways x = [] := by
  rw [ways_of_not_waits (by simp [waits, at?_eq_none h]), branches_of_le h]
  rfl

theorem eq_of_mem_readOn (h : y ∈ p.readOn x) :
    ∃ b rest next, x.after = b :: rest ∧ p.read? b x.pc = some next ∧
      y = ⟨next, x.before ++ [b], rest⟩ := by
  rw [readOn] at h
  split at h
  · cases h
  · next b rest hafter =>
    obtain ⟨next, hr, rfl⟩ := Option.map_eq_some_iff.mp (Option.mem_toList.mp h)
    exact ⟨b, rest, next, hafter, hr, rfl⟩

theorem mem_ways (h : y ∈ p.ways x) :
    y.before ++ y.after = x.before ++ x.after ∧ x.before.length ≤ y.before.length := by
  rcases List.mem_append.mp h with h | h
  · obtain ⟨_, -, rfl⟩ := List.mem_map.mp h
    exact ⟨rfl, Nat.le_refl _⟩
  · obtain ⟨b, rest, next, hafter, -, rfl⟩ := eq_of_mem_readOn h
    exact ⟨by simp [hafter], by simp⟩

end Ways

section Routes

variable {other : List Place}

theorem route_cons_iff {rest : List Place} :
    p.Route past (x :: rest) route ↔ p.Route past [x] route ∨ p.Route past rest route := by
  constructor
  · intro h
    cases h with
    | last hx hnew ha =>
      rcases List.mem_cons.mp hx with rfl | hx
      · exact .inl (.last List.mem_cons_self hnew ha)
      · exact .inr (.last hx hnew ha)
    | step hx hnew h =>
      rcases List.mem_cons.mp hx with rfl | hx
      · exact .inl (.step List.mem_cons_self hnew h)
      · exact .inr (.step hx hnew h)
  · rintro (h | h)
    · cases h with
      | last hx hnew ha => exact .last (List.mem_cons.mpr (.inl (List.mem_singleton.mp hx))) hnew ha
      | step hx hnew h => exact .step (List.mem_cons.mpr (.inl (List.mem_singleton.mp hx))) hnew h
    · cases h with
      | last hx hnew ha => exact .last (List.mem_cons_of_mem _ hx) hnew ha
      | step hx hnew h => exact .step (List.mem_cons_of_mem _ hx) hnew h

theorem Route.anti {past' : Set Place} (h : p.Route past options route) (hle : past' ⊆ past) :
    p.Route past' options route := by
  induction h generalizing past' with
  | last hx hnew ha => exact .last hx (fun h => hnew (hle h)) ha
  | step hx hnew _ ih => exact .step hx (fun h => hnew (hle h)) (ih (Set.insert_subset_insert hle))

theorem Route.head_mem (h : p.Route past options (x :: route)) : x ∈ options ∧ x ∉ past := by
  cases h with
  | last hx hnew => exact ⟨hx, hnew⟩
  | step hx hnew => exact ⟨hx, hnew⟩

theorem not_route_nil_options : ¬ p.Route past [] route := by
  intro h
  cases h with
  | last hx => cases hx
  | step hx => cases hx

theorem Precedes.cons (h : p.Precedes options route other)
    (hroute : ∀ y rest, route = y :: rest → y ≠ x) (hother : ∀ y rest, other = y :: rest → y ≠ x) :
    p.Precedes (x :: options) route other := by
  cases h with
  | @here _ y z rest rest' h =>
    refine .here ?_
    rw [List.idxOf_cons_ne _ (hroute y rest rfl).symm,
      List.idxOf_cons_ne _ (hother z rest' rfl).symm]
    exact Nat.succ_lt_succ h
  | later h => exact .later h

theorem Precedes.asymm (h : p.Precedes options route other) : ¬ p.Precedes options other route := by
  induction h with
  | here h =>
    intro h'
    cases h' with
    | here h' => exact absurd h (Nat.lt_asymm h')
    | later => exact absurd h (Nat.lt_irrefl _)
  | later _ ih =>
    intro h'
    cases h' with
    | here h' => exact absurd h' (Nat.lt_irrefl _)
    | later h' => exact ih h'

end Routes

end Program

end Keypad.Automaton
