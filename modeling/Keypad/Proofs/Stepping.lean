import Keypad.Proofs.Backtracking
import Keypad.Proofs.Leftmost
import Keypad.Proofs.Precedence
/-!
The code of a form tries the ways of the form in its order of preference. Each way of putting code
together does what the attempts at its pieces do when they are put together in the same way. A loop
gets back to its choice only with a round that takes something, so what it does is settled by
induction on what is left to read.
-/
namespace Keypad.Automaton

open Keypad.Charset Keypad.Pattern

namespace Program

variable {p : Program} {before after rest : List UInt8} {pc mid next : Nat} {r r' : Option Trail}

theorem Tries.mono {n m : Nat} (h : p.Tries n pc before after r) (hle : n ≤ m) :
    p.Tries m pc before after r := by
  induction h generalizing m with
  | accept ha => exact .accept ha
  | read hr t => exact .read hr t
  | refuse hw ha h => exact .refuse hw ha h
  | move hw _ ih =>
    obtain ⟨k, rfl⟩ : ∃ k, m = k + 1 := ⟨m - 1, by omega⟩
    exact .move hw fun w hmem => ih w hmem (Nat.le_of_succ_le_succ hle)

section Instructions

theorem leaves_eq {i : Instr} (hat : p.at? pc = some i) : p.leaves pc = i.noted List.cons [] := by
  rw [leaves, noted, hat]

theorem waits_eq {i : Instr} {passes : Look → Bool} (hat : p.at? pc = some i) :
    p.waits passes pc = i.waits passes := by
  rw [waits, hat]

theorem Tried.of_branches {i : Instr} (hat : p.at? pc = some i)
    (hw : i.waits (holdsAt before after) = false)
    (h : ∀ w ∈ i.branches (holdsAt before after), ∃ r, p.Tried w before after r) :
    p.Tried pc before after
      (((i.branches (holdsAt before after)).findSome? (p.outcome before after)).map
        (· ++ i.noted List.cons [])) := by
  have hbound : ∀ ws : List Nat, (∀ w ∈ ws, ∃ r, p.Tried w before after r) →
      ∃ n, ∀ w ∈ ws, p.Tries n w before after (p.outcome before after w) := by
    intro ws hws
    induction ws with
    | nil => exact ⟨0, List.forall_mem_nil _⟩
    | cons w ws ih =>
      obtain ⟨⟨r, hr⟩, hws⟩ := List.forall_mem_cons.mp hws
      obtain ⟨m, hm⟩ := hr
      obtain ⟨n, hn⟩ := ih hws
      rw [← Tried.outcome_eq ⟨m, hm⟩] at hm
      exact ⟨max m n, List.forall_mem_cons.mpr ⟨hm.mono (Nat.le_max_left m n),
        fun v hv => (hn v hv).mono (Nat.le_max_right m n)⟩⟩
  obtain ⟨n, hn⟩ := hbound _ h
  rw [← branches_eq hat] at hn ⊢
  rw [← leaves_eq hat]
  exact ⟨n + 1, .move ((waits_eq hat).trans hw) hn⟩

theorem Tried.jump (hat : p.at? pc = some (.jump next)) (h : p.Tried next before after r) :
    p.Tried pc before after r := by
  have htried := Tried.of_branches hat rfl (List.forall_mem_singleton.mpr ⟨r, h⟩)
  simpa [Instr.branches, Instr.noted, h.outcome_eq] using htried

theorem Tried.mark {i : Nat} (hat : p.at? pc = some (.mark i next))
    (h : p.Tried next before after r) :
    p.Tried pc before after (r.map (· ++ [i])) := by
  have htried := Tried.of_branches hat rfl (List.forall_mem_singleton.mpr ⟨r, h⟩)
  simpa [Instr.branches, Instr.noted, h.outcome_eq] using htried

theorem Tried.fork {a b : Nat} (hat : p.at? pc = some (.fork a b)) (ha : p.Tried a before after r)
    (hb : p.Tried b before after r') : p.Tried pc before after (r.or r') := by
  have htried := Tried.of_branches hat rfl
    (List.forall_mem_cons.mpr ⟨⟨r, ha⟩, List.forall_mem_singleton.mpr ⟨r', hb⟩⟩)
  have hor : [a, b].findSome? (p.outcome before after) = r.or r' := by
    rw [List.findSome?_cons, List.findSome?_singleton, ha.outcome_eq, hb.outcome_eq]
    cases r <;> rfl
  simpa [Instr.branches, Instr.noted, hor] using htried

theorem Tried.choice {greedy : Bool} {into past : Nat}
    (hat : p.at? pc = some (choice greedy into past)) (hinto : p.Tried into before after r)
    (hpast : p.Tried past before after r') :
    p.Tried pc before after (prefer greedy r r') := by
  cases greedy with
  | true => exact hinto.fork hat hpast
  | false => exact hpast.fork hat hinto

theorem Tried.look {l : Look} (hat : p.at? pc = some (.look l next))
    (h : holdsAt before after l = true → p.Tried next before after r) :
    p.Tried pc before after (if holdsAt before after l then r else none) := by
  cases hl : holdsAt before after l with
  | true =>
    have hw : (Instr.look l next).waits (holdsAt before after) = false := by simp [Instr.waits, hl]
    have hbranches : (Instr.look l next).branches (holdsAt before after) = [next] := by
      simp [Instr.branches, hl]
    have htried := Tried.of_branches hat hw (hbranches ▸ List.forall_mem_singleton.mpr ⟨r, h hl⟩)
    rw [hbranches] at htried
    simpa [Instr.noted, (h hl).outcome_eq] using htried
  | false =>
    refine ⟨0, .refuse ?_ ?_ fun b rest _ => read?_eq_none hat (by simp)⟩
    · rw [waits_eq hat, Instr.waits, hl]
      rfl
    · simp [isAccept, hat]

theorem Tried.stop (hat : p.at? pc = some .stop) : p.Tried pc before after none := by
  have htried : p.Tried pc before after _ := Tried.of_branches hat rfl (List.forall_mem_nil _)
  simpa [Instr.branches] using htried

end Instructions

/-- From `pc` on the program does what an attempt does and goes on at `next`, if all ways on from
there can be tried behind every word of the relation. -/
def Does (p : Program) (pc next : Nat) (A : Attempt Trail) (R : Between) : Prop :=
  ∀ ⦃before after : List UInt8⦄ ⦃onward : Onward Trail⦄,
    (∀ u v, after = u ++ v → R before u v → p.Tried next (before ++ u) v (onward (before ++ u) v)) →
      p.Tried pc before after (A before after onward)

namespace Does

variable {A B : Attempt Trail} {R S : Between} {greedy : Bool}

theorem congr (h : p.Does pc next A R)
    (hRS : ∀ before word after, R before word after → S before word after) :
    p.Does pc next A S := fun _ _ _ hnext => h fun u v huv hu => hnext u v huv (hRS _ _ _ hu)

theorem jump (hat : p.at? pc = some (.jump next)) : p.Does pc next .stay Between.nothing := by
  intro before after onward hnext
  have hstay := hnext [] after rfl rfl
  rw [List.append_nil] at hstay
  exact hstay.jump hat

theorem look {l : Look} (hat : p.at? pc = some (.look l next)) (hl : l.isUnicode = false) :
    p.Does pc next (.check l) (Form.look l).Matches := by
  intro before after onward hnext
  have hholds : holdsAt before after l =
      l.holds (Edge.ofByte? before.getLast?) (Edge.ofByte? after.head?) :=
    holdsBetween_eq hl before after
  rw [Attempt.check, ← hholds]
  refine Tried.look hat fun h => ?_
  have hstay := hnext [] after rfl ⟨rfl, hholds.symm.trans h⟩
  rwa [List.append_nil] at hstay

theorem byte {s : Intervals} (hat : p.at? pc = some (.byte s next)) :
    p.Does pc next (.byteOf s) (spells .byte s) := by
  intro before after onward hnext
  have hwaits : p.waits (holdsAt before after) pc = true := waits_eq hat
  have haccept : p.isAccept pc = false := by simp [isAccept, hat]
  cases after with
  | nil => exact ⟨0, .refuse hwaits haccept (by simp)⟩
  | cons b rest =>
    rw [Attempt.byteOf]
    split
    · next hb =>
      obtain ⟨n, hn⟩ := hnext [b] rest rfl ⟨b, hb, rfl⟩
      exact ⟨0, .read (by rw [read?_eq hat, if_pos hb]) hn⟩
    · next hb =>
      refine ⟨0, .refuse hwaits haccept fun c more heq => ?_⟩
      obtain ⟨rfl, rfl⟩ := List.cons.inj heq
      rw [read?_eq hat, if_neg hb]

theorem stop (hat : p.at? pc = some .stop) : p.Does pc next .never fun _ _ _ => False :=
  fun _ _ _ _ => Tried.stop hat

theorem mark {i : Nat} (hat : p.at? pc = some (.mark i next)) :
    p.Does pc next (.noting (· ++ [i]) .stay) Between.nothing := by
  intro before after onward hnext
  have hstay := hnext [] after rfl rfl
  rw [List.append_nil] at hstay
  exact hstay.mark hat

theorem seq (hA : p.Does pc mid A R) (hB : p.Does mid next B S) :
    p.Does pc next (A.seq B) (R.append S) := by
  intro before after onward hnext
  refine hA fun u v huv hu => hB fun w x hwx hw => ?_
  subst hwx
  have hboth := hnext (u ++ w) x (by simp [huv]) ⟨u, w, rfl, hu, hw⟩
  rwa [← List.append_assoc] at hboth

theorem fork {a b : Nat} (hat : p.at? pc = some (.fork a b)) (hA : p.Does a next A R)
    (hB : p.Does b next B S) :
    p.Does pc next (A.either B) (R.either S) := by
  intro before after onward hnext
  refine Tried.fork hat (hA fun u v huv hu => hnext u v huv (Or.inl hu))
    (hB fun u v huv hu => hnext u v huv (Or.inr hu))

theorem stay : p.Does pc pc .stay Between.nothing := by
  intro before after onward hnext
  have hstay := hnext [] after rfl rfl
  rwa [List.append_nil] at hstay

theorem optional {into : Nat} (hat : p.at? pc = some (choice greedy into next))
    (hA : p.Does into next A R) :
    p.Does pc next (fun before after onward =>
      prefer greedy (A before after onward) (onward before after))
      (Between.nothing.either R) := by
  intro before after onward hnext
  refine Tried.choice hat (hA fun u v huv hu => hnext u v huv (Or.inr hu)) ?_
  have hstay := hnext [] after rfl (Or.inl rfl)
  rwa [List.append_nil] at hstay

theorem many_eq (hA : A.Follows R) (hgain : ∀ before after, ¬ R before [] after) : A.many greedy =
    fun before after onward =>
      prefer greedy (A.seq (.many greedy A) before after onward) (onward before after) := by
  funext before after onward
  rw [Attempt.many]
  congr 1
  refine hA.congr fun u v huv hu => if_pos ?_
  cases u with
  | nil => exact absurd hu (hgain _ _)
  | cons b u => simp [huv]

theorem loop {into : Nat} (hat : p.at? mid = some (choice greedy into next))
    (hbody : p.Does into mid A R) (hA : A.Follows R) (hgain : ∀ before after, ¬ R before [] after) :
    p.Does mid next (.many greedy A) (R.times 0 none) := by
  intro before after onward hnext
  generalize hn : after.length = n
  induction n using Nat.strong_induction_on generalizing before after with
  | _ n ih =>
    rw [many_eq hA hgain]
    refine Tried.choice hat (hbody fun u v huv hu => ?_) ?_
    · have hlt : v.length < after.length := by
        cases u with
        | nil => exact absurd hu (hgain _ _)
        | cons b u => simp [huv]
      refine ih _ (hn ▸ hlt) (fun w x hwx hw => ?_) rfl
      subst hwx
      have hmore := hnext (u ++ w) x (by simp [huv])
        ((Between.times_zero none).mpr (Or.inr ⟨u, w, rfl, hu, hw⟩))
      rwa [← List.append_assoc] at hmore
    · have hstay := hnext [] after rfl ((Between.times_zero none).mpr (Or.inl rfl))
      rwa [List.append_nil] at hstay

end Does

/-- Code of a body, wherever it stands and wherever it leads, does what an attempt does. -/
structure Enacts (p : Program) (size : Nat) (body : Nat → Nat → Code) (A : Attempt Trail)
    (R : Between) : Prop where
  length : ∀ pc next, (body pc next).length = size
  does : ∀ {pc next}, p.Holds pc (body pc next) → p.Does pc next A R
  follows : A.Follows R

namespace Enacts

variable {A : Attempt Trail} {R : Between} {greedy : Bool} {size : Nat} {body : Nat → Nat → Code}

theorem copies (h : p.Enacts size body A R) (n : Nat) (hp : p.Holds pc (copies size body n pc)) :
    p.Does pc (pc + n * size) (A.exactly n) (R.power n) := by
  induction n generalizing pc with
  | zero =>
    rw [Nat.zero_mul]
    exact .stay
  | succ n ih =>
    have hrest := hp.right
    rw [h.length] at hrest
    have hboth := (h.does hp.left).seq (ih hrest)
    rwa [Nat.add_assoc, Nat.add_comm size, ← Nat.succ_mul] at hboth

theorem options (h : p.Enacts size body A R) (n : Nat)
    (hp : p.Holds pc (options greedy size body next (n + 1) pc)) :
    p.Does pc next (A.upTo greedy (n + 1)) (R.times 0 (some (n + 1))) := by
  induction n generalizing pc with
  | zero =>
    simp only [Automaton.options, if_true, List.append_nil] at hp
    exact (Does.optional hp.head (h.does hp.tail)).congr fun before word after =>
      Between.times_one.mpr
  | succ n ih =>
    rw [Automaton.options] at hp
    simp only [Nat.succ_ne_zero, if_false] at hp
    have hrest := hp.tail.right
    rw [h.length] at hrest
    exact (Does.optional hp.head ((h.does hp.tail.left).seq (ih hrest))).congr
      fun before word after =>
      (Between.times_zero (some (n + 1))).mpr

variable (hgain : ∀ before after, ¬ R before [] after)
include hgain

theorem plus (h : p.Enacts size body A R) (hp : p.Holds pc (plus greedy size body pc next)) :
    p.Does pc next (A.seq (.many greedy A)) (R.append (R.times 0 none)) := by
  have hchoice := hp.right.head
  rw [h.length] at hchoice
  exact (h.does hp.left).seq (.loop hchoice (h.does hp.left) h.follows hgain)

theorem star {consumes : Bool} (h : p.Enacts size body A R)
    (hp : p.Holds pc (star greedy consumes size body pc next)) :
    p.Does pc next (.many greedy A) (R.times 0 none) := by
  cases consumes with
  | true =>
    simp only [Automaton.star, if_true] at hp
    exact .loop hp.head (h.does hp.tail) h.follows hgain
  | false =>
    simp only [Automaton.star, Bool.false_eq_true, if_false] at hp
    rw [Does.many_eq h.follows hgain]
    exact (Does.optional hp.head (h.plus hgain hp.tail)).congr fun before word after =>
      (Between.times_zero none).mpr

end Enacts

theorem exactly_succ_last (A : Attempt Trail) (n : Nat) :
    A.exactly (n + 1) = (A.exactly n).seq A := by
  induction n with
  | zero => rfl
  | succ n ih => exact congrArg A.seq ih

namespace Enacts

variable {A : Attempt Trail} {R : Between} {greedy : Bool} {size : Nat} {body : Nat → Nat → Code}

theorem copiesThen (h : p.Enacts size body A R) (n : Nat) {c : Code}
    {B : Attempt Trail} {S : Between} (hp : p.Holds pc (Automaton.copies size body n pc ++ c))
    (hc : p.Holds (pc + n * size) c → p.Does (pc + n * size) next B S) :
    p.Does pc next ((A.exactly n).seq B) ((R.power n).append S) := by
  have hrest := hp.right
  rw [length_copies h.length] at hrest
  exact (copies h n hp.left).seq (hc hrest)

theorem iterate {min : Nat} {max : Option Nat} {consumes : Bool} (h : p.Enacts size body A R)
    (hle : ∀ m ∈ max, min ≤ m) (hgain : max = none → ∀ before after, ¬ R before [] after)
    (hp : p.Holds pc (iterateCode min max greedy consumes size body pc next)) :
    p.Does pc next (A.times min max greedy) (R.times min max) := by
  have hsplit : ∀ before word after,
      (R.power min).append (R.times 0 (max.map (· - min))) before word after →
      R.times min max before word after :=
        fun before word after => (Between.times_split min max hle).mpr
  have hlast : 0 < min → A.exactly min = (A.exactly (min - 1)).seq A := fun hpos => by
    rw [← exactly_succ_last, Nat.sub_add_cancel hpos]
  unfold iterateCode at hp
  split at hp
  · next m =>
    have hmin := hle m rfl
    split at hp
    · next hlt =>
      obtain ⟨k, hk⟩ : ∃ k, m - min = k + 1 := ⟨m - min - 1, by omega⟩
      rw [Option.map_some, hk] at hsplit
      rw [hk] at hp
      rw [Attempt.times, hk]
      exact (h.copiesThen min hp fun hp => h.options k hp).congr hsplit
    · next hlt =>
      obtain rfl : m = min := by omega
      rw [Attempt.times, Nat.sub_self]
      split at hp
      · next hz =>
        subst hz
        exact (Does.jump hp.head).congr fun before word after hword => Between.times_exact.mpr hword
      · next hz =>
        rw [hlast (by omega)]
        refine (h.copiesThen (m - 1) hp fun hp => h.does hp).congr fun before word after hword => ?_
        rw [Between.times_exact, ← Nat.sub_add_cancel (Nat.pos_of_ne_zero hz),
          Between.power_succ_last]
        exact hword
  · split at hp
    · next hz =>
      subst hz
      exact h.star (hgain rfl) hp
    · next hz =>
      rw [Attempt.times, hlast (by omega)]
      refine (h.copiesThen (min - 1) hp fun hp => h.plus (hgain rfl) hp).congr
        fun before word after hword => ?_
      obtain ⟨u, v, rfl, hu, w, x, rfl, hw, hx⟩ := hword
      refine hsplit _ _ _ ⟨u ++ w, x, by simp, ?_, by simpa using hx⟩
      rw [← Nat.sub_add_cancel (Nat.pos_of_ne_zero hz), Between.power_succ_last]
      exact ⟨u, w, rfl, by simpa using hu, hw⟩

end Enacts

def Takes (p : Program) (pc next : Nat) (R : Between) : Prop :=
  ∃ A : Attempt Trail, A.Follows R ∧ A.Bare ∧ p.Does pc next A R

namespace Takes

variable {R S : Between}

theorem does (h : p.Takes pc next R) (hR : R.Fixed) {A : Attempt Trail} (hA : A.Follows R)
    (hbare : A.Bare) :
    p.Does pc next A R := by
  obtain ⟨B, hB, hbareB, hdoes⟩ := h
  rwa [hA.eq_of_fixed hB hR hbare hbareB]

theorem of_eq (h : p.Takes pc next R) (hRS : R = S) : p.Takes pc next S := hRS ▸ h

theorem byte {s : Intervals} (hat : p.at? pc = some (.byte s next)) :
    p.Takes pc next (spells .byte s) :=
  ⟨.byteOf s, .byteOf s, fun _ => .byteOf s, .byte hat⟩

theorem jump (hat : p.at? pc = some (.jump next)) : p.Takes pc next Between.nothing :=
  ⟨.stay, .stay, fun _ => .stay, .jump hat⟩

theorem stop (hat : p.at? pc = some .stop) : p.Takes pc next fun _ _ _ => False :=
  ⟨.never, .never, fun _ => .never, .stop hat⟩

theorem seq (hR : p.Takes pc mid R) (hS : p.Takes mid next S) : p.Takes pc next (R.append S) := by
  obtain ⟨A, hA, hbareA, hdoesA⟩ := hR
  obtain ⟨B, hB, hbareB, hdoesB⟩ := hS
  exact ⟨A.seq B, hA.seq hB, fun t => (hbareA t).seq (hbareB t), hdoesA.seq hdoesB⟩

theorem fork {a b : Nat} (hat : p.at? pc = some (.fork a b)) (hR : p.Takes a next R)
    (hS : p.Takes b next S) :
    p.Takes pc next (R.either S) := by
  obtain ⟨A, hA, hbareA, hdoesA⟩ := hR
  obtain ⟨B, hB, hbareB, hdoesB⟩ := hS
  exact ⟨A.either B, hA.either hB, fun t => (hbareA t).either (hbareB t), .fork hat hdoesA hdoesB⟩

theorem single {b : UInt8} (hat : p.at? pc = some (.byte [Interval.single b.toNat] next)) :
    p.Takes pc next (Form.literal [b]).Matches :=
  (byte hat).of_eq (Between.ext fun _ word _ => reads_single b word)

theorem literal {bs : List UInt8} (hbs : bs ≠ []) (hp : p.Holds pc (literalCode next pc bs)) :
    p.Takes pc next (Form.literal bs).Matches := by
  fun_induction literalCode next pc bs with
  | case1 => exact absurd rfl hbs
  | case2 pc b => exact single hp.head
  | case3 pc b rest hrest ih =>
    have hne : rest ≠ [] := by simpa using hrest
    exact ((single hp.head).seq (ih hne hp.tail)).of_eq (Form.literal_append [b] rest).symm

theorem trie {t : Trie} (hp : p.Holds pc (t.code pc next)) :
    p.Takes pc next fun _ word _ => t.Spells word := by
  induction t generalizing pc with
  | none => exact stop hp.head
  | done => exact jump hp.head
  | branch set tail rest ihTail ihRest =>
    have hhere : ∀ {c : Nat}, p.Holds c
        (if tail = .done then [.byte set next] else .byte set (c + 1) :: tail.code (c + 1) next) →
        p.Takes c next ((spells .byte set).append fun _ word _ => tail.Spells word) := by
      intro c hp
      split at hp
      · next ht =>
        rw [ht]
        exact (byte hp.head).of_eq Between.append_nothing.symm
      · exact (byte hp.head).seq (ihTail hp.tail)
    have hsplit : ((spells .byte set).append fun _ word _ => tail.Spells word).either
        (fun _ word _ => rest.Spells word) =
        fun _ word _ => (Trie.branch set tail rest).Spells word := by
      refine Between.ext fun before word after => or_congr_left ⟨?_, ?_⟩
      · rintro ⟨_, v, rfl, ⟨b, hb, rfl⟩, hv⟩
        exact ⟨b, v, hb, rfl, hv⟩
      · rintro ⟨b, v, hb, rfl, hv⟩
        exact ⟨[b], v, rfl, ⟨b, hb, rfl⟩, hv⟩
    rw [← hsplit]
    simp only [Trie.code] at hp
    split at hp
    · next hr =>
      refine (hhere hp).of_eq (Between.ext fun before word after => ?_)
      rw [hr]
      exact (or_iff_left id).symm
    · have hsecond := hp.tail.right
      rw [Trie.length_branch] at hsecond
      exact fork hp.head (hhere hp.tail.left) (ihRest hsecond)

end Takes

def leaving (i : Nat) (_ : Option String) (trail : Trail) : Trail := trail ++ [i]

/-- The code of a form tries the ways of the form in their order, wherever it stands. -/
theorem Does.form {f : Form} (hf : f.Regular) (hg : f.Gaining)
    (hascii : ∀ l ∈ f.looks, l.isUnicode = false) (hp : p.Holds pc (code f pc next)) :
    p.Does pc next (f.attempt leaving) f.Matches := by
  induction f generalizing pc next with
  | empty => exact .jump hp.head
  | look l => exact .look hp.head (hascii l (List.mem_singleton_self l))
  | literal bs => exact (Takes.literal hf hp).does (fixed_literal bs) (.word bs) fun _ => .word bs
  | bytes s => exact .byte hp.head
  | chars s =>
    have hword : (fun _ word _ => (Trie.ofScalars s).Spells word : Between) = spells .scalar s :=
      Between.ext fun before word after => Trie.spells_ofScalars
    exact ((Takes.trie hp).of_eq hword).does (fixed_spells .scalar s) (.charOf s) fun _ => .charOf s
  | iterate min max greedy sub ih =>
    have hsub : sub.Gaining := fun g hmem => hg g (by cases max <;> simp [Form.loops, hmem])
    have henacts : p.Enacts (codeSize sub) (code sub) (sub.attempt leaving) sub.Matches :=
      ⟨length_code sub, fun hp => ih hf.2 hsub hascii hp, Form.attempt_follows hf.2⟩
    exact henacts.iterate hf.1 (fun hmax => hg sub (by simp [hmax, Form.loops])) hp
  | group i name sub ih =>
    have hmark := hp.right.head
    rw [length_code] at hmark
    have hboth := (ih hf hg hascii hp.left).seq (.mark hmark)
    rwa [Between.append_nothing] at hboth
  | seq a b iha ihb =>
    have hb := hp.right
    rw [length_code] at hb
    obtain ⟨hlooka, hlookb⟩ := List.forall_mem_append.mp hascii
    obtain ⟨hga, hgb⟩ := List.forall_mem_append.mp hg
    exact (iha hf.1 hga hlooka hp.left).seq (ihb hf.2 hgb hlookb hb)
  | alt a b iha ihb =>
    have hb := hp.tail.right
    rw [length_code] at hb
    obtain ⟨hlooka, hlookb⟩ := List.forall_mem_append.mp hascii
    obtain ⟨hga, hgb⟩ := List.forall_mem_append.mp hg
    exact .fork hp.head (iha hf.1 hga hlooka hp.tail.left) (ihb hf.2 hgb hlookb hb)

theorem tried_ofForm {f : Form} (hf : f.Regular) (hg : f.Gaining)
    (hascii : ∀ l ∈ f.looks, l.isUnicode = false) (before after : List UInt8) :
    (ofForm f).Tried 0 before after (f.attempt leaving before after fun _ _ => some []) := by
  refine Does.form hf hg hascii (holds_ofForm f).left fun u v _ _ => ⟨0, .accept ?_⟩
  exact isAccept_ofForm.mpr rfl

theorem preferredMatch_ofForm {f : Form} (hf : f.Regular) (hg : f.Gaining)
    (hascii : ∀ l ∈ f.looks, l.isUnicode = false) (bytes : List UInt8) :
    (ofForm f).preferredMatch bytes =
      (openings [] bytes).findSome? fun x =>
        f.attempt leaving x.before x.after fun _ _ => some [] := by
  rw [preferredMatch_eq]
  refine findSome?_congr fun x hx => ?_
  obtain ⟨skipped, after, -, rfl⟩ := mem_openings.mp hx
  exact (tried_ofForm hf hg hascii _ _).outcome_eq

theorem preferredMatch_ofForm_first {f : Form} (hf : f.Regular) (hg : f.Gaining)
    (hascii : ∀ l ∈ f.looks, l.isUnicode = false)
    (hfirst : ∀ before word after, f.Matches before word after → before = []) (bytes : List UInt8) :
    (ofForm f).preferredMatch bytes = f.attempt leaving [] bytes fun _ _ => some [] := by
  have hnone : ∀ before after,
      before ≠ [] → (f.attempt leaving before after fun _ _ => some []) = none := by
    intro before after hne
    refine Option.not_isSome_iff_eq_none.mp fun hsome => ?_
    obtain ⟨u, v, -, hu, -⟩ := (Form.attempt_follows hf).isSome_iff.mp hsome
    exact hne (hfirst _ _ _ hu)
  rw [preferredMatch_ofForm hf hg hascii]
  cases bytes with
  | nil => simp [openings]
  | cons b rest =>
    have hlater : ∀ x ∈ openings ([] ++ [b]) rest,
        (f.attempt leaving x.before x.after fun _ _ => some []) = none := by
      intro x hx
      obtain ⟨skipped, after, -, rfl⟩ := mem_openings.mp hx
      exact hnone _ _ (by simp)
    rw [openings, List.findSome?_cons, List.findSome?_eq_none_iff.mpr hlater]
    cases f.attempt leaving [] (b :: rest) fun _ _ => some [] <;> rfl

end Program

end Keypad.Automaton
