import Mathlib.Tactic
import Keypad.Text.Utf8
/-!
The bytes of a character as digits to the base 64, of which the first one also tells how many bytes
there are.
-/
namespace Keypad.Text.Utf8

def tailBytes : Nat → Nat → List UInt8
  | 0, _ => []
  | n + 1, k => UInt8.ofNat (0x80 + k / 64 ^ n) :: tailBytes n (k % 64 ^ n)

def spelling (base n k : Nat) : List UInt8 :=
  UInt8.ofNat (base + k / 64 ^ n) :: tailBytes n (k % 64 ^ n)

theorem toNat_lt_of_char (c : Char) : c.toNat < 0x110000 := by
  have h := c.valid
  simp only [UInt32.isValidChar, Nat.isValidChar] at h
  show c.val.toNat < 0x110000
  omega

theorem exists_char_of_valid {n : Nat} (h : n.isValidChar) : ∃ c : Char, c.toNat = n :=
  ⟨Char.ofNatAux n h, rfl⟩

theorem toNat_ofNat_of_valid {n : Nat} (h : n.isValidChar) : (Char.ofNat n).toNat = n := by
  rw [Char.ofNat, dif_pos h]
  rfl

theorem encodeChar_eq (c : Char) : encodeChar c =
    if c.toNat < 0x80 then [UInt8.ofNat c.toNat]
    else if c.toNat < 0x800 then spelling 0xC0 1 c.toNat
    else if c.toNat < 0x10000 then spelling 0xE0 2 c.toNat
    else spelling 0xF0 3 c.toNat := by
  have hlt := toNat_lt_of_char c
  have hdef : encodeChar c = String.utf8EncodeChar c := rfl
  rw [hdef, String.utf8EncodeChar]
  have hv : c.val.toNat = c.toNat := rfl
  simp only [hv, spelling, tailBytes]
  generalize c.toNat = n at hlt
  split_ifs <;> first | omega | rfl | skip
  · simp only [List.cons.injEq, and_true]
    exact ⟨congrArg UInt8.ofNat (by omega), congrArg UInt8.ofNat (by omega)⟩
  · simp only [List.cons.injEq, and_true]
    exact ⟨congrArg UInt8.ofNat (by omega), congrArg UInt8.ofNat (by omega),
      congrArg UInt8.ofNat (by omega)⟩
  · simp only [List.cons.injEq, and_true]
    exact ⟨congrArg UInt8.ofNat (by omega), congrArg UInt8.ofNat (by omega),
      congrArg UInt8.ofNat (by omega), congrArg UInt8.ofNat (by omega)⟩

theorem encodeChar_ne_nil (c : Char) : encodeChar c ≠ [] := String.utf8EncodeChar_ne_nil

def tailValue (tail : List UInt8) : Nat := tail.foldl (fun n t => n * 64 + (t.toNat - 0x80)) 0

theorem foldl_tail (tail : List UInt8) (lead : Nat) :
    tail.foldl (fun n t => n * 64 + (t.toNat - 0x80)) lead =
      lead * 64 ^ tail.length + tailValue tail := by
  induction tail generalizing lead with
  | nil => simp [tailValue]
  | cons t tail ih =>
    rw [tailValue, List.foldl_cons, List.foldl_cons, ih, ih (0 * 64 + (t.toNat - 0x80)),
      List.length_cons, pow_succ]
    ring

theorem tailValue_cons (t : UInt8) (tail : List UInt8) :
    tailValue (t :: tail) = (t.toNat - 0x80) * 64 ^ tail.length + tailValue tail := by
  rw [tailValue, List.foldl_cons, foldl_tail]
  simp

theorem isTail_iff {b : UInt8} : isTail b = true ↔ 0x80 ≤ b.toNat ∧ b.toNat < 0xC0 := by
  simp only [isTail, Bool.and_eq_true, decide_eq_true_eq, UInt8.le_iff_toNat_le]
  have h : (0x80 : UInt8).toNat = 0x80 ∧ (0xBF : UInt8).toNat = 0xBF := ⟨rfl, rfl⟩
  omega

theorem tailBytes_tailValue {tail : List UInt8} (h : ∀ t ∈ tail, isTail t = true) :
    tailValue tail < 64 ^ tail.length ∧ tailBytes tail.length (tailValue tail) = tail := by
  induction tail with
  | nil => exact ⟨by simp [tailValue], rfl⟩
  | cons t tail ih =>
    obtain ⟨hlt, hbytes⟩ := ih fun t ht => h t (List.mem_cons_of_mem _ ht)
    have ht := isTail_iff.mp (h t List.mem_cons_self)
    have hpos : 0 < 64 ^ tail.length := by positivity
    have hdiv : tailValue (t :: tail) / 64 ^ tail.length = t.toNat - 0x80 := by
      rw [tailValue_cons, Nat.mul_comm, Nat.mul_add_div hpos, Nat.div_eq_of_lt hlt, Nat.add_zero]
    have hmod : tailValue (t :: tail) % 64 ^ tail.length = tailValue tail := by
      rw [tailValue_cons, Nat.mul_comm, Nat.mul_add_mod, Nat.mod_eq_of_lt hlt]
    constructor
    · rw [tailValue_cons, List.length_cons, pow_succ]
      have hle : (t.toNat - 0x80) * 64 ^ tail.length ≤ 63 * 64 ^ tail.length :=
        Nat.mul_le_mul_right _ (by omega)
      linarith
    · rw [List.length_cons, tailBytes, hdiv, hmod, hbytes,
        show 0x80 + (t.toNat - 0x80) = t.toNat by omega, UInt8.ofNat_toNat]

theorem spelling_number {b : UInt8} {tail : List UInt8} {base : Nat}
    (h : ∀ t ∈ tail, isTail t = true) (hbase : base ≤ b.toNat) :
    spelling base tail.length ((b.toNat - base) * 64 ^ tail.length + tailValue tail) =
      b :: tail := by
  obtain ⟨hlt, hbytes⟩ := tailBytes_tailValue h
  have hpos : 0 < 64 ^ tail.length := by positivity
  rw [spelling, Nat.mul_comm, Nat.mul_add_div hpos, Nat.div_eq_of_lt hlt, Nat.mul_add_mod,
    Nat.mod_eq_of_lt hlt, hbytes, Nat.add_zero, show base + (b.toNat - base) = b.toNat by omega,
    UInt8.ofNat_toNat]

theorem length?_eq_some {b : UInt8} {n : Nat} (h : length? b = some n) :
    (n = 1 ∧ b.toNat < 0x80) ∨ (n = 2 ∧ 0xC2 ≤ b.toNat ∧ b.toNat < 0xE0) ∨
      (n = 3 ∧ 0xE0 ≤ b.toNat ∧ b.toNat < 0xF0) ∨ (n = 4 ∧ 0xF0 ≤ b.toNat ∧ b.toNat < 0xF5) := by
  have hconst : (0x7F : UInt8).toNat = 0x7F ∧ (0xC2 : UInt8).toNat = 0xC2 ∧
      (0xDF : UInt8).toNat = 0xDF ∧
      (0xE0 : UInt8).toNat = 0xE0 ∧ (0xEF : UInt8).toNat = 0xEF ∧ (0xF0 : UInt8).toNat = 0xF0 ∧
      (0xF4 : UInt8).toNat = 0xF4 := ⟨rfl, rfl, rfl, rfl, rfl, rfl, rfl⟩
  simp only [length?, Bool.and_eq_true, decide_eq_true_eq, UInt8.le_iff_toNat_le] at h
  split_ifs at h
  all_goals
    obtain rfl := Option.some.inj h
    omega

theorem first?_eq_some {bytes : List UInt8} {c : Char} (h : first? bytes = some c) :
    ∃ rest, bytes = encodeChar c ++ rest := by
  cases bytes with
  | nil => cases h
  | cons b rest =>
    rw [first?] at h
    dsimp only at h
    split at h
    · cases h
    · next n hn =>
      obtain ⟨⟨hlength, hall, hleast, hvalid⟩, h⟩ := Option.ite_none_right_eq_some.mp h
      obtain rfl := Option.some.inj h
      have htail := List.all_eq_true.mp hall
      refine ⟨rest.drop (n - 1), ?_⟩
      rw [encodeChar_eq, toNat_ofNat_of_valid hvalid]
      conv_lhs => rw [← List.take_append_drop (n - 1) rest, ← List.cons_append]
      congr 1
      obtain ⟨hlt, -⟩ := tailBytes_tailValue htail
      have hspell : ∀ base ≤ b.toNat, spelling base (rest.take (n - 1)).length ((b.toNat - base) *
          64 ^ (rest.take (n - 1)).length + tailValue (rest.take (n - 1))) =
            b :: rest.take (n - 1) :=
        fun _ hbase => spelling_number htail hbase
      generalize rest.take (n - 1) = tail at hlength hleast hvalid hlt hspell
      rw [number, foldl_tail] at hleast ⊢
      rw [hlength] at hleast hlt hspell ⊢
      rcases length?_eq_some hn with ⟨rfl, hb⟩ | ⟨rfl, hlo, hhi⟩ | ⟨rfl, hlo, hhi⟩ | ⟨rfl, hlo, hhi⟩
      · obtain rfl := List.eq_nil_of_length_eq_zero hlength
        simp [tailValue, hb]
      all_goals
        simp only [least, Nat.reduceSub, Nat.reducePow] at hleast hlt hspell ⊢
      · rw [if_neg (by omega), if_pos (by omega), hspell _ (by omega)]
      · rw [if_neg (by omega), if_neg (by omega), if_pos (by omega), hspell _ (by omega)]
      · rw [if_neg (by omega), if_neg (by omega), if_neg (by omega), hspell _ (by omega)]

theorem decode?_eq_some {bytes : List UInt8} {cs : List Char} (h : decode? bytes = some cs) :
    cs.flatMap encodeChar = bytes := by
  induction cs generalizing bytes with
  | nil =>
    cases bytes with
    | nil => rfl
    | cons b rest =>
      rw [decode?] at h
      split at h
      · cases h
      · obtain ⟨cs, -, hcs⟩ := Option.map_eq_some_iff.mp h
        cases hcs
  | cons c cs ih =>
    cases bytes with
    | nil =>
      rw [decode?] at h
      cases h
    | cons b rest =>
      rw [decode?] at h
      split at h
      · cases h
      · next c' hc' =>
        obtain ⟨cs', hcs', hcons⟩ := Option.map_eq_some_iff.mp h
        obtain ⟨rfl, rfl⟩ := List.cons.inj hcons
        obtain ⟨more, hmore⟩ := first?_eq_some hc'
        have hrest : rest.drop ((encodeChar c').length - 1) = more := by
          cases hc : encodeChar c' with
          | nil => exact absurd hc (encodeChar_ne_nil c')
          | cons x xs =>
            rw [hc, List.cons_append] at hmore
            obtain ⟨-, rfl⟩ := List.cons.inj hmore
            simp
        rw [hrest] at hcs'
        rw [List.flatMap_cons, ih hcs', hmore]

end Keypad.Text.Utf8
