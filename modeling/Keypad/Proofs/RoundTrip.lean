import Keypad.Proofs.Brackets
import Keypad.Proofs.Operators
import Keypad.Proofs.Reread
/-!
Reading a form back from its written form. The induction is on the form; what is read of a part does
not depend on what stands behind it, except for the question mark that may end up behind an
operator.
-/
namespace Keypad.Pattern

open Keypad.Charset
open Keypad.Pattern.Parser
open Flags (plain)

namespace Form

def Bytewise (f : Form) : Prop := ∀ l ∈ f.looks, l.isUnicode = false

end Form

namespace Printer

theorem char_head (c : Char) : ∃ x text, char c = x :: text ∧ x ≠ '?' := by
  by_cases hmeta : isMeta c = true
  · exact ⟨'\\', [c], by rw [char, if_pos hmeta], by decide⟩
  · refine ⟨c, [], by rw [char, if_neg hmeta], ?_⟩
    rintro rfl
    exact hmeta rfl

theorem byte_head (b : Nat) : ∃ x text, byte b = x :: text ∧ x ≠ '?' := by
  by_cases hplain : isPlainByte b = true
  · obtain ⟨x, text, htext, hx⟩ := char_head (Char.ofNat b)
    exact ⟨x, text, by rw [byte, if_pos hplain, htext], hx⟩
  · exact ⟨'(', _, by rw [byte, if_neg hplain]; rfl, by decide⟩

def letters (bs : List UInt8) : List (List Char × List UInt8) :=
  match Text.Utf8.decode? bs with
  | some cs => cs.map fun c => (char c, Text.Utf8.encodeChar c)
  | none => bs.map fun b => (byte b.toNat, [b])

theorem literal_eq (bs : List UInt8) :
    literal bs = bracketed (1 < (letters bs).length) ((letters bs).flatMap Prod.fst) := by
  unfold literal letters bracketed
  cases Text.Utf8.decode? bs with
  | none => simp [List.flatMap_map]
  | some cs => simp [List.flatMap_map]

theorem flatMap_letters (bs : List UInt8) : (letters bs).flatMap Prod.snd = bs := by
  unfold letters
  split
  · next cs hcs => simpa [List.flatMap_map] using Text.Utf8.decode?_eq_some hcs
  · simp [List.flatMap_map]

theorem letters_head (bs : List UInt8) : ∀ p ∈ letters bs, ∃ x text, p.1 = x :: text ∧ x ≠ '?' := by
  unfold letters
  split
  · intro p hp
    obtain ⟨c, -, rfl⟩ := List.mem_map.mp hp
    exact char_head c
  · intro p hp
    obtain ⟨b, -, rfl⟩ := List.mem_map.mp hp
    exact byte_head b.toNat

theorem form_head {f : Form} (h : f.Sound) (w : Within) :
    ∃ x text, form w f = x :: text ∧ x ≠ '?' := by
  induction f generalizing w with
  | empty => exact ⟨'(', _, rfl, by decide⟩
  | look l =>
    cases l with
    | textStart | textEnd => exact ⟨'\\', _, rfl, by decide⟩
    | lineStart crlf => cases crlf <;> exact ⟨'(', _, rfl, by decide⟩
    | lineEnd crlf => cases crlf <;> exact ⟨'(', _, rfl, by decide⟩
    | wordEdge kind unicode =>
      cases unicode with
      | false => exact ⟨'(', '?' :: '-' :: 'u' :: ':' :: ((wordEdge kind).toList ++ [')']), by
          simp [form, look, String.toList_append], by decide⟩
      | true => cases kind <;> exact ⟨'\\', _, rfl, by decide⟩
  | literal bs =>
    rw [form, literal_eq]
    cases hletters : letters bs with
    | nil =>
      have hnil := flatMap_letters bs
      rw [hletters] at hnil
      exact absurd hnil.symm h
    | cons p ps =>
      obtain ⟨x, text, htext, hx⟩ := letters_head bs p (by simp [hletters])
      unfold bracketed
      split_ifs
      · exact ⟨'(', _, rfl, by decide⟩
      · exact ⟨x, _, by rw [List.flatMap_cons, htext]; rfl, hx⟩
  | bytes s =>
    by_cases hs : s.isEmpty = true
    · exact ⟨'[', _, by rw [form, if_pos hs]; rfl, by decide⟩
    · exact ⟨'(', _, by rw [form, if_neg hs]; rfl, by decide⟩
  | chars s =>
    by_cases hs : s.isEmpty = true
    · exact ⟨'[', _, by rw [form, if_pos hs]; rfl, by decide⟩
    · exact ⟨'[', _, by rw [form, if_neg hs]; rfl, by decide⟩
  | iterate min max greedy sub ih =>
    obtain ⟨x, text, htext, hx⟩ := ih h.2 .other
    exact ⟨x, _, by rw [form, htext]; rfl, hx⟩
  | group i name sub ih =>
    cases name with
    | none => exact ⟨'(', _, rfl, by decide⟩
    | some n => exact ⟨'(', '?' :: 'P' :: '<' :: (n.toList ++ '>' :: (form .other sub ++ [')'])), by
        simp [form, String.toList_append], by decide⟩
  | seq a b iha ihb =>
    obtain ⟨x, text, htext, hx⟩ := iha h.1 .other
    cases w with
    | seq => exact ⟨x, text ++ form .seq b, by rw [form, htext]; rfl, hx⟩
    | alt => exact ⟨'(', _, rfl, by decide⟩
    | other => exact ⟨'(', _, rfl, by decide⟩
  | alt a b iha ihb =>
    obtain ⟨x, text, htext, hx⟩ := iha h.1 .other
    cases w with
    | seq => exact ⟨'(', _, rfl, by decide⟩
    | alt => exact ⟨x, text ++ '|' :: form .alt b, by rw [form, htext]; rfl, hx⟩
    | other => exact ⟨'(', _, rfl, by decide⟩

theorem noMark_form {f : Form} (h : f.Sound) (w : Within) (rest : List Char) :
    NoMark (form w f ++ rest) := by
  obtain ⟨x, text, htext, hx⟩ := form_head h w
  rw [NoMark, htext]
  simpa using hx

end Printer

section Names

@[simp] theorem Form.groups_lazily (f : Form) : f.lazily.groups = f.groups := by
  cases f <;> rfl

@[simp] theorem Form.groups_reread (f : Form) : f.reread.groups = f.groups := by
  induction f with
  | iterate min max greedy sub ih =>
    rw [Form.reread]
    split_ifs
    · rw [Form.groups_lazily]
      exact ih
    · exact (Form.groups_lazily sub.reread).trans ih
    · exact ih
    · exact ih
  | group i name sub ih => rw [Form.reread, Form.groups, Form.groups, ih]
  | seq a b iha ihb | alt a b iha ihb => rw [Form.reread, Form.groups, Form.groups, iha, ihb]
  | _ => rfl

@[simp] theorem Form.names_reread (f : Form) : f.reread.names = f.names := by
  simp [Form.names]

theorem Letter.groups {bs : List UInt8} {e : Expr} (h : Letter bs e) : e.groups = [] := by
  cases h <;> rfl

theorem Letters.groups {bs : List UInt8} {es : List Expr} (h : Letters bs es) :
    Expr.groupsOfAll es = [] := by
  induction h with
  | nil => rfl
  | cons h _ ih => rw [Expr.groupsOfAll, h.groups, ih, List.append_nil]

theorem names_many (span : Span) (es : List Expr) :
    (Expr.concat span es).names = es.flatMap Expr.names ∧
    (Expr.alternation span es).names = es.flatMap Expr.names := by
  simp only [Expr.names, Expr.groups, Expr.groupsOfAll_eq, List.filterMap_flatMap, and_self]
  rfl

mutual

theorem Written.names {f : Form} {e : Expr} (h : Written f e) : e.names = f.names := by
  cases h with
  | empty | look | scopedLook | fail | bytes | chars => rfl
  | letter h =>
    rw [Expr.names, h.groups]
    rfl
  | letters span inner h =>
    show (Expr.groupsOfAll _).filterMap Prod.snd = _
    rw [h.groups]
    rfl
  | iterate span min max greedy h =>
    have hsub := Written.names h
    exact hsub
  | group span i j name h =>
    have hsub := Written.names h
    simp only [Expr.names, Form.names, Expr.groups, Form.groups, List.filterMap_cons] at hsub ⊢
    rw [hsub]
  | bracketed span h =>
    have hsub := Written.names h
    exact hsub
  | seq span inner h t => exact (names_many inner _).1.trans (WrittenParts.names (.cons h t))
  | alt span inner h t => exact (names_many inner _).2.trans (WrittenBranches.names (.cons h t))

theorem WrittenParts.names {f : Form} {es : List Expr} (h : WrittenParts f es) :
    es.flatMap Expr.names = f.names := by
  cases h with
  | last h => simpa using Written.names h
  | cons h t =>
    rw [List.flatMap_cons, Written.names h, WrittenParts.names t]
    simp [Form.names, Form.groups]

theorem WrittenBranches.names {f : Form} {es : List Expr} (h : WrittenBranches f es) :
    es.flatMap Expr.names = f.names := by
  cases h with
  | last h => simpa using Written.names h
  | cons h t =>
    rw [List.flatMap_cons, Written.names h, WrittenBranches.names t]
    simp [Form.names, Form.groups]

end

theorem Form.names_append (a b : Form) : (Form.seq a b).names = a.names ++ b.names ∧
    (Form.alt a b).names = a.names ++ b.names := by
  simp [Form.names, Form.groups]

end Names

namespace Parser

variable {s z : State} {rest : List Char}

section Names

def State.Free (s : State) (names : List String) : Prop :=
  (s.groups.filterMap Prod.snd ++ names).Nodup

theorem State.Free.left {names more : List String} (h : s.Free (names ++ more)) : s.Free names := by
  rw [State.Free, ← List.append_assoc] at h
  exact h.of_append_left

theorem State.Free.behind {s' : State} {es : List Expr} {names more : List String}
    (h : s.Free (names ++ more)) (hnames : es.flatMap Expr.names = names)
    (hrow : s'.row.items = es.reverse ++ s.row.items) (hframes : s'.frames = s.frames) :
    s'.Free more := by
  have hgroups : s'.groups = s.groups ++ es.flatMap Expr.groups := by
    simp [State.groups, hrow, hframes, groupsOfRow]
  have hall : (es.flatMap Expr.groups).filterMap Prod.snd = names := by
    rw [← hnames, List.filterMap_flatMap]
    rfl
  rw [State.Free, hgroups, List.filterMap_append, hall, List.append_assoc]
  exact h

theorem State.Free.inside {s' : State} {kind : GroupKind} {start : Nat} {names : List String}
    (h : s.Free ((groupsOfKind kind).filterMap Prod.snd ++ names)) (hitems : s'.row.items = [])
    (hframes : s'.frames = .group s.row start kind false :: s.frames) : s'.Free names := by
  have hgroups : s'.groups = s.groups ++ groupsOfKind kind := by
    simp [State.groups, hitems, hframes, Frame.groups, groupsOfRow]
  rw [State.Free, hgroups, List.filterMap_append, List.append_assoc]
  exact h

theorem State.Follows.named {name : String} {names : List String} (h : s.Follows z)
    (hname : Named [] name) (hfree : s.Free (name :: names)) : Named s.names name := by
  refine { hname with fresh := fun hmem => ?_ }
  rw [State.Free, h.numbered.names] at hfree
  exact (List.nodup_append.mp hfree).2.2 name (List.mem_reverse.mpr hmem) name
    List.mem_cons_self rfl

end Names

section Enclosed

theorem State.Enters.encloses {inner : List Char} {kind : GroupKind} {Q : List Expr → Prop}
    (h : s.Enters z (inner ++ ')' :: rest) kind)
    (hinner : ∀ s' : State, s'.Follows z → s'.cursor.rest = inner ++ ')' :: rest →
      (∀ names, s.Free ((groupsOfKind kind).filterMap Prod.snd ++ names) → s'.Free names) →
      ∃ es, Q es ∧ s'.Adds z (')' :: rest) es) :
    ∃ (span : Span) (es : List Expr) (row : Row) (stop : Nat), Q es ∧ row.items = es.reverse ∧
      s.Adds z rest [.group span kind (row.toExpr stop)] := by
  obtain ⟨span, body, ⟨es, row, stop, hes, hrow, rfl⟩, hadds⟩ := h.adds (P := fun body =>
      ∃ (es : List Expr) (row : Row) (stop : Nat),
        Q es ∧ row.items = es.reverse ∧ body = row.toExpr stop) (by
    intro s' hfollows htext hitems hframes
    obtain ⟨start, hframes⟩ := hframes
    obtain ⟨es, hes, hadds⟩ :=
      hinner s' hfollows htext fun names hfree => hfree.inside hitems hframes
    obtain ⟨t, body, ⟨row', stop, hrow, rfl⟩, ht, hrest, hcollect⟩ :=
      hadds.fills hitems ⟨s.row, start, kind, s.frames, hframes⟩
    exact ⟨t, _, ⟨es, row', stop, hes, hrow, rfl⟩, ht, hrest, hcollect⟩)
  exact ⟨span, es, row, stop, hes, hrow, hadds⟩

theorem Row.toExpr_of_single {row : Row} {e : Expr} (h : row.items = [e].reverse) (stop : Nat) :
    row.toExpr stop = e := by
  rw [List.reverse_singleton] at h
  rw [Row.toExpr, h]

theorem Row.toExpr_of_many {row : Row} {es : List Expr} (h : row.items = es.reverse)
    (hes : 1 < es.length) (stop : Nat) : row.toExpr stop = .concat ⟨row.start, stop⟩ es := by
  unfold Row.toExpr
  have hlength : row.items.length = es.length := by rw [h, List.length_reverse]
  split
  · next heq => rw [heq] at hlength; simp at hlength; omega
  · next heq => rw [heq] at hlength; simp at hlength; omega
  · rw [h, List.reverse_reverse]

theorem reads_scoped {marks inner : List Char} {flags : List FlagItem} {allowed : List Char → Prop}
    {P : Expr → Prop} (hmarks : Marks marks flags) (h : Reads inner allowed P)
    (hallowed : ∀ rest, allowed (')' :: rest)) :
    Reads ('(' :: '?' :: (marks ++ ':' :: (inner ++ [')']))) Anything
      fun e => ∃ span body, e = .group span (.scoped flags) body ∧ P body := by
  intro s z rest hfollows htext _
  have htext' : s.cursor.rest = '(' :: '?' :: (marks ++ ':' :: (inner ++ ')' :: rest)) := by
    simp [htext]
  obtain ⟨span, es, row, stop, ⟨e, rfl, he⟩, hrow, hadds⟩ :=
    (hfollows.enters_scoped hmarks htext').encloses (Q := fun es => ∃ e, es = [e] ∧ P e) (by
      intro s' hfollows' htext' _
      obtain ⟨e, he, hadds⟩ := h s' z (')' :: rest) hfollows' htext' (hallowed rest)
      exact ⟨[e], ⟨e, rfl, he⟩, hadds⟩)
  rw [Row.toExpr_of_single hrow] at hadds
  exact ⟨_, ⟨span, e, rfl, he⟩, hadds⟩

end Enclosed

section Letters

theorem Reads.mono {text : List Char} {allowed : List Char → Prop} {P Q : Expr → Prop}
    (h : Reads text allowed P) (hPQ : ∀ e, P e → Q e) : Reads text allowed Q := by
  intro s z rest hfollows htext hallowed
  obtain ⟨e, he, hadds⟩ := h s z rest hfollows htext hallowed
  exact ⟨e, hPQ e he, hadds⟩

theorem reads_char (c : Char) :
    Reads (Printer.char c) Anything (Letter (Text.Utf8.encodeChar c)) := by
  have hhead : ∃ ch, (Printer.char c).head? = some ch ∧ ch ∉ signs := by
    by_cases hmeta : Printer.isMeta c = true
    · exact ⟨'\\', by rw [Printer.char, if_pos hmeta]; rfl, by decide⟩
    · have hsub : ∀ x ∈ signs, x ∈ metas := by simp [signs, metas]
      exact ⟨c, by rw [Printer.char, if_neg hmeta]; rfl,
        fun hc => hmeta (isMeta_iff.mpr (hsub c hc))⟩
  obtain ⟨ch, hch, hsign⟩ := hhead
  refine reads_primitive hch hsign fun rest n => ?_
  obtain ⟨span, m, hp⟩ := primitive_char c rest n
  exact ⟨_, m, hp, Letter.char ⟨span, c, false⟩ rfl⟩

theorem reads_byte {b : Nat} (hb : b < 0x100) :
    Reads (Printer.byte b) Anything (Letter [b.toUInt8]) := by
  have hvalid : b.isValidChar := Or.inl (by omega)
  have hnumber : (Char.ofNat b).toNat = b := Text.Utf8.toNat_ofNat_of_valid hvalid
  by_cases hplain : Printer.isPlainByte b = true
  · have hascii : (Char.ofNat b).toNat < 0x80 := by
      simp only [Printer.isPlainByte, Bool.and_eq_true, decide_eq_true_eq] at hplain
      omega
    rw [Printer.byte, if_pos hplain]
    have hchar := reads_char (Char.ofNat b)
    rwa [encodeChar_of_ascii hascii, hnumber] at hchar
  · have htext : Printer.byte b =
        '(' :: '?' :: (['-', 'u'] ++ ':' :: (Printer.hexByte b ++ [')'])) := by
      rw [Printer.byte, if_neg hplain]
      rfl
    rw [htext]
    have hinner : Reads (Printer.hexByte b) Anything
        fun e => ∃ span, e = .literal ⟨span, Char.ofNat b, true⟩ := by
      refine reads_primitive (show (Printer.hexByte b).head? = some '\\' from rfl) (by decide)
        fun rest n => ?_
      obtain ⟨span, m, hp⟩ := primitive_hexByte hb rest n
      exact ⟨_, m, hp, span, rfl⟩
    refine (reads_scoped .bytes hinner fun _ => trivial).mono fun e he => ?_
    obtain ⟨span, _, rfl, span', rfl⟩ := he
    have hletter :=
      Letter.byte span ⟨span', Char.ofNat b, true⟩ rfl (by show (Char.ofNat b).toNat ≤ 0xFF; omega)
    rwa [hnumber] at hletter

theorem adds_letters {ps : List (List Char × List UInt8)}
    (h : ∀ p ∈ ps, Reads p.1 Anything (Letter p.2)) (hfollows : s.Follows z)
    (htext : s.cursor.rest = ps.flatMap Prod.fst ++ rest) :
    ∃ es, (Letters (ps.flatMap Prod.snd) es ∧ es.length = ps.length) ∧ s.Adds z rest es := by
  induction ps generalizing s with
  | nil => exact ⟨[], ⟨.nil, rfl⟩, s, hfollows, htext, rfl, rfl⟩
  | cons p ps ih =>
    obtain ⟨hp, hps⟩ := List.forall_mem_cons.mp h
    rw [List.flatMap_cons, List.append_assoc] at htext
    obtain ⟨e, he, s', hfollows', htext', hrow, hframes⟩ := hp s z _ hfollows htext trivial
    obtain ⟨es, ⟨hes, hlength⟩, hadds⟩ := ih hps hfollows' htext'
    exact ⟨e :: es, ⟨.cons he hes, by simp [hlength]⟩, State.Adds.behind hrow hframes hadds⟩

theorem reads_letters (bs : List UInt8) :
    ∀ p ∈ Printer.letters bs, Reads p.1 Anything (Letter p.2) := by
  unfold Printer.letters
  split
  · intro p hp
    obtain ⟨c, -, rfl⟩ := List.mem_map.mp hp
    exact reads_char c
  · intro p hp
    obtain ⟨b, -, rfl⟩ := List.mem_map.mp hp
    have hbyte := reads_byte b.toNat_lt
    rwa [show b.toNat.toUInt8 = b from UInt8.ofNat_toNat] at hbyte

theorem reads_literal {bs : List UInt8} (hbs : bs ≠ []) :
    Reads (Printer.literal bs) Anything (Written (.literal bs)) := by
  intro s z rest hfollows htext _
  have hletters := reads_letters bs
  have hflat := Printer.flatMap_letters bs
  rw [Printer.literal_eq] at htext
  by_cases hmany : 1 < (Printer.letters bs).length
  · rw [Printer.bracketed, if_pos (by simpa using hmany)] at htext
    have htext' : s.cursor.rest =
        '(' :: '?' :: ([] ++ ':' :: ((Printer.letters bs).flatMap Prod.fst ++
        ')' :: rest)) := by simp [htext]
    obtain ⟨span, es, row, stop, ⟨hes, hlength⟩, hrow, hadds⟩ :=
      (hfollows.enters_scoped .none htext').encloses fun s' hfollows' htext' _ =>
        adds_letters hletters hfollows' htext'
    rw [hflat] at hes
    rw [Row.toExpr_of_many hrow (hlength ▸ hmany)] at hadds
    exact ⟨_, .letters span _ hes, hadds⟩
  · rw [Printer.bracketed, if_neg (by simpa using hmany)] at htext
    obtain ⟨p, hp⟩ : ∃ p, Printer.letters bs = [p] := by
      cases hall : Printer.letters bs with
      | nil =>
        rw [hall] at hflat
        exact absurd hflat.symm hbs
      | cons p ps =>
        rw [hall, List.length_cons] at hmany
        obtain rfl := List.eq_nil_of_length_eq_zero (show ps.length = 0 by omega)
        exact ⟨p, rfl⟩
    rw [hp] at htext hletters hflat
    simp only [List.flatMap_cons, List.flatMap_nil, List.append_nil] at htext hflat
    obtain ⟨e, he, hadds⟩ := hletters p (List.mem_singleton_self p) s z rest hfollows htext trivial
    rw [hflat] at he
    exact ⟨e, .letter he, hadds⟩

end Letters

section Leaves

theorem reads_empty : Reads (Printer.form .other .empty) Anything (Written .empty) := by
  intro s z rest hfollows htext _
  have htext' : s.cursor.rest = '(' :: '?' :: ([] ++ ':' :: ([] ++ ')' :: rest)) := htext
  obtain ⟨span, es, row, stop, rfl, hrow, hadds⟩ :=
    (hfollows.enters_scoped .none htext').encloses (Q := (· = [])) fun s' hfollows' htext' _ =>
      ⟨[], rfl, s', hfollows', htext', rfl, rfl⟩
  rw [List.reverse_nil] at hrow
  rw [Row.toExpr, hrow] at hadds
  exact ⟨_, .empty span _, hadds⟩

theorem reads_assertion {text : List Char} {a : Assertion} {ch : Char}
    (hhead : text.head? = some ch) (hch : ch ∉ signs)
    (h : ∀ rest n, ∃ span m, primitive false ⟨text ++ rest, n⟩ =
      .ok (.assertion span a, ⟨rest, m⟩)) :
    Reads text Anything fun e => ∃ span, e = .assertion span a := by
  refine reads_primitive hhead hch fun rest n => ?_
  obtain ⟨span, m, hp⟩ := h rest n
  exact ⟨_, m, hp, span, rfl⟩

theorem reads_lineStart : Reads ['^'] Anything fun e => ∃ span, e = .assertion span .lineStart :=
  reads_assertion rfl (by decide) fun rest n => ⟨⟨n, n + 1⟩, n + 1, rfl⟩

theorem reads_lineEnd : Reads ['$'] Anything fun e => ∃ span, e = .assertion span .lineEnd :=
  reads_assertion rfl (by decide) fun rest n => ⟨⟨n, n + 1⟩, n + 1, rfl⟩

theorem reads_wordEdge (kind : WordEdge) : Reads (Printer.wordEdge kind).toList
    (fun rest => rest.head? ≠ some '\x7b') fun e =>
      ∃ span, e = .assertion span (.wordEdge kind) := by
  have hhead : (Printer.wordEdge kind).toList.head? = some '\\' := by cases kind <;> rfl
  have hne : (Printer.wordEdge kind).toList ≠ [] := by
    intro hnil
    rw [hnil] at hhead
    cases hhead
  refine reads_of_step hne fun s rest hverbose htext hrest => ?_
  obtain ⟨span, m, hp⟩ := primitive_wordEdge kind hrest s.cursor.offset
  have hcursor : s.cursor = ⟨(Printer.wordEdge kind).toList ++ rest, s.cursor.offset⟩ := by
    rw [← htext]
  have hhead' : s.cursor.head? = some '\\' := by
    rw [hcursor, Cursor.head?, List.head?_append_of_ne_nil _ hne, hhead]
  refine ⟨_, ⟨rest, m⟩, step_primitive (p := .assertion span (.wordEdge kind)) hhead' (by decide)
    ?_, rfl, span, rfl⟩
  rw [hverbose, hcursor]
  exact hp

theorem reads_plainLook {text : List Char} {a : Assertion}
    (h : Reads text Anything fun e => ∃ span, e = .assertion span a) :
    Reads text Anything (Written (.look (plain.assertion a))) :=
  h.mono fun e he => by
    obtain ⟨span, rfl⟩ := he
    exact .look span a

theorem reads_scopedLook {marks inner : List Char} {flags : List FlagItem}
    {allowed : List Char → Prop} {a : Assertion} (hmarks : Marks marks flags)
    (h : Reads inner allowed fun e => ∃ span, e = .assertion span a)
    (hallowed : ∀ rest, allowed (')' :: rest)) :
    Reads ('(' :: '?' :: (marks ++ ':' :: (inner ++ [')']))) Anything
      (Written (.look ((plain.set flags).assertion a))) :=
  (reads_scoped hmarks h hallowed).mono fun e he => by
    obtain ⟨span, _, rfl, inner, rfl⟩ := he
    exact .scopedLook span inner flags a

theorem reads_look {l : Look} (h : l.isUnicode = false) :
    Reads (Printer.look l).toList Anything (Written (.look l)) := by
  cases l with
  | textStart =>
    have hsign : Reads "\\A".toList Anything fun e => ∃ span, e = .assertion span .textStart :=
      reads_assertion rfl (by decide) fun rest n => ⟨⟨n, n + 2⟩, n + 2, rfl⟩
    exact reads_plainLook hsign
  | textEnd =>
    have hsign : Reads "\\z".toList Anything fun e => ∃ span, e = .assertion span .textEnd :=
      reads_assertion rfl (by decide) fun rest n => ⟨⟨n, n + 2⟩, n + 2, rfl⟩
    exact reads_plainLook hsign
  | lineStart crlf =>
    cases crlf with
    | false => exact reads_scopedLook .lines reads_lineStart fun _ => trivial
    | true => exact reads_scopedLook .crlfLines reads_lineStart fun _ => trivial
  | lineEnd crlf =>
    cases crlf with
    | false => exact reads_scopedLook .lines reads_lineEnd fun _ => trivial
    | true => exact reads_scopedLook .crlfLines reads_lineEnd fun _ => trivial
  | wordEdge kind unicode =>
    obtain rfl : unicode = false := h
    have htext : (Printer.look (.wordEdge kind false)).toList =
        '(' :: '?' :: (['-', 'u'] ++ ':' :: ((Printer.wordEdge kind).toList ++ [')'])) := by
      simp [Printer.look, String.toList_append]
    rw [htext]
    exact reads_scopedLook .bytes (reads_wordEdge kind) fun _ => by simp

theorem reads_bytes {s : Intervals} (h : s.Proper .byte) :
    Reads (Printer.form .other (.bytes s)) Anything (Written (.bytes s)) := by
  rw [Printer.form]
  by_cases hs : s = []
  · subst hs
    refine reads_emptyClass.mono fun e he => ?_
    obtain ⟨span, body, rfl, hinside⟩ := he
    exact .fail span hinside
  · rw [if_neg (by simpa using hs)]
    refine (reads_scoped .bytes (reads_byteClass hs h) fun _ => trivial).mono fun e he => ?_
    obtain ⟨span, _, rfl, inner, body, rfl, hinside⟩ := he
    exact .bytes span inner hinside

theorem reads_chars {s : Intervals} (h : s.Proper .scalar) :
    Reads (Printer.form .other (.chars s)) Anything (Written (.chars s)) := by
  rw [Printer.form]
  by_cases hs : s = []
  · subst hs
    refine reads_emptyClass.mono fun e he => ?_
    obtain ⟨span, body, rfl, hsame, hreads⟩ := he
    exact .chars span ⟨hsame, hreads.trans (iff_of_true trivial rfl)⟩
  · rw [if_neg (by simpa using hs)]
    refine (reads_charClass hs h).mono fun e he => ?_
    obtain ⟨span, body, rfl, hinside⟩ := he
    exact .chars span hinside

end Leaves

section Forms

def ReadsNamed (text : List Char) (names : List String) (allowed : List Char → Prop)
    (P : Expr → Prop) : Prop :=
  ∀ (s z : State) (rest : List Char),
    s.Follows z → s.cursor.rest = text ++ rest → s.Free names → allowed rest →
    ∃ e, P e ∧ s.Adds z rest [e]

theorem Reads.named {text : List Char} {allowed : List Char → Prop} {P : Expr → Prop}
    (h : Reads text allowed P) (names : List String) : ReadsNamed text names allowed P :=
  fun s z rest hfollows htext _ hallowed => h s z rest hfollows htext hallowed

theorem ReadsNamed.anywhere {text : List Char} {names : List String} {P : Expr → Prop}
    (h : ReadsNamed text names Anything P) (allowed : List Char → Prop) :
    ReadsNamed text names allowed P :=
  fun s z rest hfollows htext hfree _ => h s z rest hfollows htext hfree trivial

/-- How the written form of a form is read: on its own, in front of a mark of laziness, as the parts
of a sequence and as the branches of an alternation. -/
structure Readable (f : Form) : Prop where
  one : ReadsNamed (Printer.form .other f) f.names (fun rest => f.endsOpen = true → NoMark rest)
    (Written f.reread)
  marked : f.endsOpen = true →
    ReadsNamed (Printer.form .other f ++ ['?']) f.names Anything (Written f.reread.lazily)
  parts : ∀ {s z : State} {rest : List Char},
    s.Follows z → s.cursor.rest = Printer.form .seq f ++ rest →
    s.Free f.names → NoMark rest → ∃ es, WrittenParts f.reread es ∧ s.Adds z rest es
  branches : ∀ {s z : State} {rest : List Char} {start : Nat} {bs : List Expr}
    {frames : List Frame},
    s.Follows z → s.cursor.rest = Printer.form .alt f ++ rest → s.Free f.names → NoMark rest →
    s.row.items = [] → s.frames = .alternation start bs :: frames →
    ∃ (es : List Expr) (e : Expr) (s' : State),
      WrittenBranches f.reread (es ++ [e]) ∧ s'.Follows z ∧
      s'.cursor.rest = rest ∧ s'.row.items = [e] ∧
        s'.frames = .alternation start (es.reverse ++ bs) :: frames

section One

variable {f : Form}
  (hone : ReadsNamed (Printer.form .other f) f.names (fun rest => f.endsOpen = true → NoMark rest)
    (Written f.reread))
include hone

theorem parts_of_one (hfollows : s.Follows z)
    (htext : s.cursor.rest = Printer.form .other f ++ rest) (hfree : s.Free f.names)
    (hrest : NoMark rest) : ∃ es, WrittenParts f.reread es ∧ s.Adds z rest es := by
  obtain ⟨e, he, hadds⟩ := hone s z rest hfollows htext hfree fun _ => hrest
  exact ⟨[e], .last he, hadds⟩

theorem branches_of_one {start : Nat} {bs : List Expr} {frames : List Frame}
    (hfollows : s.Follows z) (htext : s.cursor.rest = Printer.form .other f ++ rest)
    (hfree : s.Free f.names) (hrest : NoMark rest) (hitems : s.row.items = [])
    (hframes : s.frames = .alternation start bs :: frames) :
    ∃ (es : List Expr) (e : Expr) (s' : State),
    WrittenBranches f.reread (es ++ [e]) ∧ s'.Follows z ∧
      s'.cursor.rest = rest ∧ s'.row.items = [e] ∧
      s'.frames = .alternation start (es.reverse ++ bs) :: frames := by
  obtain ⟨e, he, s', hfollows', hrest', hrow, hsame⟩ :=
    hone s z rest hfollows htext hfree fun _ => hrest
  exact ⟨[], e, s', .last he, hfollows', hrest', by simpa [hitems] using hrow,
    by rw [hsame, hframes]; rfl⟩

theorem readable_of_one (hseq : Printer.form .seq f = Printer.form .other f)
    (halt : Printer.form .alt f = Printer.form .other f)
    (hmarked : f.endsOpen = true →
      ReadsNamed (Printer.form .other f ++ ['?']) f.names Anything (Written f.reread.lazily)) :
    Readable f where
  one := hone
  marked := hmarked
  parts hfollows htext hfree hrest := parts_of_one hone hfollows (hseq ▸ htext) hfree hrest
  branches hfollows htext hfree hrest hitems hframes :=
    branches_of_one hone hfollows (halt ▸ htext) hfree hrest hitems hframes

end One

theorem readable_of_closed {f : Form} (hseq : Printer.form .seq f = Printer.form .other f)
    (halt : Printer.form .alt f = Printer.form .other f) (hopen : f.endsOpen = false)
    (hone : ReadsNamed (Printer.form .other f) f.names Anything (Written f.reread)) :
    Readable f := by
  refine readable_of_one (hone.anywhere _) hseq halt fun h => ?_
  rw [hopen] at h
  cases h

theorem State.Follows.bar {e : Expr} (hfollows : s.Follows z) (htext : s.cursor.rest = '|' :: rest)
    (hitems : s.row.items = [e]) :
    ∃ (s' : State), s'.Follows z ∧ s'.cursor.rest = rest ∧ s'.row.items = [] ∧
      s'.groups = s.groups ∧
      ((∀ {start bs frames}, s.frames = .alternation start bs :: frames →
          s'.frames = .alternation start (e :: bs) :: frames) ∧
        ∀ {row start kind verbose frames}, s.frames = .group row start kind verbose :: frames →
          s'.frames = .alternation s.row.start [e] :: s.frames) := by
  have hstep : Parser.step s = .ok (nextBranch s) := by
    unfold Parser.step
    rw [show s.cursor.head? = some '|' by rw [Cursor.head?, htext]; rfl]
    rfl
  have hbump : s.cursor.bump = ⟨rest, s.cursor.offset + 1⟩ := by rw [Cursor.bump, htext]
  have hrow : s.row.toExpr s.cursor.offset = e := by rw [Row.toExpr, hitems]
  have hrest : (nextBranch s).cursor.rest = rest := congrArg Cursor.rest hbump
  have hlt : (nextBranch s).cursor.rest.length < s.cursor.rest.length := by
    rw [hrest, htext]
    simp
  refine ⟨nextBranch s, hfollows.step hstep hfollows.verbose hlt, hrest, rfl,
    groups_nextBranch s, ?_, ?_⟩
  · intro start bs frames hframes
    unfold nextBranch
    dsimp only
    rw [hframes, hrow]
  · intro row start kind verbose frames hframes
    unfold nextBranch
    dsimp only
    rw [hframes, hrow]

theorem adds_repeated {g : Form} {min : Nat} {max : Option Nat} {greedy : Bool}
    (h : ∃ e, Written g e ∧ s.Adds z
      (operatorSign min max ++ if greedy then rest else '?' :: rest) [e])
    (hcounted : Form.Counted min max) (honce : ¬ (min = 1 ∧ max = some 1))
    (hrest : greedy = true → NoMark rest) :
    ∃ e, Written (.iterate min max greedy g) e ∧ s.Adds z rest [e] := by
  obtain ⟨e, he, s', hfollows, htext, hrow, hframes⟩ := h
  obtain ⟨t, span, ht, htrest, htrow, htframes⟩ :=
    hfollows.repeats hrow he.repeatable hcounted honce htext hrest
  exact ⟨_, .iterate span min max greedy he, t, ht, htrest, htrow, htframes.trans hframes⟩

theorem noMark_operatorSign {min : Nat} {max : Option Nat} (honce : ¬ (min = 1 ∧ max = some 1))
    (hoption : ¬ (min = 0 ∧ max = some 1)) (rest : List Char) :
    NoMark (operatorSign min max ++ rest) := by
  rcases operatorSign_cases honce with ⟨-, hmin, hmax⟩ | ⟨heq, -⟩ | ⟨heq, -⟩ | ⟨body, heq, -⟩
  · exact absurd ⟨hmin, hmax⟩ hoption
  all_goals
    rw [heq, NoMark]
    simp

section Repetition

variable {min : Nat} {max : Option Nat} {greedy : Bool} {sub : Form}

theorem form_iterate : Printer.form .other (.iterate min max greedy sub) =
    Printer.form .other sub ++
      (operatorSign min max ++ if greedy = true ∨ max = some min then [] else ['?']) := by
  rw [Printer.form, operator_eq]

/-- The question mark of an option is read as a mark of laziness where an operator stands right
before it; a second one is then read as the option. -/
theorem readable_option (hsub : Readable sub) (hends : sub.endsOpen = true) :
    Readable (.iterate 0 (some 1) greedy sub) := by
  have hmarked := hsub.marked hends
  have hcounted : Form.Counted 0 (some 1) := ⟨by decide, by simp [maxCount]⟩
  cases greedy with
  | true =>
    refine readable_of_closed rfl rfl (by simp [Form.endsOpen, hends]) ?_
    rw [form_iterate, if_pos (Or.inl rfl), Form.reread, if_pos ⟨rfl, rfl, hends⟩, if_pos rfl]
    exact hmarked
  | false =>
    have hreread : (Form.iterate 0 (some 1) false sub).reread =
        .iterate 0 (some 1) true sub.reread.lazily := by
      rw [Form.reread, if_pos ⟨rfl, rfl, hends⟩]
      rfl
    have hform : Printer.form .other (.iterate 0 (some 1) false sub) =
        (Printer.form .other sub ++ ['?']) ++ ['?'] := by
      rw [form_iterate]
      simp [operatorSign]
    refine readable_of_one ?_ rfl rfl fun _ => ?_
    · intro s z rest hfollows htext hfree hrest
      rw [hform, List.append_assoc] at htext
      rw [hreread]
      have hnomark : NoMark rest := hrest (by simp [Form.endsOpen, hends])
      exact adds_repeated (hmarked s z _ hfollows htext hfree trivial) hcounted (by omega)
        fun _ => hnomark
    · intro s z rest hfollows htext hfree _
      rw [hform, List.append_assoc, List.append_assoc] at htext
      rw [hreread]
      have hlazy : ∃ e, Written sub.reread.lazily e ∧
          s.Adds z (operatorSign 0 (some 1) ++ if false = true then rest else '?' :: rest) [e] :=
        hmarked s z _ hfollows htext hfree trivial
      exact adds_repeated hlazy hcounted (by omega) (by simp)

theorem readable_once (hsub : Readable sub) : Readable (.iterate 1 (some 1) greedy sub) := by
  have hform : Printer.form .other (.iterate 1 (some 1) greedy sub) = Printer.form .other sub := by
    rw [form_iterate]
    simp [operatorSign]
  have hnames : (Form.iterate 1 (some 1) greedy sub).names = sub.names := rfl
  have hreread : (Form.iterate 1 (some 1) greedy sub).reread = sub.reread := by simp [Form.reread]
  have hends : (Form.iterate 1 (some 1) greedy sub).endsOpen = sub.endsOpen := by
    simp [Form.endsOpen]
  refine readable_of_one ?_ rfl rfl ?_
  · rw [hform, hreread, hends, hnames]
    exact hsub.one
  · rw [hform, hreread, hends, hnames]
    exact hsub.marked

theorem readable_operator (hsub : Readable sub) (hcounted : Form.Counted min max)
    (honce : ¬ (min = 1 ∧ max = some 1))
    (hopen : ¬ (min = 0 ∧ max = some 1 ∧ sub.endsOpen = true)) :
    Readable (.iterate min max greedy sub) := by
  have hreread : (Form.iterate min max greedy sub).reread =
      .iterate min max (greedy || max = some min) sub.reread := by
    rw [Form.reread, if_neg hopen, if_neg honce]
  have hends : (Form.iterate min max greedy sub).endsOpen = (greedy || max = some min) := by
    rw [Form.endsOpen, if_neg honce]
    by_cases hoption : min = 0 ∧ max = some 1
    · obtain ⟨rfl, rfl⟩ := hoption
      have hclosed : sub.endsOpen = false := by simpa using hopen
      simp [hclosed]
    · rw [if_neg hoption]
  have hsign : ∀ rest, sub.endsOpen = true → NoMark (operatorSign min max ++ rest) := by
    intro rest hends
    exact noMark_operatorSign honce (fun hoption => hopen ⟨hoption.1, hoption.2, hends⟩) rest
  refine readable_of_one ?_ rfl rfl fun h => ?_
  · intro s z rest hfollows htext hfree hrest
    rw [form_iterate, List.append_assoc, List.append_assoc] at htext
    rw [hreread]
    rw [hends] at hrest
    refine adds_repeated ?_ hcounted honce hrest
    refine hsub.one s z _ hfollows ?_ hfree (hsign _)
    rw [htext]
    by_cases hclosed : greedy = true ∨ max = some min
    · have hgreedy : (greedy || decide (max = some min)) = true := by simpa using hclosed
      rw [if_pos hclosed, hgreedy]
      rfl
    · have hgreedy : (greedy || decide (max = some min)) = false := by simpa using hclosed
      rw [if_neg hclosed, hgreedy]
      rfl
  · intro s z rest hfollows htext hfree _
    rw [hends] at h
    have hclosed : greedy = true ∨ max = some min := by simpa using h
    rw [form_iterate, if_pos hclosed, List.append_nil, List.append_assoc,
      List.append_assoc] at htext
    rw [hreread]
    exact adds_repeated (hsub.one s z _ hfollows htext hfree (hsign _)) hcounted honce (by simp)

theorem readable_iterate (hsub : Readable sub) (hcounted : Form.Counted min max) :
    Readable (.iterate min max greedy sub) := by
  by_cases hopen : min = 0 ∧ max = some 1 ∧ sub.endsOpen = true
  · obtain ⟨rfl, rfl, hends⟩ := hopen
    exact readable_option hsub hends
  · by_cases honce : min = 1 ∧ max = some 1
    · obtain ⟨rfl, rfl⟩ := honce
      exact readable_once hsub
    · exact readable_operator hsub hcounted honce hopen

end Repetition

theorem readable_group {i : Nat} {name : Option String} {sub : Form} (hsub : Readable sub)
    (hsound : sub.Sound) (htitled : ∀ n ∈ name, Named [] n) : Readable (.group i name sub) := by
  have hinner : ∀ {s z : State} {rest : List Char}, s.Follows z →
      s.cursor.rest = Printer.form .other sub ++ ')' :: rest → s.Free sub.names →
      ∃ es, (∃ e, es = [e] ∧ Written sub.reread e) ∧ s.Adds z (')' :: rest) es := by
    intro s z rest hfollows htext hfree
    obtain ⟨e, he, hadds⟩ :=
      hsub.one s z (')' :: rest) hfollows htext hfree fun _ => by simp [NoMark]
    exact ⟨[e], ⟨e, rfl, he⟩, hadds⟩
  refine readable_of_closed rfl rfl rfl fun s z rest hfollows htext hfree _ => ?_
  cases name with
  | none =>
    have htext' : s.cursor.rest = '(' :: (Printer.form .other sub ++ ')' :: rest) := by
      simp [htext, Printer.form]
    have hmark := Printer.noMark_form hsound .other (')' :: rest)
    obtain ⟨j, henters⟩ := hfollows.enters_unnamed htext' hmark (by simp)
    obtain ⟨span, es, row, stop, ⟨e, rfl, he⟩, hrow, hadds⟩ :=
      henters.encloses fun s' hfollows' htext' hfree' =>
      hinner hfollows' htext' (hfree' sub.names hfree)
    rw [Row.toExpr_of_single hrow] at hadds
    exact ⟨_, .group span i j none he, hadds⟩
  | some n =>
    have htext' : s.cursor.rest =
        '(' :: '?' :: 'P' :: '<' :: (n.toList ++ '>' :: (Printer.form .other sub ++
        ')' :: rest)) := by
      simp [htext, Printer.form, String.toList_append]
    obtain ⟨j, henters⟩ := hfollows.enters_named (hfollows.named (htitled n rfl) hfree) htext'
    obtain ⟨span, es, row, stop, ⟨e, rfl, he⟩, hrow, hadds⟩ :=
      henters.encloses fun s' hfollows' htext' hfree' =>
      hinner hfollows' htext' (hfree' sub.names hfree)
    rw [Row.toExpr_of_single hrow] at hadds
    exact ⟨_, .group span i j (some n) he, hadds⟩

theorem length_pos_of_parts {f : Form} {es : List Expr} (h : WrittenParts f es) :
    0 < es.length := by
  cases h <;> simp

theorem readable_seq {a b : Form} (ha : Readable a) (hb : Readable b) (hsound : b.Sound) :
    Readable (.seq a b) := by
  -- the parts stand side by side, whether or not there is a bracket around them
  have hparts : ∀ {s z : State} {rest : List Char}, s.Follows z →
      s.cursor.rest = Printer.form .other a ++ Printer.form .seq b ++ rest →
        s.Free (a.names ++ b.names) →
      NoMark rest →
      ∃ es, (∃ e fs, es = e :: fs ∧ Written a.reread e ∧ WrittenParts b.reread fs) ∧
        s.Adds z rest es := by
    intro s z rest hfollows htext hfree hrest
    rw [List.append_assoc] at htext
    obtain ⟨e, he, s', hfollows', htext', hrow, hframes⟩ :=
      ha.one s z _ hfollows htext hfree.left fun _ => Printer.noMark_form hsound .seq rest
    have hnames : [e].flatMap Expr.names = a.names := by
      simpa using he.names.trans (Form.names_reread a)
    obtain ⟨fs, hfs, hadds⟩ := hb.parts hfollows' htext' (hfree.behind hnames hrow hframes) hrest
    exact ⟨e :: fs, ⟨e, fs, rfl, he, hfs⟩, State.Adds.behind hrow hframes hadds⟩
  have hone : ReadsNamed (Printer.form .other (.seq a b)) (Form.seq a b).names Anything
      (Written (Form.seq a b).reread) := by
    intro s z rest hfollows htext hfree _
    rw [(Form.names_append a b).1] at hfree
    have htext' : s.cursor.rest =
        '(' :: '?' :: ([] ++ ':' :: ((Printer.form .other a ++ Printer.form .seq b) ++
        ')' :: rest)) := by
      simp [htext, Printer.form, Printer.bracketed]
    obtain ⟨span, es, row, stop, ⟨e, fs, rfl, he, hfs⟩, hrow, hadds⟩ :=
      (hfollows.enters_scoped .none htext').encloses fun s' hfollows' htext' hfree' =>
        hparts hfollows' htext' (hfree' _ hfree) (by simp [NoMark])
    have hmany : 1 < (e :: fs).length := by
      have hpos := length_pos_of_parts hfs
      rw [List.length_cons]
      omega
    rw [Row.toExpr_of_many hrow hmany] at hadds
    exact ⟨_, .seq span _ he hfs, hadds⟩
  refine ⟨hone.anywhere _, nofun, ?_, fun hfollows htext hfree hrest hitems hframes =>
    branches_of_one (hone.anywhere _) hfollows htext hfree hrest hitems hframes⟩
  intro s z rest hfollows htext hfree hrest
  obtain ⟨es, ⟨e, fs, rfl, he, hfs⟩, hadds⟩ :=
    hparts hfollows htext ((Form.names_append a b).1 ▸ hfree) hrest
  exact ⟨_, .cons he hfs, hadds⟩

theorem readable_alt {a b : Form} (ha : Readable a) (hb : Readable b) : Readable (.alt a b) := by
  -- behind the first branch the names of the others are still free
  have hfirst : ∀ {s z : State} {rest : List Char}, s.Follows z →
      s.cursor.rest = Printer.form .other a ++ '|' :: rest → s.Free (a.names ++ b.names) →
        s.row.items = [] →
      ∃ (e : Expr) (s₂ s₃ : State), Written a.reread e ∧ s₃.Follows z ∧ s₃.cursor.rest = rest ∧
        s₃.row.items = [] ∧ s₃.Free b.names ∧
        (∀ {start bs frames}, s.frames = .alternation start bs :: frames →
          s₃.frames = .alternation start (e :: bs) :: frames) ∧
        ∀ {row start kind verbose frames}, s.frames = .group row start kind verbose :: frames →
          s₃.frames = .alternation s₂.row.start [e] :: s.frames := by
    intro s z rest hfollows htext hfree hitems
    obtain ⟨e, he, s₂, hfollows₂, htext₂, hrow₂, hframes₂⟩ :=
      ha.one s z _ hfollows htext hfree.left fun _ => by simp [NoMark]
    have hitems₂ : s₂.row.items = [e] := by simpa [hitems] using hrow₂
    have hnames : [e].flatMap Expr.names = a.names := by
      simpa using he.names.trans (Form.names_reread a)
    obtain ⟨s₃, hfollows₃, htext₃, hitems₃, hgroups, hlater, hopening⟩ :=
      hfollows₂.bar htext₂ hitems₂
    refine ⟨e, s₂, s₃, he, hfollows₃, htext₃, hitems₃, ?_,
      fun hframes => hlater (hframes₂.trans hframes),
      fun hframes => hframes₂ ▸ hopening (hframes₂.trans hframes)⟩
    rw [State.Free, hgroups]
    exact hfree.behind hnames hrow₂ hframes₂
  have hone : ReadsNamed (Printer.form .other (.alt a b)) (Form.alt a b).names Anything
      (Written (Form.alt a b).reread) := by
    intro s z rest hfollows htext hfree _
    rw [(Form.names_append a b).2] at hfree
    have htext' : s.cursor.rest = '(' :: '?' :: ([] ++ ':' :: (Printer.form .other a ++ '|' ::
        (Printer.form .alt b ++ ')' :: rest))) := by
      simp [htext, Printer.form, Printer.bracketed]
    obtain ⟨span, body, ⟨inner, e, fs, he, hfs, rfl⟩, hadds⟩ :=
      (hfollows.enters_scoped .none htext').adds
      (P := fun body => ∃ (inner : Span) (e : Expr) (fs : List Expr), Written a.reread e ∧
        WrittenBranches b.reread fs ∧ body = .alternation inner (e :: fs)) (by
      intro s₁ hfollows₁ htext₁ hitems₁ hframes₁
      obtain ⟨start, hframes₁⟩ := hframes₁
      obtain ⟨e, s₂, s₃, he, hfollows₃, htext₃, hitems₃, hfree₃, -, hopening⟩ :=
        hfirst hfollows₁ htext₁ (hfree.inside hitems₁ hframes₁) hitems₁
      obtain ⟨es, e', s₄, hes, hfollows₄, htext₄, hitems₄, hframes₄⟩ :=
        hb.branches hfollows₃ htext₃ hfree₃ (by simp [NoMark]) hitems₃ (hopening hframes₁)
      refine ⟨s₄, _, ⟨⟨s₂.row.start, s₄.cursor.offset⟩, e, es ++ [e'], he, hes, rfl⟩,
        hfollows₄, htext₄, ?_⟩
      rw [hframes₄, collect, Row.toExpr, hitems₄]
      simp)
    exact ⟨_, .alt span inner he hfs, hadds⟩
  refine ⟨hone.anywhere _, nofun, fun hfollows htext hfree hrest =>
    parts_of_one (hone.anywhere _) hfollows htext hfree hrest, ?_⟩
  intro s z rest start bs frames hfollows htext hfree hrest hitems hframes
  rw [(Form.names_append a b).2] at hfree
  have htext' : s.cursor.rest = Printer.form .other a ++ '|' :: (Printer.form .alt b ++ rest) := by
    simp [htext, Printer.form, Printer.bracketed]
  obtain ⟨e, s₂, s₃, he, hfollows₃, htext₃, hitems₃, hfree₃, hlater, -⟩ :=
    hfirst hfollows htext' hfree hitems
  obtain ⟨es, e', s₄, hes, hfollows₄, htext₄, hitems₄, hframes₄⟩ :=
    hb.branches hfollows₃ htext₃ hfree₃ hrest hitems₃ (hlater hframes)
  exact ⟨e :: es, e', s₄, .cons he hes, hfollows₄, htext₄, hitems₄, by simp [hframes₄]⟩

theorem readable {f : Form} (hsound : f.Sound) (htitled : f.Titled) (hbytes : f.Bytewise) :
    Readable f := by
  have hleft : ∀ {a b : Form}, (∀ name ∈ a.names ++ b.names, Named [] name) → a.Titled :=
    fun h name hname =>
    h name (List.mem_append_left _ hname)
  have hright : ∀ {a b : Form}, (∀ name ∈ a.names ++ b.names, Named [] name) → b.Titled :=
    fun h name hname =>
    h name (List.mem_append_right _ hname)
  induction f with
  | empty => exact readable_of_closed rfl rfl rfl (reads_empty.named _)
  | look l =>
    have hbytewise := hbytes l (List.mem_singleton_self l)
    exact readable_of_closed rfl rfl rfl ((reads_look hbytewise).named _)
  | literal bs => exact readable_of_closed rfl rfl rfl ((reads_literal hsound).named _)
  | bytes s => exact readable_of_closed rfl rfl rfl ((reads_bytes hsound).named _)
  | chars s => exact readable_of_closed rfl rfl rfl ((reads_chars hsound).named _)
  | iterate min max greedy sub ih => exact readable_iterate (ih hsound.2 htitled hbytes) hsound.1
  | group i name sub ih =>
    have hsub : sub.Titled := by
      intro n hn
      refine htitled n ?_
      cases name with
      | none => exact hn
      | some m => exact List.mem_cons_of_mem _ hn
    refine readable_group (ih hsound hsub hbytes) hsound fun n hn => htitled n ?_
    rw [Option.mem_def.mp hn]
    exact List.mem_cons_self
  | seq a b iha ihb =>
    rw [Form.Titled, (Form.names_append a b).1] at htitled
    have ha := iha hsound.1 (hleft htitled) fun l h => hbytes l (List.mem_append_left _ h)
    have hb := ihb hsound.2 (hright htitled) fun l h => hbytes l (List.mem_append_right _ h)
    exact readable_seq ha hb hsound.2
  | alt a b iha ihb =>
    rw [Form.Titled, (Form.names_append a b).2] at htitled
    have ha := iha hsound.1 (hleft htitled) fun l h => hbytes l (List.mem_append_left _ h)
    have hb := ihb hsound.2 (hright htitled) fun l h => hbytes l (List.mem_append_right _ h)
    exact readable_alt ha hb

end Forms

end Parser

end Keypad.Pattern
