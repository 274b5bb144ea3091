import Keypad.Proofs.Contract
/-!
Whether a buffer that begins a match can be completed. Some bytes always complete it. Symbols do
where every literal of the pattern is made of symbols and every class holds, beside each of its
words, a symbol that the conditions of the pattern cannot tell from it: a match is then respelled
symbol by symbol, and what was pressed already stays as it is.
-/
namespace Keypad

open Keypad.Automaton Keypad.Pattern Keypad.Charset

namespace Pattern

def Edge.Alike (ends : Bool) (d e : Edge) : Prop := d = e ∨ (ends = true ∧ d ≠ .none ∧ e ≠ .none)

def Look.atEnds : Look → Bool
  | .textStart | .textEnd => true
  | _ => false

variable {ends : Bool} {d e : Edge}

theorem Edge.Alike.refl (e : Edge) : e.Alike ends e := Or.inl rfl

theorem Edge.Alike.none_iff (h : d.Alike ends e) : d = .none ↔ e = .none := by
  rcases h with rfl | ⟨-, hd, he⟩
  · rfl
  · simp [hd, he]

theorem Look.holds_of_alike {l : Look} (hl : ends = true → l.atEnds = true) {d' e' : Edge}
    (hd : d.Alike ends d') (he : e.Alike ends e') (h : l.holds d e = true) :
    l.holds d' e' = true := by
  cases ends with
  | false =>
    obtain rfl : d = d' := hd.resolve_right (by simp)
    obtain rfl : e = e' := he.resolve_right (by simp)
    exact h
  | true =>
    have hends := hl rfl
    cases l with
    | textStart => simpa [holds, hd.none_iff] using h
    | textEnd => simpa [holds, he.none_iff] using h
    | _ => simp [atEnds] at hends

def StandsFor (ends : Bool) (s : Symbol) (word : List UInt8) : Prop :=
  (Edge.ofByte? word.head?).Alike ends (Edge.ofByte s.byte) ∧
    (Edge.ofByte? word.getLast?).Alike ends (Edge.ofByte s.byte)

/-- A text in which symbols are kept and each stretch of other bytes is traded for a symbol. -/
inductive Respelled (ends : Bool) : List UInt8 → List UInt8 → Prop
  | nil : Respelled ends [] []
  | keep {text text'} (s : Symbol) : Respelled ends text text' →
      Respelled ends (s.byte :: text) (s.byte :: text')
  | trade {b more text text'} (s : Symbol) (hother : ∀ t : Symbol, t.byte ≠ b)
      (hstands : StandsFor ends s (b :: more)) : Respelled ends text text' →
      Respelled ends (b :: more ++ text) (s.byte :: text')

namespace Respelled

variable {text text' other other' : List UInt8}

theorem of_forall_mem (h : ∀ b ∈ text, ∃ symbol : Symbol, symbol.byte = b) :
    Respelled ends text text := by
  induction text with
  | nil => exact nil
  | cons b text ih =>
    obtain ⟨⟨symbol, rfl⟩, hrest⟩ := List.forall_mem_cons.mp h
    exact keep symbol (ih hrest)

theorem append (h : Respelled ends text text') (h' : Respelled ends other other') :
    Respelled ends (text ++ other) (text' ++ other') := by
  induction h with
  | nil => exact h'
  | keep s _ ih => exact keep s ih
  | trade s hother hstands _ ih =>
    rw [List.append_assoc]
    exact trade s hother hstands ih

theorem head (h : Respelled ends text text') {after after' : List UInt8}
    (hafter : (Edge.ofByte? after.head?).Alike ends (Edge.ofByte? after'.head?)) :
    (Edge.ofByte? (text ++ after).head?).Alike ends (Edge.ofByte? (text' ++ after').head?) := by
  cases h with
  | nil => exact hafter
  | keep s _ => exact .refl _
  | trade s _ hstands _ => exact hstands.1

theorem last (h : Respelled ends text text') {before before' : List UInt8}
    (hbefore : (Edge.ofByte? before.getLast?).Alike ends (Edge.ofByte? before'.getLast?)) :
    (Edge.ofByte? (before ++ text).getLast?).Alike ends
      (Edge.ofByte? (before' ++ text').getLast?) := by
  induction h generalizing before before' with
  | nil => simpa using hbefore
  | keep s _ ih =>
    rw [List.append_cons before, List.append_cons before']
    exact ih (by simpa using .refl _)
  | @trade b more _ _ s _ hstands _ ih =>
    rw [← List.append_assoc, List.append_cons before']
    refine ih ?_
    have hlast : (before ++ b :: more).getLast? = (b :: more).getLast? := by
      rw [List.getLast?_append, List.getLast?_cons]
      rfl
    rw [hlast, List.getLast?_concat]
    exact hstands.2

theorem exists_symbols (h : Respelled ends text text') :
    ∃ symbols : List Symbol, text' = symbols.map Symbol.byte ∧ (text ≠ [] → symbols ≠ []) := by
  induction h with
  | nil => exact ⟨[], rfl, fun h => absurd rfl h⟩
  | keep s _ ih | trade s _ _ _ ih =>
    obtain ⟨symbols, rfl, -⟩ := ih
    exact ⟨s :: symbols, rfl, by simp⟩

theorem of_symbols {symbols : List Symbol}
    (h : Respelled ends (symbols.map Symbol.byte ++ text) text') :
    ∃ rest, text' = symbols.map Symbol.byte ++ rest ∧ Respelled ends text rest := by
  induction symbols generalizing text' with
  | nil => exact ⟨text', rfl, h⟩
  | cons s symbols ih =>
    rw [List.map_cons, List.cons_append] at h
    generalize hwhole : s.byte :: (symbols.map Symbol.byte ++ text) = whole at h
    cases h with
    | nil => cases hwhole
    | keep t h =>
      obtain ⟨hbyte, rfl⟩ := List.cons.inj hwhole
      obtain ⟨rest, rfl, hrest⟩ := ih h
      exact ⟨rest, by rw [← hbyte, List.map_cons, List.cons_append], hrest⟩
    | trade t hother _ _ => exact absurd (List.cons.inj hwhole).1 (hother s)

end Respelled

def Offers (ends : Bool) (d : Domain) (s : Intervals) : Prop :=
  ∀ word, spells d s [] word [] →
    ∃ symbol : Symbol, spells d s [] [symbol.byte] [] ∧ StandsFor ends symbol word

theorem spells_ne_nil {d : Domain} {s : Intervals} : ¬ spells d s [] [] [] := by
  cases d with
  | byte => simp [spells]
  | scalar =>
    rintro ⟨c, -, hc⟩
    exact Text.Utf8.encodeChar_ne_nil c hc.symm

theorem encodeChar_of_symbol {c : Char} {s : Symbol} {more : List UInt8}
    (h : Text.Utf8.encodeChar c = s.byte :: more) : more = [] := by
  have hlt := Text.Utf8.toNat_lt_of_char c
  have hs : s.byte.toNat < 0x80 := by cases s <;> decide
  rw [Text.Utf8.encodeChar_eq] at h
  split_ifs at h with hone htwo hthree
  · exact (List.cons.inj h).2.symm
  all_goals
    have hfirst := congrArg UInt8.toNat (List.cons.inj h).1
    rw [UInt8.toNat_ofNat'] at hfirst
    omega

section Offers

variable {d : Domain} {s : Intervals}

theorem offers_of_spells {symbol : Symbol} (h : spells d s [] [symbol.byte] []) :
    Offers true d s := by
  intro word hword
  have hne : word ≠ [] := by
    rintro rfl
    exact spells_ne_nil hword
  have halike : ∀ b : UInt8, (Edge.ofByte b).Alike true (Edge.ofByte symbol.byte) := fun b =>
    Or.inr ⟨rfl, Edge.ofByte_ne_none, Edge.ofByte_ne_none⟩
  refine ⟨symbol, h, ?_, ?_⟩
  · rw [List.head?_eq_some_head hne]
    exact halike _
  · rw [List.getLast?_eq_some_getLast hne]
    exact halike _

theorem Offers.respelled (h : Offers ends d s) {word : List UInt8}
    (hword : spells d s [] word []) :
    ∃ word', Respelled ends word word' ∧ spells d s [] word' [] := by
  obtain ⟨b, more, rfl⟩ : ∃ b more, word = b :: more := by
    refine List.exists_cons_of_ne_nil ?_
    rintro rfl
    exact spells_ne_nil hword
  by_cases hsymbol : ∃ symbol : Symbol, symbol.byte = b
  · obtain ⟨symbol, rfl⟩ := hsymbol
    obtain rfl : more = [] := by
      cases d with
      | byte =>
        obtain ⟨b, -, hb⟩ := hword
        exact (List.cons.inj hb).2
      | scalar =>
        obtain ⟨c, -, hc⟩ := hword
        exact encodeChar_of_symbol hc.symm
    exact ⟨_, .keep symbol .nil, hword⟩
  · obtain ⟨symbol, hspells, hstands⟩ := h _ hword
    have := Respelled.trade symbol (not_exists.mp hsymbol) hstands .nil
    rw [List.append_nil] at this
    exact ⟨_, this, hspells⟩

end Offers

namespace Form

/-- Literals are made of symbols and every class offers symbols. -/
def Pressable (ends : Bool) : Form → Prop
  | .literal bs => ∀ b ∈ bs, ∃ symbol : Symbol, symbol.byte = b
  | .bytes s => Offers ends .byte s
  | .chars s => Offers ends .scalar s
  | .iterate _ _ _ sub | .group _ _ sub => sub.Pressable ends
  | .seq a b | .alt a b => a.Pressable ends ∧ b.Pressable ends
  | .empty | .look _ => True

def Respells (ends : Bool) (R : Between) (before word after : List UInt8) : Prop :=
  ∃ word', Respelled ends word word' ∧ ∀ before' after',
    (Edge.ofByte? before.getLast?).Alike ends (Edge.ofByte? before'.getLast?) →
    (Edge.ofByte? after.head?).Alike ends (Edge.ofByte? after'.head?) → R before' word' after'

section Respells

variable {R S : Between} {before word after : List UInt8}

theorem Respells.append {u v : List UInt8} (hu : Respells ends R before u (v ++ after))
    (hv : Respells ends S (before ++ u) v after) :
    Respells ends (R.append S) before (u ++ v) after := by
  obtain ⟨u', hu, hR⟩ := hu
  obtain ⟨v', hv, hS⟩ := hv
  exact ⟨u' ++ v', hu.append hv, fun before' after' hbefore hafter =>
    ⟨u', v', rfl, hR _ _ hbefore (hv.head hafter), hS _ _ (hu.last hbefore) hafter⟩⟩

theorem Respells.power
    (h : ∀ before word after, R before word after → Respells ends R before word after) (n : Nat)
    (hpower : R.power n before word after) : Respells ends (R.power n) before word after := by
  induction n generalizing before word with
  | zero =>
    obtain rfl : word = [] := hpower
    exact ⟨[], .nil, fun _ _ _ _ => rfl⟩
  | succ n ih =>
    obtain ⟨u, v, rfl, hu, hv⟩ := hpower
    exact (h _ _ _ hu).append (ih hv)

end Respells

/-- What a pressable form matches it also matches when it is respelled. -/
theorem Pressable.respells {f : Form} (h : f.Pressable ends)
    (hlooks : ends = true → ∀ l ∈ f.looks, l.atEnds = true) {before word after : List UInt8}
    (hword : f.Matches before word after) : Respells ends f.Matches before word after := by
  induction f generalizing before word after with
  | empty =>
    obtain rfl : word = [] := hword
    exact ⟨[], .nil, fun _ _ _ _ => rfl⟩
  | look l =>
    obtain ⟨rfl, hholds⟩ := hword
    exact ⟨[], .nil, fun _ _ hbefore hafter =>
      ⟨rfl, Look.holds_of_alike (fun hends => hlooks hends l (List.mem_singleton_self l)) hbefore
        hafter hholds⟩⟩
  | literal bs =>
    obtain rfl : word = bs := hword
    exact ⟨word, .of_forall_mem h, fun _ _ _ _ => rfl⟩
  | bytes s =>
    obtain ⟨word', hrespelled, hspells⟩ := Offers.respelled h hword
    exact ⟨word', hrespelled, fun _ _ _ _ => hspells⟩
  | chars s =>
    obtain ⟨word', hrespelled, hspells⟩ := Offers.respelled h hword
    exact ⟨word', hrespelled, fun _ _ _ _ => hspells⟩
  | iterate min max greedy sub ih =>
    obtain ⟨n, hmin, hmax, hpower⟩ := hword
    obtain ⟨word', hrespelled, hmatch⟩ := Respells.power (fun _ _ _ => ih h hlooks) n hpower
    exact ⟨word', hrespelled, fun _ _ hbefore hafter => ⟨n, hmin, hmax, hmatch _ _ hbefore hafter⟩⟩
  | group i name sub ih => exact ih h hlooks hword
  | seq a b iha ihb =>
    obtain ⟨u, v, rfl, hu, hv⟩ := hword
    exact (iha h.1 (fun hends l hl => hlooks hends l (List.mem_append_left _ hl)) hu).append
      (ihb h.2 (fun hends l hl => hlooks hends l (List.mem_append_right _ hl)) hv)
  | alt a b iha ihb =>
    rcases hword with ha | hb
    · obtain ⟨word', hrespelled, hmatch⟩ :=
        iha h.1 (fun hends l hl => hlooks hends l (List.mem_append_left _ hl)) ha
      exact ⟨word', hrespelled, fun _ _ hbefore hafter => Or.inl (hmatch _ _ hbefore hafter)⟩
    · obtain ⟨word', hrespelled, hmatch⟩ :=
        ihb h.2 (fun hends l hl => hlooks hends l (List.mem_append_right _ hl)) hb
      exact ⟨word', hrespelled, fun _ _ hbefore hafter => Or.inr (hmatch _ _ hbefore hafter)⟩

end Form

end Pattern

namespace Matcher

variable {engine : Engine} {pattern : String} {limits : Limits} {m : Matcher}

/-- A buffer that begins a match can be completed by some bytes, and by symbols if the form is
pressable as far as its conditions can tell. -/
theorem potential_completes (h : compile engine pattern limits = .ok m) (symbols : List Symbol)
    (hpotential : m.classify symbols = .potentialMatch) :
    (∃ bytes, bytes ≠ [] ∧ (m.classifyBytes (symbols.map Symbol.byte ++ bytes)).full = true) ∧
      (m.form.Pressable (m.form.looks.all Look.atEnds) →
        ∃ more : List Symbol, more ≠ [] ∧ (m.classify (symbols ++ more)).full = true) := by
  obtain ⟨-, -, -, hlanguage⟩ := built_of_compile h
  obtain ⟨-, bytes, hne, hbytes⟩ := (classifyBytes_iff_language h _).2.2.1.mp hpotential
  refine ⟨⟨bytes, hne, (full_classifyBytes h _).mpr hbytes⟩, fun hpressable => ?_⟩
  obtain ⟨text, hrespelled, hmatch⟩ :=
    hpressable.respells (fun hends => List.all_eq_true.mp hends) ((hlanguage _).mpr hbytes)
  obtain ⟨rest, rfl, hrest⟩ := hrespelled.of_symbols
  obtain ⟨more, rfl, hmore⟩ := hrest.exists_symbols
  refine ⟨more, hmore hne, ?_⟩
  rw [classify, List.map_append, full_classifyBytes h, ← hlanguage]
  exact hmatch [] [] (.refl _) (.refl _)

/-- The pattern `1.` behind the key `1`: its class offers the key `0`. -/
theorem potential_completes_any : ∃ m : Matcher, compile .typical "1." ⟨none, none, false⟩ = .ok m ∧
    ∃ more : List Symbol, more ≠ [] ∧ (m.classify ([.digit1] ++ more)).full = true := by
  let any : Intervals := [⟨0, 9⟩, ⟨0x0B, 0xFF⟩]
  have hform : Form.parse false "1." = .ok (.seq (.literal [0x31]) (.bytes any)) := by
    decide +kernel
  obtain ⟨m, hm, heq⟩ : ∃ m, compile .typical "1." ⟨none, none, false⟩ = .ok m ∧ m.form = _ :=
    exists_compile_ok rfl rfl hform (by decide) rfl
  obtain ⟨-, -, -, hlanguage⟩ := built_of_compile hm
  have hwords : ∀ text, Language "1." text ↔
      ∃ b : UInt8, any.contains b.toNat = true ∧ text = [0x31, b] := by
    intro text
    rw [← hlanguage, heq]
    constructor
    · rintro ⟨_, _, rfl, rfl, b, hb, rfl⟩
      exact ⟨b, hb, rfl⟩
    · rintro ⟨b, hb, rfl⟩
      exact ⟨[0x31], [b], rfl, rfl, b, hb, rfl⟩
  have hpotential : m.classify [.digit1] = .potentialMatch := by
    refine (classifyBytes_iff_language hm _).2.2.1.mpr
      ⟨?_, [0x30], by simp, (hwords _).mpr ⟨0x30, rfl, rfl⟩⟩
    rw [hwords]
    rintro ⟨b, -, hb⟩
    simp at hb
  have hpressable : m.form.Pressable (m.form.looks.all Look.atEnds) := by
    rw [heq]
    have hzero : spells .byte any [] [Symbol.digit0.byte] [] := ⟨0x30, rfl, rfl⟩
    exact ⟨List.forall_mem_singleton.mpr ⟨.digit1, rfl⟩, offers_of_spells hzero⟩
  exact ⟨m, hm, (potential_completes hm [.digit1] hpotential).2 hpressable⟩

/-- Behind the key `1` the pattern `1a` can go on, but only with a byte that is no key. -/
theorem not_completed_by_symbols :
    ¬ ∀ (engine : Engine) (pattern : String) (limits : Limits) (m : Matcher),
    compile engine pattern limits = .ok m → ∀ symbols, m.classify symbols = .potentialMatch →
      ∃ more : List Symbol, more ≠ [] ∧ (m.classify (symbols ++ more)).full = true := by
  intro hall
  have hform : Form.parse false "1a" = .ok (.literal [0x31, 0x61]) := by decide +kernel
  obtain ⟨m, hm, -⟩ : ∃ m, compile .typical "1a" ⟨none, none, false⟩ = .ok m ∧ m.form = _ :=
    exists_compile_ok rfl rfl hform (by decide) rfl
  have hlanguage : ∀ text, Language "1a" text ↔ text = [0x31, 0x61] := fun text =>
    ((Form.language_of_parse hform).2 text).symm
  have hpotential : m.classify [.digit1] = .potentialMatch := by
    refine (classifyBytes_iff_language hm _).2.2.1.mpr ⟨?_, [0x61], by simp, (hlanguage _).mpr rfl⟩
    rw [hlanguage]
    decide
  obtain ⟨more, -, hfull⟩ := hall _ _ _ m hm _ hpotential
  rw [classify, full_classifyBytes hm, hlanguage] at hfull
  have hmem : (0x61 : UInt8) ∈ ([Symbol.digit1] ++ more).map Symbol.byte := hfull ▸ by simp
  obtain ⟨symbol, -, hsymbol⟩ := List.mem_map.mp hmem
  cases symbol <;> exact absurd hsymbol (by decide)

end Matcher

end Keypad
