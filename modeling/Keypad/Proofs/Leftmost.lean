import Keypad.Proofs.Preferred
/-!
Where the preferred match stands in the text. A thread that gets from a place to the end of the
program has a route there that comes to no place twice. So there is a preferred match exactly when
some word within the text is matched; the word that it takes is matched too, and no word that begins
earlier is.
-/
namespace Keypad.Automaton.Program

open Keypad.Pattern

variable {p : Program} {past : Set Place} {options route : List Place} {x y : Place}
  {before word after text : List UInt8}

def Spans (route : List Place) (before word after : List UInt8) : Prop :=
  ∃ pc pc', route.head? = some ⟨pc, before, word ++ after⟩ ∧
    route.getLast? = some ⟨pc', before ++ word, after⟩

section Existence

theorem Route.of_mem (h : p.Route past [x] route) (hx : x ∈ options) :
    p.Route past options route := by
  cases h with
  | last hmem hnew ha => exact .last (List.mem_singleton.mp hmem ▸ hx) hnew ha
  | step hmem hnew h => exact .step (List.mem_singleton.mp hmem ▸ hx) hnew h

theorem Route.runs (h : p.Route past options route) : ∃ x ∈ options, ∃ n word y,
    route.head? = some x ∧ route.getLast? = some y ∧ y.before = x.before ++ word ∧
    x.after = word ++ y.after ∧
      p.Runs holdsAt n x.pc x.before word y.after y.pc ∧ p.isAccept y.pc = true := by
  induction h with
  | @last _ _ x hx _ ha => exact ⟨x, hx, 0, [], x, rfl, rfl, by simp, rfl, .stay, ha⟩
  | @step _ _ x route hx _ h ih =>
    obtain ⟨y, hy, n, word, z, hhead, hlast, hbefore, hafter, r, ha⟩ := ih
    have hlast' : (x :: route).getLast? = some z := by simp [List.getLast?_cons, hlast]
    rcases List.mem_append.mp hy with hy | hy
    · obtain ⟨w, hw, rfl⟩ := List.mem_map.mp hy
      exact ⟨x, hx, n + 1, word, z, rfl, hlast', hbefore, hafter, .skip (hafter ▸ hw) r, ha⟩
    · obtain ⟨b, rest, next, hrest, hread, rfl⟩ := eq_of_mem_readOn hy
      obtain rfl : rest = word ++ z.after := hafter
      exact ⟨x, hx, n + 1, b :: word, z, rfl, hlast', by simpa using hbefore, hrest,
        .read hread r, ha⟩

theorem best_ne_none_of_mem (hy : y ∈ p.ways x) (h : p.best ∅ [y] ≠ none) :
    p.best ∅ [x] ≠ none := by
  intro hnone
  cases ha : p.isAccept x.pc with
  | true =>
    rw [best_of_isAccept (Set.notMem_empty _) ha] at hnone
    cases hnone
  | false =>
    -- nothing comes of the place, so it does not matter that the ways on must not come back to it
    have hways : p.best (insert x ∅) (p.ways x) = none := by
      have hbest := best_of_new (Set.notMem_empty x) ha
      rw [hnone] at hbest
      exact Option.map_eq_none_iff.mp hbest.symm
    rw [best_insert hnone, best_eq_none_iff] at hways
    exact h (best_eq_none_iff.mpr fun route hroute => hways route (hroute.of_mem hy))

theorem Runs.exists_route {n pc pc' : Nat} (r : p.Runs holdsAt n pc before word after pc')
    (ha : p.isAccept pc' = true) : ∃ route, p.Route ∅ [⟨pc, before, word ++ after⟩] route := by
  suffices hbest : p.best ∅ [⟨pc, before, word ++ after⟩] ≠ none by
    by_contra hnone
    exact hbest (best_eq_none_iff.mpr (not_exists.mp hnone))
  induction r with
  | stay =>
    rw [best_of_isAccept (Set.notMem_empty _) ha]
    exact Option.some_ne_none _
  | skip hb _ ih =>
    exact best_ne_none_of_mem (List.mem_append_left _ (List.mem_map_of_mem hb)) (ih ha)
  | read hb _ ih =>
    refine best_ne_none_of_mem (List.mem_append_right _ ?_) (ih ha)
    rw [List.cons_append, readOn_cons, hb]
    exact List.mem_singleton_self _

end Existence

section Openings

theorem mem_openings : x ∈ openings before text ↔
    ∃ skipped after, text = skipped ++ after ∧ x = ⟨0, before ++ skipped, after⟩ := by
  induction text generalizing before with
  | nil => simp [openings, eq_comm]
  | cons b text ih =>
    rw [openings, List.mem_cons, ih]
    constructor
    · rintro (rfl | ⟨skipped, after, rfl, rfl⟩)
      · exact ⟨[], b :: text, rfl, by simp⟩
      · exact ⟨b :: skipped, after, rfl, by simp⟩
    · rintro ⟨_ | ⟨c, skipped⟩, after, htext, rfl⟩
      · exact .inl (by simpa using htext.symm)
      · obtain ⟨rfl, rfl⟩ := List.cons.inj htext
        exact .inr ⟨skipped, after, rfl, by simp⟩

theorem pairwise_openings (before text : List UInt8) :
    (openings before text).Pairwise (·.before.length < ·.before.length) := by
  induction text generalizing before with
  | nil => exact List.pairwise_singleton _ _
  | cons b text ih =>
    refine List.pairwise_cons.mpr ⟨fun x hx => ?_, ih _⟩
    obtain ⟨skipped, after, -, rfl⟩ := mem_openings.mp hx
    simp

theorem length_lt_of_idxOf_lt (hx : x ∈ openings before text) (hy : y ∈ openings before text)
    (h : (openings before text).idxOf x < (openings before text).idxOf y) :
    x.before.length < y.before.length := by
  have hlt := List.pairwise_iff_getElem.mp (pairwise_openings before text) _ _
    (List.idxOf_lt_length_of_mem hx)
    (List.idxOf_lt_length_of_mem hy) h
  rwa [List.getElem_idxOf, List.getElem_idxOf] at hlt

theorem LeftmostFirst.leftmost (h : p.LeftmostFirst text route) (hx : route.head? = some x)
    (hy : y ∈ openings [] text) {other : List Place} (hother : p.Route ∅ [y] other) :
    x.before.length ≤ y.before.length := by
  obtain ⟨rest', rfl⟩ : ∃ rest', other = y :: rest' := by
    cases hother with
    | last hmem => exact ⟨_, by rw [List.mem_singleton.mp hmem]⟩
    | step hmem => exact ⟨_, by rw [List.mem_singleton.mp hmem]⟩
  obtain ⟨rest, rfl⟩ : ∃ rest, route = x :: rest := List.head?_eq_some_iff.mp hx
  rcases h.2 _ (hother.of_mem hy) with heq | hprecedes
  · obtain ⟨rfl, -⟩ := List.cons.inj heq
    exact Nat.le_refl _
  · cases hprecedes with
    | here hlt => exact (length_lt_of_idxOf_lt h.1.head_mem.1 hy hlt).le
    | later => exact Nat.le_refl _

end Openings

section Form

variable {f : Form}

/-- The leftmost-first route takes a word that the form matches, and the form matches none that
begins earlier. -/
theorem leftmostFirst_ofForm (hf : f.Regular) (h : (ofForm f).LeftmostFirst text route) :
    ∃ before word after, text = before ++ word ++ after ∧ Spans route before word after ∧
      f.MatchesUnder holdsAt before word after ∧ ∀ before' word' after',
      text = before' ++ word' ++ after' →
        f.MatchesUnder holdsAt before' word' after' → before.length ≤ before'.length := by
  obtain ⟨x, hx, n, word, y, hhead, hlast, hbefore, hafter, r, ha⟩ := h.1.runs
  obtain ⟨before, rest, htext, rfl⟩ := mem_openings.mp hx
  obtain ⟨pc, before', after⟩ := y
  obtain rfl : before' = before ++ word := hbefore
  obtain rfl : rest = word ++ after := hafter
  refine ⟨before, word, after, by simpa using htext, ⟨0, pc, hhead, hlast⟩,
    (runs_ofForm hf).mp ⟨n, pc, r, ha⟩, ?_⟩
  intro before' word' after' htext' hmatches
  obtain ⟨n', pc', r', ha'⟩ := (runs_ofForm hf).mpr hmatches
  obtain ⟨other, hother⟩ := r'.exists_route ha'
  exact h.leftmost hhead (mem_openings.mpr
    ⟨before', word' ++ after', by simpa using htext', rfl⟩) hother

theorem LeftmostFirst.unique {other : List Place} (h : p.LeftmostFirst text route)
    (h' : p.LeftmostFirst text other) :
    route = other :=
  Option.some.inj ((best_openings_iff.mpr h).symm.trans (best_openings_iff.mpr h'))

theorem exists_leftmostFirst_ofForm (hf : f.Regular) :
    (∃ route, (ofForm f).LeftmostFirst text route) ↔
    ∃ before word after, text = before ++ word ++ after ∧
      f.MatchesUnder holdsAt before word after := by
  constructor
  · rintro ⟨route, h⟩
    obtain ⟨before, word, after, htext, -, hmatches, -⟩ := leftmostFirst_ofForm hf h
    exact ⟨before, word, after, htext, hmatches⟩
  · rintro ⟨before, word, after, htext, hmatches⟩
    obtain ⟨n, pc, r, ha⟩ := (runs_ofForm hf).mpr hmatches
    obtain ⟨route, hroute⟩ := r.exists_route ha
    have hmem : (⟨0, before, word ++ after⟩ : Place) ∈ openings [] text :=
      mem_openings.mpr ⟨before, word ++ after, by simpa using htext, rfl⟩
    have hsome : (ofForm f).best ∅ (openings [] text) ≠ none := fun hnone =>
      best_eq_none_iff.mp hnone route (hroute.of_mem hmem)
    obtain ⟨first, hfirst⟩ := Option.ne_none_iff_exists'.mp hsome
    exact ⟨first, best_openings_iff.mp hfirst⟩

theorem holdsBetween_eq {l : Look} (hl : l.isUnicode = false) (before after : List UInt8) :
    holdsBetween before.reverse after l = passesAt before after l := by
  have hlast : before.reverse.head? = before.getLast? := List.head?_reverse
  cases l with
  | wordEdge kind unicode =>
    obtain rfl : unicode = false := hl
    simp only [holdsBetween, passesAt, hlast]
  | _ => simp only [holdsBetween, passesAt, hlast]

theorem isSome_preferredMatch (hf : f.Regular) (hascii : ∀ l ∈ f.looks, l.isUnicode = false)
    (bytes : List UInt8) : ((ofForm f).preferredMatch bytes).isSome = true ↔
      ∃ before word after, bytes = before ++ word ++ after ∧ f.Matches before word after := by
  have hunder : f.MatchesUnder holdsAt = f.Matches := by
    rw [← f.matchesUnder_passesAt]
    exact Form.matchesUnder_congr fun l hl => holdsBetween_eq (hascii l hl)
  rw [← hunder, ← exists_leftmostFirst_ofForm hf, Option.isSome_iff_exists]
  constructor
  · rintro ⟨trail, htrail⟩
    obtain ⟨route, hroute, -⟩ := preferredMatch_eq_some_iff.mp htrail
    exact ⟨route, hroute⟩
  · rintro ⟨route, hroute⟩
    exact ⟨_, preferredMatch_eq_some_iff.mpr ⟨route, hroute, rfl⟩⟩

end Form

end Keypad.Automaton.Program
