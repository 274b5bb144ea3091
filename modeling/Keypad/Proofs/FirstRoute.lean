import Keypad.Proofs.Route
/-!
Finding the preferred route. A search that tries the options in their order, goes on along the ways
of a place that is new and comes back when they lead nowhere always ends, finds a route if there is
one, and finds the one that precedes all others. What the search need not look at again is stated
here too: an option from which nothing was found, and a past that cannot be reached.
-/
namespace Keypad.Automaton.Program

inductive Backtracks (p : Program) : Set Place → List Place → Option (List Place) → Prop
  | nil {past} : Backtracks p past [] none
  | again {past x rest r} (hx : x ∈ past) (h : Backtracks p past rest r) :
    Backtracks p past (x :: rest) r
  | arrives {past x rest} (hx : x ∉ past) (ha : p.isAccept x.pc = true) :
    Backtracks p past (x :: rest) (some [x])
  | succeeds {past x rest route} (hx : x ∉ past) (ha : p.isAccept x.pc = false)
    (h : Backtracks p (insert x past) (p.ways x) (some route)) :
    Backtracks p past (x :: rest) (some (x :: route))
  | fails {past x rest r} (hx : x ∉ past) (ha : p.isAccept x.pc = false)
    (h : Backtracks p (insert x past) (p.ways x) none) (t : Backtracks p past rest r) :
    Backtracks p past (x :: rest) r

variable {p : Program} {past past' : Set Place} {options more route other : List Place}
  {r r' : Option (List Place)} {x : Place}

theorem Route.behind (h : p.Route past options (x :: route)) (ha : p.isAccept x.pc = false) :
    p.Route (insert x past) (p.ways x) route := by
  cases h with
  | last _ _ haccept => cases haccept.symm.trans ha
  | step _ _ h => exact h

theorem Route.eq_of_isAccept (h : p.Route past options (x :: route)) (ha : p.isAccept x.pc = true) :
    route = [] := by
  cases h with
  | last => rfl
  | step _ _ h => exact absurd (ways_of_isAccept ha ▸ h) not_route_nil_options

namespace Backtracks

theorem sound (h : p.Backtracks past options r) : ∀ route ∈ r, p.Route past options route := by
  induction h with
  | nil => exact nofun
  | again _ _ ih => exact fun route hroute => route_cons_iff.mpr (.inr (ih route hroute))
  | arrives hx ha =>
    rintro _ ⟨⟩
    exact .last List.mem_cons_self hx ha
  | succeeds hx _ _ ih =>
    rintro _ ⟨⟩
    exact .step List.mem_cons_self hx (ih _ rfl)
  | fails _ _ _ _ _ iht => exact fun route hroute => route_cons_iff.mpr (.inr (iht route hroute))

theorem least (h : p.Backtracks past options r) :
    ∀ other, p.Route past options other →
      ∃ route ∈ r, other = route ∨ p.Precedes options route other := by
  induction h with
  | nil => exact fun other hother => absurd hother not_route_nil_options
  | @again past x rest r hx h ih =>
    intro other hother
    have hne : ∀ {route}, p.Route past rest route → ∀ y tail, route = y :: tail → y ≠ x := by
      rintro route hroute y tail rfl rfl
      exact hroute.head_mem.2 hx
    have hrest : p.Route past rest other := (route_cons_iff.mp hother).resolve_left fun hhead => by
      cases other with
      | nil => cases hhead
      | cons y tail => exact hhead.head_mem.2 (List.mem_singleton.mp hhead.head_mem.1 ▸ hx)
    obtain ⟨route, hroute, hle⟩ := ih other hrest
    exact ⟨route, hroute, hle.imp_right fun hlt =>
      hlt.cons (hne (h.sound route hroute)) (hne hrest)⟩
  | @arrives past x rest hx ha =>
    intro other hother
    refine ⟨[x], rfl, ?_⟩
    cases other with
    | nil => cases hother
    | cons y tail =>
      by_cases hy : y = x
      · subst hy
        exact .inl (by rw [hother.eq_of_isAccept ha])
      · refine .inr (.here ?_)
        rw [List.idxOf_cons_self, List.idxOf_cons_ne _ (Ne.symm hy)]
        exact Nat.succ_pos _
  | @succeeds past x rest route hx ha _ ih =>
    intro other hother
    refine ⟨x :: route, rfl, ?_⟩
    cases other with
    | nil => cases hother
    | cons y tail =>
      by_cases hy : y = x
      · subst hy
        obtain ⟨_, ⟨⟩, hle⟩ := ih tail (hother.behind ha)
        exact hle.imp (congrArg _) .later
      · refine .inr (.here ?_)
        rw [List.idxOf_cons_self, List.idxOf_cons_ne _ (Ne.symm hy)]
        exact Nat.succ_pos _
  | @fails past x rest r hx ha _ t ih iht =>
    intro other hother
    have hne : ∀ {options route},
        p.Route past options route → ∀ y tail, route = y :: tail → y ≠ x := by
      rintro options route hroute y tail rfl rfl
      obtain ⟨_, hnone, -⟩ := ih tail (hroute.behind ha)
      cases hnone
    have hrest : p.Route past rest other := (route_cons_iff.mp hother).resolve_left fun hhead => by
      cases other with
      | nil => cases hhead
      | cons y tail => exact hne hhead y tail rfl (List.mem_singleton.mp hhead.head_mem.1)
    obtain ⟨route, hroute, hle⟩ := iht other hrest
    exact ⟨route, hroute, hle.imp_right fun hlt =>
      hlt.cons (hne (t.sound route hroute)) (hne hrest)⟩

theorem unique (h : p.Backtracks past options r) (h' : p.Backtracks past options r') : r = r' := by
  induction h generalizing r' with
  | nil =>
    cases h'
    rfl
  | again hx _ ih =>
    cases h' with
    | again _ h => exact ih h
    | arrives hnew => exact absurd hx hnew
    | succeeds hnew => exact absurd hx hnew
    | fails hnew => exact absurd hx hnew
  | arrives hx ha =>
    cases h' with
    | again hold => exact absurd hold hx
    | arrives => rfl
    | succeeds _ hn => cases ha.symm.trans hn
    | fails _ hn => cases ha.symm.trans hn
  | succeeds hx ha _ ih =>
    cases h' with
    | again hold => exact absurd hold hx
    | arrives _ haccept => cases haccept.symm.trans ha
    | succeeds _ _ h => rw [Option.some.inj (ih h)]
    | fails _ _ h => cases ih h
  | fails hx ha _ _ ih iht =>
    cases h' with
    | again hold => exact absurd hold hx
    | arrives _ haccept => cases haccept.symm.trans ha
    | succeeds _ _ h => cases ih h
    | fails _ _ _ t => exact iht t

theorem append (h : p.Backtracks past options r) (h' : p.Backtracks past more r') :
    p.Backtracks past (options ++ more) (r.or r') := by
  induction h with
  | nil => exact h'
  | again hx _ ih => exact .again hx (ih h')
  | arrives hx ha => exact .arrives hx ha
  | succeeds hx ha h => exact .succeeds hx ha h
  | fails hx ha h _ _ iht => exact .fails hx ha h (iht h')

theorem congr (h : p.Backtracks past options r) {ahead : Set Place}
    (hways : ∀ x ∈ ahead, ∀ y ∈ p.ways x, y ∈ ahead) (hoptions : ∀ x ∈ options, x ∈ ahead)
    (hpast : ∀ x ∈ ahead, x ∈ past ↔ x ∈ past') :
    p.Backtracks past' options r := by
  induction h generalizing past' with
  | nil => exact .nil
  | again hx _ ih =>
    obtain ⟨hhead, hrest⟩ := List.forall_mem_cons.mp hoptions
    exact .again ((hpast _ hhead).mp hx) (ih hrest hpast)
  | arrives hx ha => exact .arrives (mt (hpast _ (hoptions _ List.mem_cons_self)).mpr hx) ha
  | @succeeds past x _ _ hx ha _ ih =>
    have hhead := hoptions x List.mem_cons_self
    refine .succeeds (mt (hpast x hhead).mpr hx) ha (ih (hways x hhead) fun y hy => ?_)
    rw [Set.mem_insert_iff, Set.mem_insert_iff, hpast y hy]
  | @fails past x _ _ hx ha _ _ ih iht =>
    obtain ⟨hhead, hrest⟩ := List.forall_mem_cons.mp hoptions
    refine .fails (mt (hpast x hhead).mpr hx) ha (ih (hways x hhead) fun y hy => ?_)
      (iht hrest hpast)
    rw [Set.mem_insert_iff, Set.mem_insert_iff, hpast y hy]

end Backtracks

section Total

def within (p : Program) (text : List UInt8) : Set Place :=
  {x | x.pc < p.size ∧ x.before ++ x.after = text}

theorem finite_within (p : Program) (text : List UInt8) : (p.within text).Finite := by
  refine Set.Finite.subset (Set.Finite.image
    (fun q : Nat × Nat => (⟨q.1, text.take q.2, text.drop q.2⟩ : Place))
    (Finset.range p.size ×ˢ Finset.range (text.length + 1)).finite_toSet) ?_
  rintro ⟨pc, before, after⟩ ⟨hpc, rfl⟩
  refine ⟨(pc, before.length), ?_, by simp⟩
  have hpc : pc < p.size := hpc
  simp only [Finset.coe_product, Finset.coe_range, Set.mem_prod, Set.mem_Iio, List.length_append]
  omega

theorem ncard_insert_lt {text : List UInt8} (hx : x ∈ p.within text) (hnew : x ∉ past) :
    (p.within text \ insert x past).ncard < (p.within text \ past).ncard := by
  refine Set.ncard_lt_ncard ⟨Set.sdiff_subset_sdiff_right (Set.subset_insert x past), fun h => ?_⟩
    (finite_within p text).sdiff
  exact (h ⟨hx, hnew⟩).2 (Set.mem_insert x past)

theorem exists_backtracks_within {text : List UInt8}
    (hoptions : ∀ x ∈ options, x.before ++ x.after = text) :
    ∃ r, p.Backtracks past options r := by
  induction hn : (p.within text \ past).ncard using Nat.strong_induction_on
    generalizing past options with
  | _ n ih =>
    induction options with
    | nil => exact ⟨none, .nil⟩
    | cons x rest ihrest =>
      obtain ⟨hx, hrest⟩ := List.forall_mem_cons.mp hoptions
      obtain ⟨r, hr⟩ := ihrest hrest
      by_cases hold : x ∈ past
      · exact ⟨r, .again hold hr⟩
      cases ha : p.isAccept x.pc with
      | true => exact ⟨some [x], .arrives hold ha⟩
      | false =>
        have hbehind : ∃ r', p.Backtracks (insert x past) (p.ways x) r' := by
          by_cases hpc : x.pc < p.size
          · exact ih _ (hn ▸ ncard_insert_lt ⟨hpc, hx⟩ hold)
              (fun y hy => (mem_ways hy).1.trans hx) rfl
          · rw [ways_of_size_le (Nat.le_of_not_lt hpc)]
            exact ⟨none, .nil⟩
        obtain ⟨_ | route, h⟩ := hbehind
        · exact ⟨r, .fails hold ha h hr⟩
        · exact ⟨some (x :: route), .succeeds hold ha h⟩

theorem exists_backtracks (p : Program) (past : Set Place) (options : List Place) :
    ∃ r, p.Backtracks past options r := by
  induction options with
  | nil => exact ⟨none, .nil⟩
  | cons x rest ih =>
    obtain ⟨r, h⟩ : ∃ r, p.Backtracks past [x] r :=
      exists_backtracks_within (List.forall_mem_singleton.mpr rfl)
    obtain ⟨r', h'⟩ := ih
    exact ⟨r.or r', h.append h'⟩

end Total

noncomputable def best (p : Program) (past : Set Place) (options : List Place) :
    Option (List Place) :=
  (p.exists_backtracks past options).choose

theorem backtracks_best (p : Program) (past : Set Place) (options : List Place) :
    p.Backtracks past options (p.best past options) :=
  (p.exists_backtracks past options).choose_spec

theorem Backtracks.best_eq (h : p.Backtracks past options r) : p.best past options = r :=
  (p.backtracks_best past options).unique h

@[simp] theorem best_nil : p.best past [] = none := Backtracks.nil.best_eq

@[simp] theorem best_append :
    p.best past (options ++ more) = (p.best past options).or (p.best past more) :=
  ((p.backtracks_best past options).append (p.backtracks_best past more)).best_eq

theorem best_of_mem (hx : x ∈ past) : p.best past [x] = none := (Backtracks.again hx .nil).best_eq

theorem best_of_isAccept (hx : x ∉ past) (ha : p.isAccept x.pc = true) :
    p.best past [x] = some [x] :=
  (Backtracks.arrives hx ha).best_eq

theorem best_of_new (hx : x ∉ past) (ha : p.isAccept x.pc = false) :
    p.best past [x] = (p.best (insert x past) (p.ways x)).map (x :: ·) := by
  have h := p.backtracks_best (insert x past) (p.ways x)
  cases hbest : p.best (insert x past) (p.ways x) with
  | none => exact (Backtracks.fails hx ha (hbest ▸ h) .nil).best_eq
  | some route => exact (Backtracks.succeeds hx ha (hbest ▸ h)).best_eq

theorem best_congr {ahead : Set Place} (hways : ∀ x ∈ ahead, ∀ y ∈ p.ways x, y ∈ ahead)
    (hoptions : ∀ x ∈ options, x ∈ ahead) (hpast : ∀ x ∈ ahead, x ∈ past ↔ x ∈ past') :
    p.best past options = p.best past' options :=
  (((p.backtracks_best past options).congr hways hoptions hpast).best_eq).symm

theorem best_eq_none_iff : p.best past options = none ↔ ∀ route, ¬ p.Route past options route := by
  constructor
  · intro hnone route hroute
    obtain ⟨_, hbest, -⟩ := (p.backtracks_best past options).least route hroute
    rw [hnone] at hbest
    cases hbest
  · intro hnone
    rw [Option.eq_none_iff_forall_ne_some]
    exact fun route hroute => hnone route ((p.backtracks_best past options).sound route hroute)

theorem best_eq_none_of_subset (h : p.best past options = none) (hle : past ⊆ past') :
    p.best past' options = none :=
  best_eq_none_iff.mpr fun route hroute => best_eq_none_iff.mp h route (hroute.anti hle)

theorem best_insert (hx : p.best past [x] = none) :
    p.best (insert x past) options = p.best past options := by
  have hprune : ∀ {past options r}, p.Backtracks past options r → p.best past [x] = none →
      p.Backtracks (insert x past) options r := by
    intro past options r h
    induction h with
    | nil => exact fun _ => .nil
    | again hy _ ih => exact fun hx => .again (Set.mem_insert_of_mem x hy) (ih hx)
    | @arrives past y _ hy ha =>
      intro hx
      refine .arrives ?_ ha
      rintro (rfl | hold)
      · rw [best_of_isAccept hy ha] at hx
        cases hx
      · exact hy hold
    | @succeeds past y _ route hy ha h ih =>
      intro hx
      have hne : y ≠ x := by
        rintro rfl
        rw [(Backtracks.succeeds hy ha h).best_eq] at hx
        cases hx
      refine .succeeds (fun hold => hold.elim hne hy) ha ?_
      rw [Set.insert_comm]
      exact ih (best_eq_none_of_subset hx (Set.subset_insert y past))
    | @fails past y _ r hy ha h _ ih iht =>
      intro hx
      by_cases hyx : y = x
      · exact .again (Set.mem_insert_iff.mpr (.inl hyx)) (iht hx)
      · refine .fails (fun hold => hold.elim hyx hy) ha ?_ (iht hx)
        rw [Set.insert_comm]
        exact ih (best_eq_none_of_subset hx (Set.subset_insert y past))
  exact (hprune (p.backtracks_best past options) hx).best_eq

/-- The search from the starts in a text finds the leftmost-first route. -/
theorem best_openings_iff {text : List UInt8} :
    p.best ∅ (openings [] text) = some route ↔ p.LeftmostFirst text route := by
  have h := p.backtracks_best ∅ (openings [] text)
  constructor
  · intro hbest
    rw [hbest] at h
    refine ⟨h.sound route rfl, fun other hother => ?_⟩
    obtain ⟨_, ⟨⟩, hle⟩ := h.least other hother
    exact hle
  · rintro ⟨hroute, hleast⟩
    obtain ⟨found, hfound, hle⟩ := h.least route hroute
    rcases hle with rfl | hbehind
    · exact hfound
    · rcases hleast found (h.sound found hfound) with rfl | hbefore
      · exact hfound
      · exact absurd hbefore hbehind.asymm

end Keypad.Automaton.Program
