import Keypad.Proofs.Reading
/-!
The groups and the conditions of a pattern. Building the normal form loses some and repeats none, so
what it has left stands in the order of the pattern; the reader numbers groups in that order and
gives no name twice.
-/
namespace Keypad.Pattern

namespace Form

structure Gathers {α : Type} (pick : Form → List α) : Prop where
  empty : pick .empty = []
  literal : ∀ bs, pick (.literal bs) = []
  bytes : ∀ s, pick (.bytes s) = []
  chars : ∀ s, pick (.chars s) = []
  seq : ∀ a b, pick (.seq a b) = pick a ++ pick b
  alt : ∀ a b, pick (.alt a b) = pick a ++ pick b

theorem gathers_groups : Gathers groups :=
  ⟨rfl, fun _ => rfl, fun _ => rfl, fun _ => rfl, fun _ _ => rfl, fun _ _ => rfl⟩

theorem gathers_looks : Gathers looks :=
  ⟨rfl, fun _ => rfl, fun _ => rfl, fun _ => rfl, fun _ _ => rfl, fun _ _ => rfl⟩

namespace Gathers

variable {α : Type} {pick : Form → List α} (h : Gathers pick)
include h

theorem ofParts (fs : List Form) : pick (Form.ofParts fs) = fs.flatMap pick := by
  induction fs with
  | nil => exact h.empty
  | cons f fs ih =>
    cases fs with
    | nil => simp [Form.ofParts]
    | cons g fs => rw [Form.ofParts, h.seq, ih, List.flatMap_cons] <;> simp

theorem ofBranches (fs : List Form) : pick (Form.ofBranches fs) = fs.flatMap pick := by
  induction fs with
  | nil => exact h.bytes []
  | cons f fs ih =>
    cases fs with
    | nil => simp [Form.ofBranches]
    | cons g fs => rw [Form.ofBranches, h.alt, ih, List.flatMap_cons] <;> simp

theorem parts (f : Form) : f.parts.flatMap pick = pick f := by
  induction f with
  | seq a b _ ih => rw [Form.parts, List.flatMap_cons, ih, h.seq]
  | _ => simp [Form.parts]

theorem branches (f : Form) : f.branches.flatMap pick = pick f := by
  induction f with
  | alt a b _ ih => rw [Form.branches, List.flatMap_cons, ih, h.alt]
  | _ => simp [Form.branches]

theorem joinLiterals (fs : List Form) : (Form.joinLiterals fs).flatMap pick = fs.flatMap pick := by
  fun_induction Form.joinLiterals fs with
  | case1 => rfl
  | case2 rest ih => rw [ih, List.flatMap_cons, h.empty, List.nil_append]
  | case3 bs rest cs more heq ih =>
    rw [heq, List.flatMap_cons, h.literal] at ih
    rw [List.flatMap_cons, List.flatMap_cons, h.literal, h.literal, ← ih]
    rfl
  | case4 bs rest heq ih => rw [List.flatMap_cons, ih, List.flatMap_cons]
  | case5 f rest _ _ ih => rw [List.flatMap_cons, ih, List.flatMap_cons]

theorem concat (fs : List Form) : pick (Form.concat fs) = fs.flatMap pick := by
  rw [Form.concat, h.ofParts, h.joinLiterals, List.flatMap_assoc]
  simp only [h.parts]

theorem classOf (d : Charset.Domain) (s : Charset.Intervals) : pick (Form.classOf d s) = [] := by
  unfold Form.classOf Form.fail
  split
  · exact h.bytes []
  · split <;> simp [h.literal, h.bytes, h.chars]

theorem letter (f : Flags) (l : Literal) : pick (f.literal l) = [] := by
  unfold Flags.literal
  extract_lets n cases
  split_ifs
  · exact h.literal _
  · exact h.literal _
  · exact h.classOf _ _

theorem iterated
    (hiterate : ∀ min max greedy sub, pick (.iterate min max greedy sub) = pick sub) (min : Nat)
    (max : Option Nat) (greedy : Bool) (f : Form) :
    (pick (Form.iterated min max greedy f)).Sublist (pick f) := by
  unfold Form.iterated
  extract_lets empty lo hi
  split_ifs
  · rw [h.empty]
    exact List.nil_sublist _
  · exact List.Sublist.refl _
  · rw [hiterate]

theorem merged? {fs : List Form} {f : Form} (hf : Form.merged? fs = some f) : pick f = [] := by
  obtain ⟨⟨d, s, rfl⟩, -⟩ := merged?_cases hf
  exact h.classOf d s

theorem sharedStart {fs common : List Form} {rests : List (List Form)}
    (hshared : sharedStart? fs = some (common, rests)) :
    (common.flatMap pick ++ rests.flatMap (·.flatMap pick)).Sublist (fs.flatMap pick) := by
  obtain ⟨hne, hparts, rfl⟩ := sharedStart?_eq_some hshared
  have hsplit : ∀ f ∈ fs, pick f =
      common.flatMap pick ++ (f.parts.drop common.length).flatMap pick := by
    intro f hf
    rw [← h.parts f, hparts f hf, List.flatMap_append]
    simp
  have hrest : ∀ gs : List Form, (∀ f ∈ gs, f ∈ fs) →
      ((gs.map (·.parts.drop common.length)).flatMap (·.flatMap pick)).Sublist
        (gs.flatMap pick) := by
    intro gs hgs
    induction gs with
    | nil => exact List.Sublist.refl _
    | cons g gs ih =>
      obtain ⟨hg, hgs⟩ := List.forall_mem_cons.mp hgs
      rw [List.map_cons, List.flatMap_cons, List.flatMap_cons, hsplit g hg]
      exact (List.sublist_append_right _ _).append (ih hgs)
  cases fs with
  | nil => exact absurd rfl hne
  | cons f fs =>
    rw [List.map_cons, List.flatMap_cons, List.flatMap_cons, hsplit f List.mem_cons_self,
      List.append_assoc]
    exact (List.Sublist.refl _).append
      ((List.Sublist.refl _).append (hrest fs fun g hg => List.mem_cons_of_mem _ hg))

theorem alternateWithin (fuel : Nat) (fs : List Form) :
    (pick (Form.alternateWithin fuel fs)).Sublist (fs.flatMap pick) := by
  induction fuel using Nat.strong_induction_on generalizing fs with
  | _ fuel ih =>
    have hbranches : (fs.flatMap Form.branches).flatMap pick = fs.flatMap pick := by
      rw [List.flatMap_assoc]
      simp only [h.branches]
    rw [← hbranches]
    rcases alternateWithin_cases fuel fs with
      heq | hmerged | ⟨less, common, rests, rfl, hshared, heq⟩
    · rw [heq, h.ofBranches]
    · rw [h.merged? hmerged]
      exact List.nil_sublist _
    · rw [heq, h.concat, List.flatMap_append, List.flatMap_singleton]
      refine List.Sublist.trans ?_ (h.sharedStart hshared)
      have hinner := ih less (Nat.lt_succ_self less) (rests.map Form.concat)
      rw [List.flatMap_map] at hinner
      simp only [h.concat] at hinner
      exact (List.Sublist.refl _).append hinner

theorem alternate (fs : List Form) : (pick (Form.alternate fs)).Sublist (fs.flatMap pick) :=
  h.alternateWithin _ fs

end Gathers

end Form

mutual

def Expr.groups : Expr → List (Nat × Option String)
  | .group _ (.capture index name) sub => (index, name) :: sub.groups
  | .group _ (.scoped _) sub | .iterate _ _ _ _ sub => sub.groups
  | .alternation _ items | .concat _ items => Expr.groupsOfAll items
  | _ => []

def Expr.groupsOfAll : List Expr → List (Nat × Option String)
  | [] => []
  | e :: rest => e.groups ++ Expr.groupsOfAll rest

end

def Expr.names (e : Expr) : List String := e.groups.filterMap Prod.snd

def Form.names (f : Form) : List String := f.groups.filterMap Prod.snd

theorem Expr.groupsOfAll_eq (es : List Expr) : Expr.groupsOfAll es = es.flatMap Expr.groups := by
  induction es with
  | nil => rfl
  | cons e es ih => rw [Expr.groupsOfAll, ih, List.flatMap_cons]

namespace Flags

open Form (gathers_groups)

mutual

/-- The groups that the normal form has left stand in the order of the pattern. -/
theorem groups_form {f g : Flags} {form : Form} (e : Expr) (h : f.form e = .ok (form, g)) :
    form.groups.Sublist e.groups := by
  cases e with
  | empty | flags | assertion =>
    obtain ⟨rfl, -⟩ := Prod.mk.inj (Except.ok.inj h)
    exact List.Sublist.refl _
  | literal l =>
    obtain ⟨rfl, -⟩ := Prod.mk.inj (Except.ok.inj h)
    rw [gathers_groups.letter]
    exact List.nil_sublist _
  | dot | short =>
    obtain ⟨rfl, -⟩ := Prod.mk.inj (Except.ok.inj h)
    exact (gathers_groups.classOf _ _).symm ▸ List.nil_sublist _
  | property span query negated =>
    obtain ⟨s, -, rfl, -⟩ := form_property_eq_ok.mp h
    exact (gathers_groups.classOf _ _).symm ▸ List.nil_sublist _
  | bracketed span negated body =>
    obtain ⟨s, -, rfl, -⟩ := form_bracketed_eq_ok.mp h
    exact (gathers_groups.classOf _ _).symm ▸ List.nil_sublist _
  | iterate span min max greedy sub =>
    obtain ⟨inner, hinner, rfl⟩ := form_iterate_eq_ok.mp h
    exact (gathers_groups.iterated (fun _ _ _ _ => rfl) _ _ _ _).trans (groups_form sub hinner)
  | group span kind sub =>
    rcases kind with ⟨index, name⟩ | items
    · obtain ⟨inner, g', hinner, rfl, -⟩ := form_capture_eq_ok.mp h
      exact (groups_form sub hinner).cons_cons _
    · obtain ⟨g', hinner, -⟩ := form_scoped_eq_ok.mp h
      exact groups_form sub hinner
  | alternation span items =>
    obtain ⟨branches, hbranches, rfl⟩ := form_alternation_eq_ok.mp h
    exact (gathers_groups.alternate _).trans (groups_forms items hbranches)
  | concat span items =>
    obtain ⟨parts, hparts, rfl⟩ := form_concat_eq_ok.mp h
    rw [gathers_groups.concat]
    exact groups_forms items hparts

theorem groups_forms {f g : Flags} {fs : List Form} (es : List Expr)
    (h : f.forms es = .ok (fs, g)) : (fs.flatMap Form.groups).Sublist (Expr.groupsOfAll es) := by
  cases es with
  | nil =>
    obtain ⟨rfl, -⟩ := forms_nil_eq_ok.mp h
    exact List.Sublist.refl _
  | cons e es =>
    obtain ⟨first, _, others, hfirst, hothers, rfl⟩ := forms_cons_eq_ok.mp h
    exact (groups_form e hfirst).append (groups_forms es hothers)

end

end Flags

namespace Parser

variable {s s' : State}

def groupsOfKind : GroupKind → List (Nat × Option String)
  | .capture index name => [(index, name)]
  | .scoped _ => []

def groupsOfRow (items : List Expr) : List (Nat × Option String) :=
  items.reverse.flatMap Expr.groups

def Frame.groups : Frame → List (Nat × Option String)
  | .group outer _ kind _ => groupsOfRow outer.items ++ groupsOfKind kind
  | .alternation _ branches => groupsOfRow branches

def State.groups (s : State) : List (Nat × Option String) :=
  s.frames.reverse.flatMap Frame.groups ++ groupsOfRow s.row.items

/-- Groups are numbered in the order in which they open, and each name is given once. -/
structure State.Numbered (s : State) : Prop where
  indices : s.groups.map Prod.fst = List.range' 1 s.captures
  names : s.groups.filterMap Prod.snd = s.names.reverse
  nodup : s.names.Nodup
  named : ∀ name ∈ s.names, Named [] name

@[simp] theorem groupsOfRow_cons (e : Expr) (items : List Expr) :
    groupsOfRow (e :: items) = groupsOfRow items ++ e.groups := by
  simp [groupsOfRow]

@[simp] theorem groups_toExpr (row : Row) (stop : Nat) :
    (row.toExpr stop).groups = groupsOfRow row.items := by
  unfold Row.toExpr
  split
  · next heq => rw [heq]; rfl
  · next e heq => rw [heq, groupsOfRow_cons]; rfl
  · rw [Expr.groups, Expr.groupsOfAll_eq, groupsOfRow]

theorem groups_collect {row : Row} {stop : Nat} {frames rest : List Frame} {body : Expr}
    (h : collect row stop frames = (body, rest)) :
    rest.reverse.flatMap Frame.groups ++ body.groups =
      frames.reverse.flatMap Frame.groups ++ groupsOfRow row.items := by
  unfold collect at h
  split at h
  · next start branches rest' =>
    obtain ⟨rfl, rfl⟩ := Prod.mk.inj h
    rw [Expr.groups, Expr.groupsOfAll_eq]
    simp [Frame.groups, groupsOfRow]
  · obtain ⟨rfl, rfl⟩ := Prod.mk.inj h
    rw [groups_toExpr]

theorem groups_of_plain {e : Expr} (h : Plain e) : e.groups = [] := by
  cases e with
  | literal | flags | dot | assertion | property | short | bracketed => rfl
  | empty | iterate | group | alternation | concat => exact h.elim

@[simp] theorem State.groups_open (s : State) (start : Nat) (kind : GroupKind) (verbose : Bool)
    (c : Cursor) : (s.open start kind verbose c).groups = s.groups ++ groupsOfKind kind := by
  simp [State.groups, State.open, Frame.groups, groupsOfRow]

theorem groups_nextBranch (s : State) : (nextBranch s).groups = s.groups := by
  unfold nextBranch State.groups
  dsimp only
  split
  · next start branches rest heq =>
    rw [heq]
    simp [Frame.groups, groupsOfRow]
  · simp [Frame.groups, groupsOfRow]

theorem State.Numbered.moves (h : s.Numbered) (hm : Moves s s') : s'.Numbered := by
  cases hm with
  | @plain e verbose c he =>
    have hgroups : ({ s with cursor := c, verbose, row := s.row.push e } : State).groups =
        s.groups := by
      simp [State.groups, Row.push, groups_of_plain he]
    exact ⟨hgroups ▸ h.indices, hgroups ▸ h.names, h.nodup, h.named⟩
  | @repeated e rest min max greedy span c hitems hcount =>
    have hgroups : ({ s with cursor := c, row :=
      ⟨s.row.start, .iterate span min max greedy e :: rest⟩ } :
        State).groups = s.groups := by
      simp [State.groups, hitems, Expr.groups]
    exact ⟨hgroups ▸ h.indices, hgroups ▸ h.names, h.nodup, h.named⟩
  | @named name start c hname =>
    refine ⟨?_, ?_, List.nodup_cons.mpr ⟨hname.fresh, h.nodup⟩,
      List.forall_mem_cons.mpr ⟨{ hname with fresh := List.not_mem_nil }, h.named⟩⟩
    · rw [State.groups_open, List.map_append]
      show s.groups.map Prod.fst ++ [s.captures + 1] = List.range' 1 (s.captures + 1)
      rw [h.indices, List.range'_concat]
      simp [Nat.add_comm]
    · rw [State.groups_open, List.filterMap_append]
      show s.groups.filterMap Prod.snd ++ [name] = (name :: s.names).reverse
      rw [h.names, List.reverse_cons]
  | unnamed start c =>
    refine ⟨?_, ?_, h.nodup, h.named⟩
    · rw [State.groups_open, List.map_append]
      show s.groups.map Prod.fst ++ [s.captures + 1] = List.range' 1 (s.captures + 1)
      rw [h.indices, List.range'_concat]
      simp [Nat.add_comm]
    · rw [State.groups_open, List.filterMap_append]
      show s.groups.filterMap Prod.snd ++ [] = s.names.reverse
      rw [h.names, List.append_nil]
  | flagged start items verbose c =>
    have hgroups : (s.open start (.scoped items) verbose c).groups = s.groups := by
      rw [State.groups_open, groupsOfKind, List.append_nil]
    exact ⟨hgroups ▸ h.indices, hgroups ▸ h.names, h.nodup, h.named⟩
  | branch =>
    have hgroups := groups_nextBranch s
    exact ⟨hgroups ▸ h.indices, hgroups ▸ h.names, h.nodup, h.named⟩
  | @close outer start kind verbose body rest stop c hcollect =>
    have hbody := groups_collect hcollect
    have hgroups : ({ s with
        cursor := c, verbose
        row := outer.push (.group ⟨start, c.offset⟩ kind body)
        frames := rest } : State).groups = s.groups := by
      rw [State.groups, State.groups, ← hbody]
      cases kind <;> simp [Row.push, Frame.groups, groupsOfKind, Expr.groups]
    exact ⟨hgroups ▸ h.indices, hgroups ▸ h.names, h.nodup, h.named⟩

theorem State.numbered_start (text : String) : (State.start text).Numbered :=
  ⟨rfl, rfl, List.nodup_nil, nofun⟩

theorem numbered_parse {text : String} {e : Expr} (h : Expr.parse text = .ok e) :
    (∃ n, e.groups.map Prod.fst = List.range' 1 n) ∧ e.names.Nodup ∧
      ∀ name ∈ e.names, Named [] name := by
  obtain ⟨s, hs, he, -⟩ := exists_run_of_parse h
  have hnumbered : s.Numbered :=
    run_induction (fun _ _ h => ⟨h.indices, h.names, h.nodup, h.named⟩) (fun _ _ hm h => h.moves hm)
      (State.numbered_start text) hs
  have hgroups : e.groups = s.groups := groups_collect (finish_eq_ok he)
  rw [Expr.names, hgroups, hnumbered.names]
  exact ⟨⟨s.captures, hnumbered.indices⟩, List.nodup_reverse.mpr hnumbered.nodup,
    fun name hname => hnumbered.named name (List.mem_reverse.mp hname)⟩

end Parser

def Form.Titled (f : Form) : Prop := ∀ name ∈ f.names, Parser.Named [] name

theorem Form.titled_parse {text : String} {f : Form} (h : Form.parse false text = .ok f) :
    f.Titled ∧ f.names.Nodup := by
  obtain ⟨e, g, he, hform⟩ := parse_eq_ok.mp h
  obtain ⟨-, hnodup, hnamed⟩ := Parser.numbered_parse he
  have hsub : f.names.Sublist e.names := (Flags.groups_form e hform).filterMap Prod.snd
  exact ⟨fun name hname => hnamed name (hsub.subset hname), hnodup.sublist hsub⟩

end Keypad.Pattern
