import Keypad.Proofs.Meaning
/-!
Patterns without the places of their parts. A place only says where an error is; what a pattern
matches does not depend on where its parts stand.
-/
theorem Except.map_eq_ok {ε α β : Type} {x : Except ε α} {f : α → β} {b : β} :
    x.map f = .ok b ↔ ∃ a, x = .ok a ∧ f a = b := by
  cases x <;> simp [Except.map]

namespace Keypad.Pattern

def Span.anywhere : Span := ⟨0, 0⟩

def Literal.unplaced (l : Literal) : Literal := { l with span := .anywhere }

mutual

def ClassExpr.unplaced : ClassExpr → ClassExpr
  | .empty _ => .empty .anywhere
  | .literal l => .literal l.unplaced
  | .range _ lo hi => .range .anywhere lo.unplaced hi.unplaced
  | .named _ kind negated => .named .anywhere kind negated
  | .property _ query negated => .property .anywhere query negated
  | .short _ kind negated => .short .anywhere kind negated
  | .bracketed _ negated body => .bracketed .anywhere negated body.unplaced
  | .union _ items => .union .anywhere (ClassExpr.allUnplaced items)
  | .operation _ op lhs rhs => .operation .anywhere op lhs.unplaced rhs.unplaced

def ClassExpr.allUnplaced : List ClassExpr → List ClassExpr
  | [] => []
  | e :: rest => e.unplaced :: ClassExpr.allUnplaced rest

end

mutual

/-- A written pattern, wherever its parts stand. -/
def Expr.unplaced : Expr → Expr
  | .empty _ => .empty .anywhere
  | .flags _ items => .flags .anywhere items
  | .literal l => .literal l.unplaced
  | .dot _ => .dot .anywhere
  | .assertion _ a => .assertion .anywhere a
  | .property _ query negated => .property .anywhere query negated
  | .short _ kind negated => .short .anywhere kind negated
  | .bracketed _ negated body => .bracketed .anywhere negated body.unplaced
  | .iterate _ min max greedy sub => .iterate .anywhere min max greedy sub.unplaced
  | .group _ kind sub => .group .anywhere kind sub.unplaced
  | .alternation _ items => .alternation .anywhere (Expr.allUnplaced items)
  | .concat _ items => .concat .anywhere (Expr.allUnplaced items)

def Expr.allUnplaced : List Expr → List Expr
  | [] => []
  | e :: rest => e.unplaced :: Expr.allUnplaced rest

end

theorem ClassExpr.allUnplaced_eq (es : List ClassExpr) :
    ClassExpr.allUnplaced es = es.map ClassExpr.unplaced := by
  induction es with
  | nil => rfl
  | cons e es ih => rw [ClassExpr.allUnplaced, ih, List.map_cons]

theorem Expr.allUnplaced_eq (es : List Expr) : Expr.allUnplaced es = es.map Expr.unplaced := by
  induction es with
  | nil => rfl
  | cons e es ih => rw [Expr.allUnplaced, ih, List.map_cons]

namespace Flags

variable (f : Flags)

@[simp] theorem member_unplaced {l : Literal} {n : Nat} :
    f.member l.unplaced = .ok n ↔ f.member l = .ok n := by
  unfold member Literal.unplaced
  split_ifs <;> simp

@[simp] theorem property_unplaced {span : Span} {query : PropertyQuery} {negated : Bool}
    {s : Charset.Intervals} :
    f.property .anywhere query negated = .ok s ↔ f.property span query negated = .ok s := by
  unfold property
  dsimp only
  split
  · simp
  · split <;> simp

mutual

@[simp] theorem classSet_unplaced {s : Charset.Intervals} (e : ClassExpr) :
    f.classSet e.unplaced = .ok s ↔ f.classSet e = .ok s := by
  cases e with
  | empty | named | short => rfl
  | literal l => simp only [ClassExpr.unplaced, classSet, Except.bind_eq_ok, member_unplaced]
  | range span lo hi => simp only [ClassExpr.unplaced, classSet, Except.bind_eq_ok, member_unplaced]
  | property span query negated => exact f.property_unplaced
  | bracketed span negated body =>
    simp only [ClassExpr.unplaced, classSet, Except.bind_eq_ok, classSet_unplaced body]
  | union span items => exact classSets_unplaced items
  | operation span op lhs rhs =>
    simp only [ClassExpr.unplaced, classSet, Except.bind_eq_ok, classSet_unplaced lhs,
      classSet_unplaced rhs]

theorem classSets_unplaced {s : Charset.Intervals} (es : List ClassExpr) :
    f.classSets (ClassExpr.allUnplaced es) = .ok s ↔ f.classSets es = .ok s := by
  cases es with
  | nil => rfl
  | cons e es =>
    simp only [ClassExpr.allUnplaced, classSets, Except.bind_eq_ok, classSet_unplaced e,
      classSets_unplaced es]

end

theorem classWords_congr {x y : Except SyntaxError Charset.Intervals}
    (h : ∀ s, x = .ok s ↔ y = .ok s) :
    f.classWords x = f.classWords y := by
  refine Between.ext fun before word after => ?_
  simp only [classWords, h]

mutual

theorem behind_unplaced (f : Flags) (e : Expr) : f.behind e.unplaced = f.behind e := by
  cases e with
  | iterate span min max greedy sub => exact behind_unplaced f sub
  | alternation span items | concat span items => exact behindAll_unplaced f items
  | _ => rfl

theorem behindAll_unplaced (f : Flags) (es : List Expr) :
    f.behindAll (Expr.allUnplaced es) = f.behindAll es := by
  cases es with
  | nil => rfl
  | cons e es =>
    rw [Expr.allUnplaced, behindAll, behindAll, behind_unplaced f e, behindAll_unplaced _ es]

end

mutual

theorem matches_unplaced (f : Flags) (e : Expr) : f.Matches e.unplaced = f.Matches e := by
  cases e with
  | property span query negated => exact f.classWords_congr fun s => f.property_unplaced
  | bracketed span negated body =>
    refine f.classWords_congr fun s => ?_
    simp only [Except.map_eq_ok, classSet_unplaced f body]
  | iterate span min max greedy sub => rw [Expr.unplaced, Matches, Matches, matches_unplaced f sub]
  | group span kind sub =>
    rcases kind with ⟨index, name⟩ | items
    · exact matches_unplaced f sub
    · exact matches_unplaced (f.set items) sub
  | alternation span items => rw [Expr.unplaced, Matches, Matches, matchesEach_unplaced f items]
  | concat span items => rw [Expr.unplaced, Matches, Matches, matchesEach_unplaced f items]
  | _ => rfl

theorem matchesEach_unplaced (f : Flags) (es : List Expr) :
    f.MatchesEach (Expr.allUnplaced es) = f.MatchesEach es := by
  cases es with
  | nil => rfl
  | cons e es =>
    rw [Expr.allUnplaced, MatchesEach, MatchesEach, matches_unplaced f e, behind_unplaced f e,
      matchesEach_unplaced _ es]

end

end Flags

end Keypad.Pattern
