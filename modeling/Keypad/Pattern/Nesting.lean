import Keypad.Pattern.SyntaxError
/-!
How deep the parts of a pattern nest. Groups, repetitions, sequences, alternatives and classes each
take a level, and so do nested classes, unions and operations inside a class.
-/
namespace Keypad.Pattern.Nesting

def limit : Nat := 250

def enter (depth : Nat) (span : Span) : Except SyntaxError Nat :=
  if depth < limit then .ok (depth + 1) else .error ⟨.nestingExceeded limit, span⟩

mutual

def checkClass (depth : Nat) : ClassExpr → Except SyntaxError Unit
  | .bracketed span _ body => do
    let depth ← enter depth span
    checkClass depth body
  | .union span items => do
    let depth ← enter depth span
    checkClasses depth items
  | .operation span _ lhs rhs => do
    let depth ← enter depth span
    checkClass depth lhs
    checkClass depth rhs
  | _ => .ok ()

def checkClasses (depth : Nat) : List ClassExpr → Except SyntaxError Unit
  | [] => .ok ()
  | e :: rest => do
    checkClass depth e
    checkClasses depth rest

end

mutual

def checkExpr (depth : Nat) : Expr → Except SyntaxError Unit
  | .bracketed span _ body => do
    let depth ← enter depth span
    checkClass depth body
  | .iterate span _ _ _ sub | .group span _ sub => do
    let depth ← enter depth span
    checkExpr depth sub
  | .alternation span items | .concat span items => do
    let depth ← enter depth span
    checkExprs depth items
  | _ => .ok ()

def checkExprs (depth : Nat) : List Expr → Except SyntaxError Unit
  | [] => .ok ()
  | e :: rest => do
    checkExpr depth e
    checkExprs depth rest

end

def check (e : Expr) : Except SyntaxError Unit := checkExpr 0 e

end Keypad.Pattern.Nesting
