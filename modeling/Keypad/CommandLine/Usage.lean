import Keypad.CommandLine.Scope
/-!
How a scope is used: the one-line form, which may show what was given already, and the page that
explains the commands, operands and settings.
-/
namespace Keypad.CommandLine

inductive Part
  | operand (o : Operand)
  | setting (s : Setting)
  | group
  deriving DecidableEq, Repr, Inhabited

namespace Scope

def groupShown (s : Scope) : String :=
  "<" ++ "|".intercalate (s.operands.map (·.name) ++ s.ownSettings.map (·.shown)) ++ ">"

def givenSettings : List Part → List Setting
  | [] => []
  | .setting x :: rest => x :: (givenSettings rest).filter (· ≠ x)
  | _ :: rest => givenSettings rest

def plainUsage (s : Scope) : String :=
  let options := if s.settings.isEmpty then [] else ["[OPTIONS]"]
  let commands := if s.commands.isEmpty then [] else ["<COMMAND>"]
  " ".intercalate
    (s.path :: options ++ s.operands.map (fun o => o.shown (s.needs o)) ++ commands)

def usageWith (s : Scope) (given : List Part) : String :=
  let grouped := given.contains .group
  let settings := (givenSettings given).filter fun x => !(grouped && s.ownSettings.contains x)
  let operands := if grouped then [] else
    s.operands.map fun o => o.shown (s.needs o || given.contains (.operand o))
  let commands := if s.commands.isEmpty then [] else ["<COMMAND>"]
  " ".intercalate
    (s.path :: settings.map (·.shown) ++ (if grouped then [s.groupShown] else []) ++ operands ++
      commands)

def usage (s : Scope) (given : List Part) : String :=
  if given.isEmpty then s.plainUsage else s.usageWith given

def rowsUnder (heading : String) (rows : List (String × String)) : List String :=
  match rows with
  | [] => []
  | rows =>
    let widest := (rows.map (·.1.length)).foldl max 0
    "" :: heading :: rows.map fun (left, right) =>
      "  " ++ left ++ String.ofList (List.replicate (widest - left.length) ' ') ++ "  " ++ right

def settingRow (s : Scope) (x : Setting) : String × String :=
  let letter := match x.letter? with
    | some c => s!"-{c}, "
    | none => "    "
  (letter ++ x.shown, s.aboutSetting x)

def helpPage (s : Scope) : String :=
  "\n".intercalate
    ([s.about, "", "Usage: " ++ s.plainUsage] ++
      rowsUnder "Commands:" (s.commands.map fun c => (c.name, c.about)) ++
      rowsUnder "Arguments:" (s.operands.map fun o => (o.shown (s.needs o), s.aboutOperand o)) ++
      rowsUnder "Options:" (s.settings.map s.settingRow)) ++ "\n"

end Scope

end Keypad.CommandLine
