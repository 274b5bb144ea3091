import Keypad.CommandLine.Usage
/-!
Why arguments are not accepted, and the text that says so: the complaint, a tip if there is one, how
the scope is used, and where to find help.
-/
namespace Keypad.CommandLine

inductive Complaint
  | unexpected (argument : String)
  | unknownCommand (name : String)
  | missingCommand
  | missingOperands (missing : List Operand)
  | missingValue (s : Setting)
  | invalidValue (s : Setting) (value reason : String)
  | surplusValue (s : Setting) (value : String)
  | repeated (s : Setting)
  deriving DecidableEq, Repr, Inhabited

inductive Tip
  | passAsValue (argument : String)
  | similarSetting (s : Setting)
  | settingOf (v : Verb) (s : Setting)
  | similarCommands (names : List String)
  | dropDashes (name : String)
  deriving DecidableEq, Repr, Inhabited

namespace Complaint

def message : Complaint → String
  | .unexpected argument => s!"unexpected argument '{argument}' found"
  | .unknownCommand name => s!"unrecognized subcommand '{name}'"
  | .missingCommand =>
    s!"'{programName}' requires a subcommand but one was not provided\n  [subcommands: " ++
      ", ".intercalate (Scope.program.commands.map (·.name)) ++ "]"
  | .missingOperands missing =>
    "the following required arguments were not provided:" ++
      String.join (missing.map fun o => "\n  " ++ o.shown true)
  | .missingValue s => s!"a value is required for '{s.shown}' but none was supplied"
  | .invalidValue s value reason => s!"invalid value '{value}' for '{s.shown}': {reason}"
  | .surplusValue s value =>
    s!"unexpected value '{value}' for '{s.shown}' found; no more were expected"
  | .repeated s => s!"the argument '{s.shown}' cannot be used multiple times"

end Complaint

namespace Tip

def quoted (text : String) : String := s!"'{text}'"

def message : Tip → String
  | .passAsValue argument => s!"to pass '{argument}' as a value, use '-- {argument}'"
  | .similarSetting s => s!"a similar argument exists: '{s.dashed}'"
  | .settingOf v s => s!"'{v.name} {s.dashed}' exists"
  | .similarCommands names =>
    (if names.length = 1 then "a similar subcommand exists: "
      else "some similar subcommands exist: ")
      ++ ", ".intercalate (names.map quoted)
  | .dropDashes name => s!"subcommand '{name}' exists; to use it, remove the '--' before it"

end Tip

/-- A complaint with what is said beside it. Only a scope that has a setting for help can refer to
it. -/
structure Refusal where
  complaint : Complaint
  tip : Option Tip
  usage : Option String
  refersToHelp : Bool
  deriving DecidableEq, Repr, Inhabited

namespace Refusal

def ofComplaint (c : Complaint) : Refusal := ⟨c, none, none, true⟩

def page (r : Refusal) : String :=
  let tip := match r.tip with
    | some t => "\n\n  tip: " ++ t.message
    | none => ""
  let usage := match r.usage with
    | some u => "\n\nUsage: " ++ u
    | none => ""
  let reference := if r.refersToHelp then
    s!"\n\nFor more information, try '{Setting.help.dashed}'.\n" else "\n"
  "error: " ++ r.complaint.message ++ tip ++ usage ++ reference

end Refusal

end Keypad.CommandLine
