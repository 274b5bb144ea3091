import Keypad.Outcome
/-!
What the command line offers: three commands, the operands each takes and the settings that can be
given with it. A scope is a part of the command line with operands and settings of its own: the
program as a whole, one of its commands, or the command that explains the others.
-/
namespace Keypad.CommandLine

def programName : String := "dtmfmatch"

def programVersion : String := "0.1.0"

inductive Verb
  | check
  | classify
  | trace
  deriving DecidableEq, Repr, Inhabited

inductive Operand
  | pattern
  | buffer
  | topic
  deriving DecidableEq, Repr, Inhabited

inductive Setting
  | sizeLimit
  | mode
  | json
  | help
  | version
  deriving DecidableEq, Repr, Inhabited

inductive Scope
  | program
  | verb (v : Verb)
  | help
  deriving DecidableEq, Repr, Inhabited

namespace Verb

def all : List Verb := [.check, .classify, .trace]

def name : Verb → String
  | .check => "check"
  | .classify => "classify"
  | .trace => "trace"

def about : Verb → String
  | .check => "Compile a grammar pattern and report whether it is usable"
  | .classify => "Classify a keypad buffer against a grammar pattern"
  | .trace => "Replay a buffer one keypress at a time"

def operands : Verb → List Operand
  | .check => [.pattern]
  | .classify | .trace => [.pattern, .buffer]

def settings : Verb → List Setting
  | .check => []
  | .classify => [.mode, .json]
  | .trace => [.json]

end Verb

namespace Setting

def name : Setting → String
  | .sizeLimit => "size-limit"
  | .mode => "mode"
  | .json => "json"
  | .help => "help"
  | .version => "version"

def letter? : Setting → Option Char
  | .help => some 'h'
  | .version => some 'V'
  | _ => none

def valueName? : Setting → Option String
  | .sizeLimit => some "BYTES"
  | .mode => some "MODE"
  | _ => none

def dashed (s : Setting) : String := "--" ++ s.name

def shown (s : Setting) : String :=
  match s.valueName? with
  | some value => s!"{s.dashed} <{value}>"
  | none => s.dashed

end Setting

namespace Operand

def name : Operand → String
  | .pattern => "PATTERN"
  | .buffer => "BUFFER"
  | .topic => "COMMAND"

def shown (o : Operand) (needed : Bool) : String :=
  match o with
  | .topic => s!"[{o.name}]..."
  | _ => if needed then s!"<{o.name}>" else s!"[{o.name}]"

end Operand

namespace Scope

def name : Scope → String
  | .program => programName
  | .verb v => v.name
  | .help => "help"

def about : Scope → String
  | .program => "Classify keypad input against compiled DTMF grammar patterns"
  | .verb v => v.about
  | .help => "Print this message or the help of the given subcommand(s)"

def commands : Scope → List Scope
  | .program => Verb.all.map .verb ++ [.help]
  | .verb _ | .help => []

def command? (s : Scope) (name : String) : Option Scope := s.commands.find? (·.name == name)

def operands : Scope → List Operand
  | .program => []
  | .verb v => v.operands
  | .help => [.topic]

def ownSettings : Scope → List Setting
  | .program => [.sizeLimit]
  | .verb v => v.settings
  | .help => []

def settings : Scope → List Setting
  | .program => [.sizeLimit, .help, .version]
  | .verb v => v.settings ++ [.sizeLimit, .help]
  | .help => []

def setting? (s : Scope) (name : String) : Option Setting := s.settings.find? (·.name == name)

def settingOfLetter? (s : Scope) (c : Char) : Option Setting :=
  s.settings.find? (·.letter? == some c)

def needs (s : Scope) (o : Operand) : Bool :=
  match s, o with
  | .verb _, .pattern => true
  | .verb .trace, .buffer => true
  | _, _ => false

def path (s : Scope) : String :=
  match s with
  | .program => programName
  | _ => s!"{programName} {s.name}"

def aboutOperand (s : Scope) (o : Operand) : String :=
  match o with
  | .pattern => "Compiled grammar pattern"
  | .buffer =>
    "Keypad buffer (symbols 0-9, #, *, A-D)" ++ if s.needs o then "" else " [default: \x22\x22]"
  | .topic => "Print help for the subcommand(s)"

def aboutSetting (s : Scope) : Setting → String
  | .sizeLimit => "Maximum compiled automaton size in bytes (0 = unbounded)"
  | .mode => s!"Input mode of the grammar [default: {Mode.dtmf.name}]"
  | .json => if s = .verb .trace then "Print the steps as JSON" else "Print the outcome as JSON"
  | .help => "Print help"
  | .version => "Print version"

end Scope

end Keypad.CommandLine
