import Keypad.CommandLine.Refusal
import Keypad.Text.Similarity
/-!
Reading the arguments of one scope. An operand, or a setting that waits for its value, is held back
until the next argument is seen, and only then taken up; so a fault of it is reported late, or not
at all when the next argument cannot be read.
-/
namespace Keypad.CommandLine

inductive Pending
  | operand (o : Operand) (text : String)
  | setting (s : Setting) (value : Option String)
  deriving DecidableEq, Repr, Inhabited

/-- What the arguments so far have given: the parts in order, what they hold, the operands still to
come, what is held back, and whether only operands follow. -/
structure Scan where
  given : List Part
  pattern : Option String
  buffer : Option String
  sizeLimit : Option Nat
  mode : Option Mode
  left : List Operand
  pending : Option Pending
  onlyOperands : Bool
  deriving Repr, Inhabited

inductive Stop
  | explained (s : Scope)
  | nothingGiven
  | version
  | refused (r : Refusal)
  deriving DecidableEq, Repr, Inhabited

def readSize (n : Nat) : List Char → Except String Nat
  | [] => .ok n
  | c :: rest =>
    if ¬ c.isDigit then .error "invalid digit found in string"
    else
      let n := n * 10 + (c.toNat - 0x30)
      if n < 2 ^ 64 then readSize n rest else .error "number too large to fit in target type"

def parseSize (text : String) : Except String Nat :=
  match text.toList with
  | [] => .error "cannot parse integer from empty string"
  | ['+'] => .error "invalid digit found in string"
  | '+' :: digits => readSize 0 digits
  | digits => readSize 0 digits

def splitName (text : List Char) : String × Option String :=
  let name := String.ofList (text.takeWhile (· ≠ '='))
  match text.dropWhile (· ≠ '=') with
  | [] => (name, none)
  | _ :: value => (name, some (String.ofList value))

namespace Scope

/-- The command and the setting of it that a name is like, if the command is among the arguments
that follow; the one named first, if there are several. -/
def settingElsewhere? (s : Scope) (name : String) (rest : List String) : Option (Verb × Setting) :=
  let found := Verb.all.filterMap fun v => do
    let _ ← s.command? v.name
    let candidate ← Text.Similarity.likest? name ((Scope.verb v).settings.map (·.name))
    let x ← (Scope.verb v).setting? candidate
    let place ← rest.idxOf? v.name
    return (place, v, x)
  (found.mergeSort (·.1 ≤ ·.1)).head?.map (·.2)

def refuse (s : Scope) (argument : String) (tip : Option Tip) (given : List Part) : Stop :=
  .refused ⟨.unexpected argument, tip, some (s.usage given), true⟩

def passAsValue? (s : Scope) (argument : String) : Option Tip :=
  if s.operands.isEmpty then none else some (.passAsValue argument)

end Scope

namespace Scan

def start (s : Scope) : Scan := ⟨[], none, none, none, none, s.operands, none, false⟩

def waiting (scan : Scan) : Bool :=
  match scan.pending with
  | some (.setting _ none) => !scan.onlyOperands
  | _ => false

def add (p : Part) (scan : Scan) : Scan :=
  if scan.given.contains p then scan else { scan with given := scan.given ++ [p] }

def addSetting (s : Scope) (x : Setting) (scan : Scan) : Scan :=
  let scan := scan.add (.setting x)
  if s.ownSettings.contains x then scan.add .group else scan

def parts (scan : Scan) : List Part := scan.given.filter (· ≠ .group)

def takeSetting (s : Scope) (x : Setting) (value : Option String) (scan : Scan) :
    Scan × Option Refusal :=
  if scan.given.contains (.setting x) then
    ({ scan with given := scan.given.filter (· ≠ .setting x) },
      some ⟨.repeated x, none, some s.plainUsage, true⟩)
  else
    let scan := scan.addSetting s x
    match x, value with
    | .sizeLimit, some v =>
      match parseSize v with
      | .ok n => ({ scan with sizeLimit := some n }, none)
      | .error reason => (scan, some (.ofComplaint (.invalidValue x v reason)))
    | .mode, some v =>
      match Mode.ofName? v with
      | some m => ({ scan with mode := some m }, none)
      | none => (scan, some (.ofComplaint (.invalidValue x v (Mode.unknownMessage v))))
    | _, _ => (scan, none)

def settle (s : Scope) (scan : Scan) : Scan × Option Refusal :=
  let rest := { scan with pending := none }
  match scan.pending with
  | none => (scan, none)
  | some (.operand .pattern text) =>
    ({ rest with pattern := some text }.add (.operand .pattern) |>.add .group, none)
  | some (.operand .buffer text) =>
    ({ rest with buffer := some text }.add (.operand .buffer) |>.add .group, none)
  | some (.operand .topic _) => (rest, none)
  | some (.setting x none) => (rest, some (.ofComplaint (.missingValue x)))
  | some (.setting x value) => takeSetting s x value rest

def checked : Scan × Option Refusal → Except Stop Scan
  | (scan, none) => .ok scan
  | (_, some r) => .error (.refused r)

def knownSetting (s : Scope) (x : Setting) (attached : Option String) (scan : Scan) :
    Except Stop Scan :=
  match x.valueName?, attached with
  | none, some value =>
    let given := scan.given.filter fun p => !(s.operands.any fun o => s.needs o && p = .operand o)
    .error (.refused ⟨.surplusValue x value, none, some (s.usage (given ++ [.setting x])), true⟩)
  | valueName, attached => do
    let scan ← checked (scan.settle s)
    match x with
    | .help => .error (.explained s)
    | .version => .error .version
    | x =>
      if valueName.isSome ∧ attached.isNone then .ok { scan with pending := some (.setting x none) }
      else checked (takeSetting s x attached scan)

def unknownSetting (s : Scope) (name : String) (rest : List String) (scan : Scan) : Stop :=
  let scan := (scan.settle s).1
  let argument := "--" ++ name
  match (Text.Similarity.likest? name (s.settings.map (·.name))).bind s.setting? with
  | some x => s.refuse argument (some (.similarSetting x)) (scan.addSetting s x).parts
  | none =>
    match s.settingElsewhere? name rest with
    | some (v, x) => s.refuse argument (some (.settingOf v x)) scan.parts
    | none => s.refuse argument (s.passAsValue? argument) scan.parts

def surplus (s : Scope) (argument : String) (scan : Scan) : Stop :=
  if scan.onlyOperands ∧ (s.command? argument).isSome then
    s.refuse argument (some (.dropDashes argument)) []
  else if s.commands.isEmpty then s.refuse argument none []
  else
    let names := Text.Similarity.alike argument (s.commands.map (·.name))
    let tip := if names.isEmpty then none else some (.similarCommands names)
    .refused ⟨.unknownCommand argument, tip, some s.plainUsage, true⟩

def word (s : Scope) (argument : String) (scan : Scan) : Except Stop Scan :=
  match scan.pending, scan.onlyOperands, scan.left with
  | some (.setting x none), false, _ =>
    .ok { scan with pending := some (.setting x (some argument)) }
  | _, _, [] => .error (scan.surplus s argument)
  | _, _, o :: left => do
    let scan ← checked (scan.settle s)
    .ok { scan with pending := some (.operand o argument), left }

def read (s : Scope) (argument : String) (rest : List String) (scan : Scan) : Except Stop Scan :=
  if scan.onlyOperands then scan.word s argument
  else
    match argument.toList with
    | ['-', '-'] => .ok { scan with onlyOperands := true }
    | '-' :: '-' :: text =>
      let (name, attached) := splitName text
      match s.setting? name with
      | some x => scan.knownSetting s x attached
      | none => .error (scan.unknownSetting s name rest)
    | '-' :: letter :: _ =>
      match s.settingOfLetter? letter with
      | some x => scan.knownSetting s x none
      | none =>
        let argument := s!"-{letter}"
        .error (s.refuse argument (s.passAsValue? argument) [])
    | _ => scan.word s argument

def missing (s : Scope) (scan : Scan) : List Operand :=
  s.operands.filter fun o => s.needs o && !scan.given.contains (.operand o)

end Scan

end Keypad.CommandLine
