import Keypad.Outcome
import Keypad.Proofs.JsonText
import Mathlib.Data.List.Basic
/-!
The renderings of an outcome. The line, the compact and the pretty form are each read back to the
outcome that they show, whatever the texts in it are, so none of them shows two outcomes.
-/
namespace Keypad

open Text

@[simp] theorem Mode.ofName?_name (m : Mode) : ofName? m.name = some m := by cases m <;> decide

namespace Outcome

def of? : Classification → Option Match → Option Outcome
  | .noMatch, none => some .noMatch
  | .potentialMatch, none => some .potentialMatch
  | .isMatch, some m => some (.isMatch m)
  | .maxMatch, some m => some (.maxMatch m)
  | _, _ => none

@[simp] theorem of?_classification (o : Outcome) : of? o.classification o.match? = some o := by
  cases o <;> rfl

end Outcome

section Fields

variable (key : String) (fields : List (String × Json))

def Text.Json.textField? : Option String :=
  match fields.lookup key with
  | some (.string text) => some text
  | _ => none

def Text.Json.numberField? : Option Nat :=
  match fields.lookup key with
  | some (.number n) => some n
  | _ => none

def Match.ofFields? : Option Match := do
  let mode ← (Json.textField? "mode" fields).bind Mode.ofName?
  let confidence ← Json.numberField? "confidence" fields
  let utterance ← Json.textField? "utterance" fields
  let interpretation ← Json.textField? "interpretation" fields
  return ⟨mode, confidence, utterance, interpretation⟩

end Fields

namespace Outcome

def ofJson? : Json → Option Outcome
  | .object fields => do
    let kind ← (Json.textField? "kind" fields).bind Classification.ofName?
    of? kind (Match.ofFields? fields)
  | _ => none

@[simp] theorem ofJson?_toJson (o : Outcome) : ofJson? o.toJson = some o := by
  cases o with
  | noMatch | potentialMatch => rfl
  | isMatch m | maxMatch m =>
    obtain ⟨mode, confidence, utterance, interpretation⟩ := m
    cases mode <;> rfl

def ofJsonText? (text : String) : Option Outcome := (Json.read? text).bind ofJson?

end Outcome

section Line

def behind? (start : String) (cs : List Char) : Option (List Char) := cs.dropPrefix? start.toList

@[simp] theorem behind?_append (start : String) (cs : List Char) :
    behind? start (start.toList ++ cs) = some cs :=
  List.dropPrefix?_append_of_beq cs BEq.rfl

def Match.ofLine? (cs : List Char) : Option Match := do
  let cs ← behind? " (mode=" cs
  let mode ← Mode.ofName? (String.ofList (cs.takeWhile (· ≠ ',')))
  let cs ← behind? ", confidence=" (cs.dropWhile (· ≠ ','))
  let confidence := Nat.ofDigitChars 10 (cs.takeWhile Char.isDigit) 0
  let cs ← behind? ", utterance=" (cs.dropWhile Char.isDigit)
  let (utterance, cs) ← Quoted.read? cs
  let cs ← behind? ", interpretation=" cs
  let (interpretation, cs) ← Quoted.read? cs
  if cs = [')'] then some ⟨mode, confidence, String.ofList utterance, String.ofList interpretation⟩
  else none

def Outcome.ofDisplay? (text : String) : Option Outcome := do
  let kind ← Classification.ofName? (String.ofList (text.toList.takeWhile (· ≠ ' ')))
  let details := text.toList.dropWhile (· ≠ ' ')
  if details = [] then Outcome.of? kind none
  else
    let m ← Match.ofLine? details
    Outcome.of? kind (some m)

def Match.line (m : Match) : List Char :=
  " (mode=".toList ++ (m.mode.name.toList ++ (", confidence=".toList ++ (Json.digits m.confidence ++
    (", utterance=".toList ++ ((Quoted.encode m.utterance).toList ++ (", interpretation=".toList ++
      ((Quoted.encode m.interpretation).toList ++ [')'])))))))

@[simp] theorem Match.ofLine?_line (m : Match) : ofLine? m.line = some m := by
  obtain ⟨mode, confidence, utterance, interpretation⟩ := m
  obtain ⟨d, ds, hdigits, hall, hvalue⟩ := Json.digits_eq confidence
  have hname : mode.name.toList.all (· ≠ ',') = true := by cases mode <;> decide
  have hmode (rest : List Char) :=
    takeWhile_append_stop (List.all_eq_true.mp hname) (", confidence=".toList ++ rest) (by simp)
  have hconfidence (rest : List Char) :=
    takeWhile_append_stop hall (", utterance=".toList ++ rest) (by simp)
  unfold line ofLine?
  simp only [hdigits, behind?_append, Option.bind_eq_bind, Option.bind_some, hmode, hconfidence,
    hvalue, Quoted.read?_encode, String.ofList_toList, Mode.ofName?_name, if_true]

theorem Outcome.toList_display {o : Outcome} {m : Match} (h : o.match? = some m) :
    o.display.toList = o.classification.name.toList ++ m.line := by
  unfold display Match.line
  simp only [h, String.toList_append, List.append_assoc]
  rfl

@[simp] theorem Outcome.ofDisplay?_display (o : Outcome) : ofDisplay? o.display = some o := by
  have hkind : ∀ c ∈ o.classification.name.toList, decide (c ≠ ' ') = true :=
    List.all_eq_true.mp (by cases o.classification <;> decide)
  have hof := of?_classification o
  cases hm : o.match? with
  | none =>
    have hdisplay : o.display.toList = o.classification.name.toList ++ [] := by
      unfold display
      simp [hm]
    obtain ⟨htake, hdrop⟩ := takeWhile_append_stop hkind [] nofun
    rw [hm] at hof
    rw [ofDisplay?, hdisplay, htake, hdrop, String.ofList_toList, Classification.ofName?_name]
    exact hof
  | some m =>
    have hblank : ∃ rest, m.line = ' ' :: rest := ⟨_, rfl⟩
    obtain ⟨rest, hline⟩ := hblank
    obtain ⟨htake, hdrop⟩ := takeWhile_append_stop hkind m.line (by simp [hline])
    rw [hm] at hof
    rw [ofDisplay?, toList_display hm, htake, hdrop, String.ofList_toList,
      Classification.ofName?_name]
    simp only [Option.bind_eq_bind, Option.bind_some, Match.ofLine?_line, hof]
    exact if_neg (by simp [hline])

end Line

/-- What an outcome is can be told from its line, from its compact form and from its pretty form,
whatever the texts in it are: each of them is read back to that outcome, so no other outcome is
rendered alike. The two forms differ in blanks between their tokens only. -/
theorem Outcome.rendering_determines (o : Outcome) :
    ofDisplay? o.display = some o ∧ ofJsonText? o.toJson.compact = some o ∧
    ofJsonText? o.toJson.pretty = some o ∧
      Json.withoutBlanks o.toJson.pretty = o.toJson.compact ∧
      ∀ p : Outcome, (o.display = p.display ↔ o = p) ∧
        (o.toJson.compact = p.toJson.compact ↔ o = p) ∧
        (o.toJson.pretty = p.toJson.pretty ↔ o = p) := by
  have hcompact (o : Outcome) : ofJsonText? o.toJson.compact = some o := by
    simp [ofJsonText?]
  have hpretty (o : Outcome) : ofJsonText? o.toJson.pretty = some o := by
    simp [ofJsonText?]
  -- what is read back from equal texts is equal
  have hinj {render : Outcome → String} {read : String → Option Outcome}
      (hread : ∀ o, read (render o) = some o)
      (p : Outcome) : render o = render p ↔ o = p :=
    ⟨fun h => Option.some.inj ((hread o).symm.trans ((congrArg read h).trans (hread p))),
      congrArg render⟩
  exact ⟨ofDisplay?_display o, hcompact o, hpretty o, Json.withoutBlanks_pretty o.toJson,
    fun p => ⟨hinj ofDisplay?_display p, hinj hcompact p, hinj hpretty p⟩⟩

end Keypad
