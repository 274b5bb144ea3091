import Keypad.Proofs.Rendering
import Keypad.Proofs.Trace
/-!
The renderings of a replay. Its text escapes nothing; it is read back because the buffers of a
replay are made of keys, so that neither a blank nor a line break stands in one of them. The
structured forms are read back whatever the buffers are.
-/
namespace Keypad

open Text

theorem mapM_map_read {α β : Type} {write : α → β} {read : β → Option α} {xs : List α}
    (h : ∀ x ∈ xs, read (write x) = some x) : (xs.map write).mapM read = some xs := by
  induction xs with
  | nil => rfl
  | cons x xs ih =>
    obtain ⟨hx, hxs⟩ := List.forall_mem_cons.mp h
    rw [List.map_cons, List.mapM_cons, hx, ih hxs]
    rfl

def Text.lines (text : String) : List String := (text.toList.splitOn '\n').map String.ofList

namespace Step

variable {s : Step} {steps : List Step}

/-- The buffer of the step holds neither a blank nor a line break. -/
def Unbroken (s : Step) : Prop := ∀ c ∈ s.buffer.toList, c ≠ ' ' ∧ c ≠ '\n'

section Line

def ofLine? (line : String) : Option Step := do
  let name ← behind? " => " (line.toList.dropWhile (· ≠ ' '))
  let classification ← Classification.ofName? (String.ofList name)
  return ⟨String.ofList (line.toList.takeWhile (· ≠ ' ')), classification⟩

theorem toList_line (s : Step) :
    s.line.toList = s.buffer.toList ++ (" => ".toList ++ s.classification.name.toList) := by
  rw [line, String.toList_append, String.toList_append, List.append_assoc]

theorem ofLine?_line (h : s.Unbroken) : ofLine? s.line = some s := by
  have hbuffer : ∀ c ∈ s.buffer.toList, decide (c ≠ ' ') = true :=
    fun c hc => decide_eq_true (h c hc).1
  obtain ⟨htake, hdrop⟩ :=
    takeWhile_append_stop hbuffer (" => ".toList ++ s.classification.name.toList) (by simp)
  unfold ofLine?
  simp only [toList_line, htake, hdrop, behind?_append, Option.bind_eq_bind, Option.bind_some,
    String.ofList_toList, Classification.ofName?_name]
  rfl

theorem newline_not_mem_line (h : s.Unbroken) : '\n' ∉ s.line.toList := by
  have hname : '\n' ∉ s.classification.name.toList := by cases s.classification <;> decide
  have hsign : '\n' ∉ " => ".toList := by decide
  rw [toList_line, List.mem_append, List.mem_append]
  rintro (hmem | hmem | hmem)
  · exact (h _ hmem).2 rfl
  · exact hsign hmem
  · exact hname hmem

end Line

section Page

def ofText? (text : String) : Option (List Step) :=
  if text = "" then some [] else (lines text).mapM ofLine?

theorem toList_render (steps : List Step) :
    (render steps).toList = List.intercalate ['\n'] (steps.map fun s => s.line.toList) := by
  rw [render, String.toList_intercalate, List.map_map]
  rfl

theorem lines_render (hne : steps ≠ []) (h : ∀ s ∈ steps, s.Unbroken) :
    lines (render steps) = steps.map line := by
  have hlines : ∀ l ∈ steps.map fun s => s.line.toList, '\n' ∉ l :=
    List.forall_mem_map.mpr fun s hs => newline_not_mem_line (h s hs)
  rw [lines, toList_render, List.splitOn_intercalate '\n' hlines (by simpa using hne), List.map_map]
  exact List.map_congr_left fun s _ => String.ofList_toList

theorem render_ne_empty (hne : steps ≠ []) (h : ∀ s ∈ steps, s.Unbroken) : render steps ≠ "" := by
  intro hempty
  have hlines := lines_render hne h
  obtain ⟨s, rest, rfl⟩ := List.exists_cons_of_ne_nil hne
  -- the only line of the empty text is empty, and a step has a sign in its line
  rw [hempty, List.map_cons] at hlines
  have hline : "" = s.line := (List.cons.inj hlines).1
  have hlist := toList_line s
  rw [← hline] at hlist
  simp at hlist

theorem ofText?_render (h : ∀ s ∈ steps, s.Unbroken) : ofText? (render steps) = some steps := by
  by_cases hne : steps = []
  · subst hne
    rfl
  · rw [ofText?, if_neg (render_ne_empty hne h), lines_render hne h]
    exact mapM_map_read fun s hs => ofLine?_line (h s hs)

end Page

section Structured

def ofJson? : Json → Option Step
  | .object fields => do
    let buffer ← Json.textField? "buffer" fields
    let classification ← (Json.textField? "classification" fields).bind Classification.ofName?
    return ⟨buffer, classification⟩
  | _ => none

@[simp] theorem ofJson?_toJson (s : Step) : ofJson? s.toJson = some s := by
  obtain ⟨buffer, classification⟩ := s
  cases classification <;> rfl

def listOfJson? : Json → Option (List Step)
  | .array items => items.mapM ofJson?
  | _ => none

@[simp] theorem listOfJson?_listToJson (steps : List Step) :
    listOfJson? (listToJson steps) = some steps :=
  mapM_map_read fun s _ => ofJson?_toJson s

def ofJsonText? (text : String) : Option (List Step) := (Json.read? text).bind listOfJson?

end Structured

end Step

theorem Symbol.unbroken_textOf (symbols : List Symbol) (c : Classification) :
    (Step.mk (textOf symbols) c).Unbroken := by
  have hchar : ∀ s : Symbol, s.char ≠ ' ' ∧ s.char ≠ '\n' := by
    intro s
    cases s <;> decide
  intro x hx
  rw [textOf, String.toList_ofList] at hx
  obtain ⟨s, -, rfl⟩ := List.mem_map.mp hx
  exact hchar s

theorem Matcher.unbroken_replay (m : Matcher) (symbols : List Symbol) :
    ∀ s ∈ m.replay symbols, s.Unbroken := by
  obtain ⟨n, -, heq, -, -⟩ := m.replayFrom_eq [] symbols
  intro s hs
  rw [replay, heq] at hs
  obtain ⟨i, -, rfl⟩ := List.mem_map.mp hs
  exact Symbol.unbroken_textOf _ _

/-- A replay can be told from its text: it is read back from it, so no other replay of any matcher
has the same, and where there are steps each has a line of its own, in their order. A list of any
steps is read back from its compact and from its pretty form. -/
theorem Step.renderings_determine :
    (∀ (m m' : Matcher) (symbols symbols' : List Symbol),
      ofText? (render (m.replay symbols)) = some (m.replay symbols) ∧
      (render (m.replay symbols) = render (m'.replay symbols') ↔
        m.replay symbols = m'.replay symbols') ∧
      (m.replay symbols ≠ [] → lines (render (m.replay symbols)) = (m.replay symbols).map line)) ∧
    ∀ steps : List Step, ofJsonText? (listToJson steps).compact = some steps ∧
      ofJsonText? (listToJson steps).pretty = some steps := by
  have htext (m : Matcher) (symbols : List Symbol) :
      ofText? (render (m.replay symbols)) = some (m.replay symbols) :=
    ofText?_render (m.unbroken_replay symbols)
  refine ⟨fun m m' symbols symbols' =>
    ⟨htext m symbols, ⟨fun h => ?_, congrArg render⟩, fun hne => ?_⟩,
    fun steps => ⟨?_, ?_⟩⟩
  · exact Option.some.inj ((htext m symbols).symm.trans
      ((congrArg ofText? h).trans (htext m' symbols')))
  · exact lines_render hne (m.unbroken_replay symbols)
  · simp [ofJsonText?]
  · simp [ofJsonText?]

/-- The text of a replay that stops behind the third of four keys. -/
theorem Step.renderings_determine_choice : ∃ m : Matcher,
    Matcher.compile .typical "1(?:2|34)?" ⟨none, none, false⟩ = .ok m ∧
    m.replay [.digit1, .digit3, .digit4, .digit5] ≠ [] ∧
    lines (render (m.replay [.digit1, .digit3, .digit4, .digit5])) =
      ["1 => match", "13 => potential_match", "134 => max_match"] := by
  obtain ⟨m, hm⟩ := Matcher.exists_compile_choice
  have hreplay := Matcher.replay_choice hm
  have hne : m.replay [.digit1, .digit3, .digit4, .digit5] ≠ [] := by
    rw [hreplay]
    exact List.cons_ne_nil _ _
  refine ⟨m, hm, hne, ?_⟩
  rw [(renderings_determine.1 m m [.digit1, .digit3, .digit4, .digit5] []).2.2 hne, hreplay]
  rfl

end Keypad
