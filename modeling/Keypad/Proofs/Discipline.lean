import Keypad.Proofs.Contract
import Keypad.CommandLine.Reply
/-!
How a run of the program ends. The buffer is read first: a character that is no symbol ends the run
with code 1, whatever the pattern is. Then everything that the task needs is built, and what cannot
be built ends the run with code 2. What is left ends with code 0. A run that fails prints nothing
but its report, and a run that succeeds prints nothing but what was asked for.
-/
namespace Keypad

open Keypad.Automaton

namespace Symbol

def IsKey (c : Char) : Prop := ∃ s : Symbol, s.char = c

/-- The first character of a text that is on no key, behind as many characters as the error says. -/
structure FirstFault (text : String) (e : SymbolError) : Prop where
  split : ∃ before after, text.toList = before ++ e.found :: after ∧ (∀ c ∈ before, IsKey c) ∧
    e.offset = some before.length
  fault : ¬ IsKey e.found

theorem ofChar?_eq_none_iff {c : Char} : ofChar? c = none ↔ ¬ IsKey c := by
  rw [Option.eq_none_iff_forall_ne_some, IsKey, not_exists]
  exact forall_congr' fun s => not_congr ofChar?_eq_some_iff

theorem readAll_eq_ok {n : Nat} {cs : List Char} {symbols : List Symbol}
    (h : readAll n cs = .ok symbols) :
    symbols.map char = cs := by
  induction cs generalizing n symbols with
  | nil =>
    obtain rfl := Except.ok.inj h
    rfl
  | cons c cs ih =>
    rw [readAll] at h
    split at h
    · cases h
    · next s hs =>
      split at h
      · next rest hrest =>
        obtain rfl := Except.ok.inj h
        rw [List.map_cons, ih hrest, char_of_ofChar? hs]
      · cases h

theorem readAll_eq_error {n : Nat} {cs : List Char} {e : SymbolError}
    (h : readAll n cs = .error e) :
    (∃ before after, cs = before ++ e.found :: after ∧ (∀ c ∈ before, IsKey c) ∧
      e.offset = some (n + before.length)) ∧ ¬ IsKey e.found := by
  induction cs generalizing n with
  | nil => cases h
  | cons c cs ih =>
    rw [readAll] at h
    split at h
    · next hc =>
      obtain rfl := Except.error.inj h
      exact ⟨⟨[], cs, rfl, List.forall_mem_nil _, rfl⟩, ofChar?_eq_none_iff.mp hc⟩
    · next s hs =>
      split at h
      · cases h
      · next e' he =>
        obtain rfl := Except.error.inj h
        obtain ⟨⟨before, after, rfl, hbefore, hoffset⟩, hfault⟩ := ih he
        refine ⟨⟨c :: before, after, rfl,
          List.forall_mem_cons.mpr ⟨⟨s, char_of_ofChar? hs⟩, hbefore⟩, ?_⟩, hfault⟩
        rw [hoffset, List.length_cons]
        exact congrArg some (by omega)

theorem parse_cases (text : String) :
    (∃ symbols, parse text = .ok symbols ∧ textOf symbols = text) ∨
      ∃ e, parse text = .error e ∧ FirstFault text e := by
  cases h : parse text with
  | ok symbols => exact .inl ⟨symbols, rfl, by rw [textOf, readAll_eq_ok h, String.ofList_toList]⟩
  | error e =>
    obtain ⟨hsplit, hfault⟩ := readAll_eq_error h
    exact .inr ⟨e, rfl, by simpa only [Nat.zero_add] using hsplit, hfault⟩

theorem isKey_of_mem_textOf {symbols : List Symbol} {c : Char} (h : c ∈ (textOf symbols).toList) :
    IsKey c := by
  rw [textOf, String.toList_ofList] at h
  obtain ⟨s, -, hs⟩ := List.mem_map.mp h
  exact ⟨s, hs⟩

theorem FirstFault.found_mem {text : String} {e : SymbolError} (h : FirstFault text e) :
    e.found ∈ text.toList := by
  obtain ⟨before, after, htext, -⟩ := h.split
  rw [htext]
  exact List.mem_append_right before List.mem_cons_self

end Symbol

namespace Matcher

variable {m : Matcher}

theorem pattern_of_compile {engine : Engine} {pattern : String} {limits : Limits}
    (h : compile engine pattern limits = .ok m) :
    m.pattern = pattern := by
  obtain ⟨_, -, -, -, _, -, rfl⟩ := compile_eq_ok_iff.mp h
  rfl

theorem replay_ne_nil (m : Matcher) (first : Symbol) (rest : List Symbol) :
    m.replay (first :: rest) ≠ [] := by
  rw [replay, replayFrom]
  split <;> exact List.cons_ne_nil _ _

end Matcher

namespace CommandLine

open Reply (line)

namespace Reply

/-- A failure is reported and nothing is printed; a success is not reported. -/
def Separate (r : Reply) : Prop :=
  (r.exit ≠ 0 → r.output = "" ∧ r.errors ≠ "") ∧ (r.exit = 0 → r.errors = "")

theorem Separate.success (output : String) : (success output).Separate :=
  ⟨fun h => absurd rfl h, fun _ => rfl⟩

theorem Separate.failure {errors : String} (n : Nat) (h : errors ≠ "") :
    (failure (n + 1) errors).Separate :=
  ⟨fun _ => ⟨rfl, h⟩, nofun⟩

theorem line_ne_empty (text : String) : line text ≠ "" := by
  intro h
  simpa [line] using congrArg String.toList h

end Reply

theorem Refusal.page_ne_empty (r : Refusal) : r.page ≠ "" := by
  intro h
  simpa [Refusal.page] using congrArg String.toList h

namespace Task

def buffer : Task → String
  | .check _ => ""
  | .classify _ buffer _ _ | .trace _ buffer _ => buffer

/-- Everything that a task needs can be built: a grammar to classify with, otherwise a matcher. -/
def Builds (engine : Engine) (limits : Limits) : Task → Prop
  | .check pattern | .trace pattern _ _ => ∃ m, Matcher.compile engine pattern limits = .ok m
  | .classify pattern _ mode _ => ∃ g, Grammar.compile engine pattern mode limits = .ok g

/-- What a task prints once everything is built: its result on lines of its own, or nothing for a
replay of no symbols. -/
inductive Prints (engine : Engine) (limits : Limits) : Task → String → Prop
  | size {pattern m} (h : Matcher.compile engine pattern limits = .ok m) :
    Prints engine limits (.check pattern) (line s!"ok: `{pattern}` ({m.memoryUsage engine} bytes)")
  | outcome {pattern mode g} (h : Grammar.compile engine pattern mode limits = .ok g)
    (buffer : String) :
    Prints engine limits (.classify pattern buffer mode false) (line (g.find buffer).display)
  | outcomeJson {pattern mode g} (h : Grammar.compile engine pattern mode limits = .ok g)
    (buffer : String) :
    Prints engine limits (.classify pattern buffer mode true) (line (g.find buffer).toJson.pretty)
  | steps {pattern m} (h : Matcher.compile engine pattern limits = .ok m) (first : Symbol)
    (rest : List Symbol) :
    Prints engine limits (.trace pattern (Symbol.textOf (first :: rest)) false)
      (line (Step.render (m.replay (first :: rest))))
  | noSteps {pattern m} (h : Matcher.compile engine pattern limits = .ok m) :
    Prints engine limits (.trace pattern "" false) ""
  | stepsJson {pattern m} (h : Matcher.compile engine pattern limits = .ok m)
    (symbols : List Symbol) :
    Prints engine limits (.trace pattern (Symbol.textOf symbols) true)
      (line (Step.listToJson (m.replay symbols)).pretty)

end Task

/-- The three ways in which a task ends. -/
inductive Ends (engine : Engine) (limits : Limits) (task : Task) : Reply → Prop
  | faulty {e : SymbolError} (h : Symbol.FirstFault task.buffer e) :
    Ends engine limits task (.ofSymbolError e)
  | refused {e : PatternError} (hread : ∀ c ∈ task.buffer.toList, Symbol.IsKey c)
    (h : ¬ task.Builds engine limits) : Ends engine limits task (.ofPatternError e)
  | done {output : String} (hread : ∀ c ∈ task.buffer.toList, Symbol.IsKey c)
    (h : task.Builds engine limits) (hprints : task.Prints engine limits output) :
    Ends engine limits task (.success output)

theorem not_exists_ok {α ε : Type} {x : Except ε α} {e : ε} (h : x = .error e) :
    ¬ ∃ a, x = .ok a := by
  rintro ⟨a, ha⟩
  rw [h] at ha
  cases ha

namespace Ends

variable {engine : Engine} {limits : Limits} {task : Task} {reply : Reply}

theorem check (engine : Engine) (pattern : String) (limits : Limits) :
    Ends engine limits (.check pattern) (CommandLine.check engine pattern limits) := by
  unfold CommandLine.check
  cases hm : Matcher.compile engine pattern limits with
  | error e => exact .refused (by simp [Task.buffer]) (not_exists_ok hm)
  | ok m =>
    dsimp only
    rw [Matcher.pattern_of_compile hm]
    exact .done (by simp [Task.buffer]) ⟨m, hm⟩ (.size hm)

theorem classify (engine : Engine) (pattern buffer : String) (mode : Mode) (json : Bool)
    (limits : Limits) :
    Ends engine limits (.classify pattern buffer mode json)
      (CommandLine.classify engine pattern buffer mode json limits) := by
  unfold CommandLine.classify
  obtain ⟨symbols, hread, rfl⟩ | ⟨e, hread, hfault⟩ := Symbol.parse_cases buffer
  · rw [hread]
    dsimp only
    cases hg : Grammar.compile engine pattern mode limits with
    | error e => exact .refused (fun _ => Symbol.isKey_of_mem_textOf) (not_exists_ok hg)
    | ok g =>
      have hdone {output : String} :
          Task.Prints engine limits (.classify pattern (Symbol.textOf symbols) mode json) output →
            Ends engine limits (.classify pattern (Symbol.textOf symbols) mode json)
              (.success output) :=
        .done (fun _ => Symbol.isKey_of_mem_textOf) ⟨g, hg⟩
      cases json with
      | false => exact hdone (.outcome hg (Symbol.textOf symbols))
      | true => exact hdone (.outcomeJson hg (Symbol.textOf symbols))
  · rw [hread]
    exact .faulty hfault

theorem trace (engine : Engine) (pattern buffer : String) (json : Bool) (limits : Limits) :
    Ends engine limits (.trace pattern buffer json)
      (CommandLine.trace engine pattern buffer json limits) := by
  unfold CommandLine.trace
  obtain ⟨symbols, hread, rfl⟩ | ⟨e, hread, hfault⟩ := Symbol.parse_cases buffer
  · rw [hread]
    dsimp only
    cases hm : Matcher.compile engine pattern limits with
    | error e => exact .refused (fun _ => Symbol.isKey_of_mem_textOf) (not_exists_ok hm)
    | ok m =>
      have hdone {output : String} :
          Task.Prints engine limits (.trace pattern (Symbol.textOf symbols) json) output →
            Ends engine limits (.trace pattern (Symbol.textOf symbols) json) (.success output) :=
        .done (fun _ => Symbol.isKey_of_mem_textOf) ⟨m, hm⟩
      cases json with
      | true => exact hdone (.stepsJson hm symbols)
      | false =>
        cases symbols with
        | nil => exact hdone (.noSteps hm)
        | cons first rest =>
          dsimp only
          rw [if_neg Bool.false_ne_true, if_neg (by simp [Matcher.replay_ne_nil])]
          exact hdone (.steps hm first rest)
  · rw [hread]
    exact .faulty hfault

theorem answer (engine : Engine) (request : Request) :
    Ends engine request.limits request.task (request.answer engine) := by
  obtain ⟨task, size⟩ := request
  cases task with
  | check pattern => exact check engine pattern _
  | classify pattern buffer mode json => exact classify engine pattern buffer mode json _
  | trace pattern buffer json => exact trace engine pattern buffer json _

theorem exit_eq_one (h : Ends engine limits task reply) :
    reply.exit = 1 ↔ ∃ c ∈ task.buffer.toList, ¬ Symbol.IsKey c := by
  cases h with
  | faulty hfault => exact iff_of_true rfl ⟨_, hfault.found_mem, hfault.fault⟩
  | refused hread => exact iff_of_false nofun fun ⟨c, hc, hkey⟩ => hkey (hread c hc)
  | done hread => exact iff_of_false nofun fun ⟨c, hc, hkey⟩ => hkey (hread c hc)

theorem exit_eq_two (h : Ends engine limits task reply) :
    reply.exit = 2 ↔ (∀ c ∈ task.buffer.toList, Symbol.IsKey c) ∧ ¬ task.Builds engine limits := by
  cases h with
  | faulty hfault => exact iff_of_false nofun fun h => hfault.fault (h.1 _ hfault.found_mem)
  | refused hread hnone => exact iff_of_true rfl ⟨hread, hnone⟩
  | done _ hbuilds => exact iff_of_false nofun fun h => h.2 hbuilds

theorem exit_eq_zero (h : Ends engine limits task reply) :
    reply.exit = 0 ↔ (∀ c ∈ task.buffer.toList, Symbol.IsKey c) ∧ task.Builds engine limits := by
  cases h with
  | faulty hfault => exact iff_of_false nofun fun h => hfault.fault (h.1 _ hfault.found_mem)
  | refused _ hnone => exact iff_of_false nofun fun h => hnone h.2
  | done hread hbuilds => exact iff_of_true rfl ⟨hread, hbuilds⟩

theorem reports (h : Ends engine limits task reply) (hexit : reply.exit = 1) :
    ∃ e, Symbol.FirstFault task.buffer e ∧ reply = .ofSymbolError e := by
  cases h with
  | faulty hfault => exact ⟨_, hfault, rfl⟩
  | refused => cases hexit
  | done => cases hexit

theorem prints (h : Ends engine limits task reply) (hexit : reply.exit = 0) :
    task.Prints engine limits reply.output := by
  cases h with
  | faulty => cases hexit
  | refused => cases hexit
  | done _ _ hprints => exact hprints

theorem separate (h : Ends engine limits task reply) : reply.Separate := by
  cases h with
  | faulty => exact .failure 0 (Reply.line_ne_empty _)
  | refused => exact .failure 1 (Reply.line_ne_empty _)
  | done => exact .success _

end Ends

theorem Stop.separate (stop : Stop) : stop.answer.Separate := by
  cases stop with
  | explained s => exact .success _
  | version => exact .success _
  | nothingGiven => exact .failure 1 (Reply.line_ne_empty _)
  | refused r => exact .failure 1 r.page_ne_empty

/-- Whatever its arguments are, the program does not write to both streams. -/
theorem separate_answer (engine : Engine) (arguments : List String) :
    (answer engine arguments).Separate := by
  unfold answer
  split
  · exact (Ends.answer engine _).separate
  · exact Stop.separate _

/-- How the program ends when its arguments ask for a task. -/
theorem answer_discipline (engine : Engine) {arguments : List String} {request : Request}
    (h : readArguments arguments = .ok request) :
    ((answer engine arguments).exit = 1 ↔ ∃ c ∈ request.task.buffer.toList, ¬ Symbol.IsKey c) ∧
    ((answer engine arguments).exit = 1 →
      ∃ e, Symbol.FirstFault request.task.buffer e ∧ answer engine arguments = .ofSymbolError e) ∧
    ((answer engine arguments).exit = 2 ↔
      (∀ c ∈ request.task.buffer.toList, Symbol.IsKey c) ∧
      ¬ request.task.Builds engine request.limits) ∧
    ((answer engine arguments).exit = 0 ↔
      (∀ c ∈ request.task.buffer.toList, Symbol.IsKey c) ∧
      request.task.Builds engine request.limits) ∧
    ((answer engine arguments).exit ≠ 0 →
      (answer engine arguments).output = "" ∧ (answer engine arguments).errors ≠ "") ∧
    ((answer engine arguments).exit = 0 →
      (answer engine arguments).errors = "" ∧
      request.task.Prints engine request.limits (answer engine arguments).output) := by
  have hends : Ends engine request.limits request.task (answer engine arguments) := by
    rw [answer, h]
    exact Ends.answer engine request
  have hseparate := separate_answer engine arguments
  exact ⟨hends.exit_eq_one, hends.reports, hends.exit_eq_two, hends.exit_eq_zero, hseparate.1,
    fun hexit => ⟨hseparate.2 hexit, hends.prints hexit⟩⟩

/-- The class of the pattern is not closed, but the letter in the buffer is found first. -/
theorem answer_discipline_faulty :
    (answer .typical ["classify", "1[0-9", "1e", "--json"]).exit = 1 ∧
      (answer .typical ["classify", "1[0-9", "1e", "--json"]).output = "" := by
  have hread : readArguments ["classify", "1[0-9", "1e", "--json"] =
      .ok ⟨.classify "1[0-9" "1e" .dtmf true, none⟩ := by decide +kernel
  obtain ⟨hfaulty, -, -, -, hfailed, -⟩ := answer_discipline .typical hread
  have hexit : (answer .typical ["classify", "1[0-9", "1e", "--json"]).exit = 1 := by
    refine hfaulty.mpr ⟨'e', by decide, ?_⟩
    rw [← Symbol.ofChar?_eq_none_iff]
    decide
  exact ⟨hexit, (hfailed (by rw [hexit]; exact Nat.one_ne_zero)).1⟩

end CommandLine

end Keypad
