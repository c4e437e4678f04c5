import PromptLine.Proofs.Shell.Program

namespace PromptLine.Shell

open Gemini (Client)

variable {h : Host} {args : List Text} {text : Text} {c : Config} {b after : Backend}
  {cmd : Command} {ran checked : Ending}

theorem program?_check {file : Option Text}
    (hargs : Invocation.ofArguments args = .ok ⟨file, .check text⟩) (h : Host) (b : Backend) :
    program? h args b = (some (check text), b) := by
  rw [program?_eq hargs]
  rfl

theorem check_of_parse (hparse : Command.parse text = .ok cmd) :
    check text = .printedJson cmd.toJson := by
  simp only [check, hparse]

theorem code_check_of_error {e : ParseError} (hparse : Command.parse text = .error e) :
    (check text).code = 2 := by
  simp only [check, hparse]
  rfl

theorem code_check_eq_two_iff : (check text).code = 2 ↔ ∃ e, Command.parse text = .error e := by
  cases hparse : Command.parse text with
  | error e => exact iff_of_true (code_check_of_error hparse) ⟨e, rfl⟩
  | ok cmd =>
    rw [check_of_parse hparse]
    exact iff_of_false nofun (by simp)

theorem read?_check (hparse : Command.parse text = .ok cmd) :
    (Json.read? (check text).output).bind Command.ofJson? = some cmd := by
  rw [check_of_parse hparse, read?_printedJson cmd.spelled_toJson, Option.bind_some,
    Command.ofJson?_toJson]

theorem parse_blank (hblank : ∀ x ∈ text, isBlank x = true) :
    ∃ e, Command.parse text = .error e := by
  refine ⟨.malformedSyntax text, ?_⟩
  rw [Command.parse, Text.trim_eq_nil hblank]
  rfl

def Stages (c : Config) (text : Text) (s : Session) : Prop :=
  s.text = text ∧ ∀ b, run text c b = (s.run (Client.ofConfig c).registry.execute b).map endingOf id

def Executes (c : Config) (text : Text) (b : Backend) (ran : Ending) (after : Backend)
    (commands : List Command) : Prop :=
  ∃ (s : Session) (o : Outcome), Stages c text s ∧ ran = endingOf o ∧
    s.run (Client.ofConfig c).registry.execute b = (o, after) ∧
    ∀ seen, s.run (Client.ofConfig c).registry.execute.noted (b, seen) =
      (o, after, seen ++ commands)

theorem exists_stages (text : Text) (c : Config) : ∃ s, Stages c text s := ⟨_, rfl, fun _ => rfl⟩

theorem run_of_error {e : ParseError} (hparse : Command.parse text = .error e) (c : Config)
    (b : Backend) : ∃ o, run text c b = (endingOf o, b) ∧ (endingOf o).code = 2 ∧
      Executes c text b (endingOf o) b [] := by
  obtain ⟨s, rfl, hrun⟩ := exists_stages text c
  obtain ⟨o, ho, hsession⟩ := Session.run_eq_of_error hparse
  refine ⟨o, by rw [hrun, hsession]; rfl, ?_, s, o, ⟨rfl, hrun⟩, rfl, hsession _ b, fun seen => ?_⟩
  · rcases ho with rfl | rfl
    · rfl
    · rfl
  · rw [hsession, List.append_nil]

theorem run_of_parse {answer : Answer} (hparse : Command.parse text = .ok cmd)
    (hanswer : (Client.ofConfig c).registry.execute cmd b = (answer, after)) :
    run text c b = (endingOf (.ofAnswer answer), after) ∧
      Executes c text b (endingOf (.ofAnswer answer)) after [cmd] := by
  obtain ⟨s, rfl, hrun⟩ := exists_stages text c
  have hsession : s.run (Client.ofConfig c).registry.execute b = (.ofAnswer answer, after) := by
    rw [Session.run_of_parse hparse]
    exact congrArg (Prod.map Outcome.ofAnswer id) hanswer
  refine ⟨by rw [hrun, hsession]; rfl, s, _, ⟨rfl, hrun⟩, rfl, hsession, fun seen => ?_⟩
  rw [Session.run_noted_of_parse hparse, hanswer]

theorem code_endingOf_ofAnswer (answer : Answer) :
    ((endingOf (.ofAnswer answer)).code = 0 ↔ ∃ t, answer = .ok t) ∧
      ((endingOf (.ofAnswer answer)).code = 1 ↔ ∃ e, answer = .error e) ∧
      (endingOf (.ofAnswer answer)).code ≠ 2 := by
  cases answer with
  | ok t => exact ⟨iff_of_true rfl ⟨t, rfl⟩, iff_of_false Nat.zero_ne_one (by simp), nofun⟩
  | error e => exact ⟨iff_of_false Nat.one_ne_zero (by simp), iff_of_true rfl ⟨e, rfl⟩, nofun⟩

theorem code_of_output_ne_nil {o : Outcome} (h : (endingOf o).output ≠ []) :
    (endingOf o).code = 0 := by
  cases o with
  | output t => rfl
  | empty => exact absurd rfl h
  | rejected e => exact absurd rfl h
  | failed e => exact absurd rfl h

structure Agree (c : Config) (text : Text) (b : Backend) (checked ran : Ending) (after : Backend) :
    Prop where
  checked_refused : checked.code = 2 ↔ ∃ e, Command.parse text = .error e
  ran_refused : ran.code = 2 ↔ checked.code = 2
  blank : (∀ x ∈ text, isBlank x = true) → ran.code = 2
  idle : ran.code = 2 → after = b ∧ Executes c text b ran after []
  printed : ∀ cmd, Command.parse text = .ok cmd → checked.code = 0 ∧
    (Json.read? checked.output).bind Command.ofJson? = some cmd
  executed : ∀ cmd, Command.parse text = .ok cmd → Executes c text b ran after [cmd] ∧
    ∃ answer, (Client.ofConfig c).registry.execute cmd b = (answer, after) ∧
      (ran.code = 0 ↔ ∃ t, answer = .ok t) ∧ (ran.code = 1 ↔ ∃ e, answer = .error e)
  silent : ran.output ≠ [] → ran.code = 0

theorem agree_of_error {e : ParseError} (hparse : Command.parse text = .error e) (c : Config)
    (b : Backend) : Agree c text b (check text) (run text c b).1 (run text c b).2 := by
  obtain ⟨o, hrun, hcode, hexecutes⟩ := run_of_error hparse c b
  have hnone (cmd : Command) : Command.parse text ≠ .ok cmd := by simp [hparse]
  rw [hrun]
  exact {
    checked_refused := code_check_eq_two_iff
    ran_refused := iff_of_true hcode (code_check_of_error hparse)
    blank := fun _ => hcode
    idle := fun _ => ⟨rfl, hexecutes⟩
    printed := fun cmd hcmd => absurd hcmd (hnone cmd)
    executed := fun cmd hcmd => absurd hcmd (hnone cmd)
    silent := code_of_output_ne_nil }

theorem agree_of_parse (hparse : Command.parse text = .ok cmd) (c : Config) (b : Backend) :
    Agree c text b (check text) (run text c b).1 (run text c b).2 := by
  obtain ⟨answer, after, hanswer⟩ : ∃ answer after,
      (Client.ofConfig c).registry.execute cmd b = (answer, after) := ⟨_, _, rfl⟩
  obtain ⟨hrun, hexecutes⟩ := run_of_parse hparse hanswer
  obtain ⟨hok, herror, htwo⟩ := code_endingOf_ofAnswer answer
  have haccepted : ¬ ∃ e, Command.parse text = .error e := by simp [hparse]
  have hchecked : (check text).code ≠ 2 := mt code_check_eq_two_iff.mp haccepted
  rw [hrun]
  exact {
    checked_refused := code_check_eq_two_iff
    ran_refused := iff_of_false htwo hchecked
    blank := fun hblank => absurd (parse_blank hblank) haccepted
    idle := fun hcode => absurd hcode htwo
    printed := by
      intro cmd' hcmd
      exact ⟨by rw [check_of_parse hcmd]; rfl, read?_check hcmd⟩
    executed := by
      intro cmd' hcmd
      obtain rfl := Except.ok.inj (hparse.symm.trans hcmd)
      exact ⟨hexecutes, answer, hanswer, hok, herror⟩
    silent := code_of_output_ne_nil }

theorem run_executes_what_check_prints (hrun : Connects h args (.run text) c) (b : Backend) :
    ∃ checked ran after,
      (∀ other args' file b', Invocation.ofArguments args' = .ok ⟨file, .check text⟩ →
        program? other args' b' = (some checked, b')) ∧
      program? h args b = (some ran, after) ∧ Agree c text b checked ran after := by
  refine ⟨check text, (run text c b).1, (run text c b).2, ?_, hrun.program?_run, ?_⟩
  · exact fun other args' file b' hcheck => program?_check hcheck other b'
  · cases hparse : Command.parse text with
    | error e => exact agree_of_error hparse c b
    | ok cmd => exact agree_of_parse hparse c b

def homelessHost : Host := ⟨fun _ => .error .notFound, 0, [], none⟩

def countedText : Text := " Gemini.a.b.countTokens ('\"')".toList

def countingBackend : Backend :=
  .scripted [] (.answer 200 (Utf8.encode "\x7b\"totalTokens\":7\x7d".toList) none)

theorem counted_text_is_executed : ∃ checked ran after,
    program? homelessHost ["check".toList, "--".toList, countedText] .offline =
      (some checked, .offline) ∧
    program? keyedHost ["run".toList, countedText] countingBackend = (some ran, after) ∧
    checked.code = 0 ∧ ran.code = 0 := by
  have hrun : Connects keyedHost ["run".toList, countedText] (.run countedText)
      { Config.default with apiKey := some ['k'] } := ⟨none, by decide +kernel, by decide +kernel⟩
  have hparse : Command.parse countedText = .ok ⟨"Gemini".toList, "a.b".toList,
      "countTokens".toList, ['"']⟩ := by decide +kernel
  have hanswer : ((Client.ofConfig { Config.default with apiKey := some ['k'] }).registry.execute
      ⟨"Gemini".toList, "a.b".toList, "countTokens".toList, ['"']⟩ countingBackend).1 = .ok ['7'] := by
    decide +kernel
  obtain ⟨checked, ran, after, hcheck, hran, hagree⟩ :=
    run_executes_what_check_prints hrun countingBackend
  obtain ⟨_, answer, hexecute, hok, _⟩ := hagree.executed _ hparse
  rw [hexecute] at hanswer
  have hchecked := hcheck homelessHost ["check".toList, "--".toList, countedText] none .offline
    (by decide +kernel)
  exact ⟨checked, ran, after, hchecked, hran, (hagree.printed _ hparse).1, hok.mpr ⟨_, hanswer⟩⟩

end PromptLine.Shell
