import PromptLine.Proofs.Command.Grammar
import PromptLine.Proofs.Execution.Registry
import PromptLine.Session.Basic

namespace PromptLine.Session

variable {σ : Type} {s : Session} {execute : Executor σ} {c : Command} {e : ParseError}

theorem trim_ne_nil_of_parse (h : Command.parse s.text = .ok c) : Text.trim s.text ≠ [] := by
  intro hblank
  obtain ⟨_, _, _, gap, rest, _, _, htext⟩ := Command.parse_eq_ok_iff.mp h
  rw [hblank] at htext
  simp at htext

theorem run_of_parse (h : Command.parse s.text = .ok c) :
    s.run execute = Outcome.ofAnswer <$> execute c := by
  have hblank : (Text.trim s.text).isEmpty = false := by simpa using trim_ne_nil_of_parse h
  simp only [run, Outcome.ofText, hblank, h, Bool.false_eq_true, if_false]

theorem run_of_error (h : Command.parse s.text = .error e) (w : σ) :
    (s.run execute w).2 = w := by
  simp only [run, Outcome.ofText, h]
  split
  · rfl
  · rfl

theorem run_eq_of_error (h : Command.parse s.text = .error e) :
    ∃ o, (o = .empty ∨ o = .rejected e) ∧
      ∀ {σ : Type} (execute : Executor σ) (w : σ), s.run execute w = (o, w) := by
  by_cases hblank : (Text.trim s.text).isEmpty = true
  · exact ⟨.empty, .inl rfl, fun execute w => by simp only [run, Outcome.ofText, hblank]; rfl⟩
  · refine ⟨.rejected e, .inr rfl, fun execute w => ?_⟩
    simp only [run, Outcome.ofText, hblank, h]
    rfl

theorem run_noted_of_parse (h : Command.parse s.text = .ok c) (w : σ) (seen : List Command) :
    s.run execute.noted (w, seen) =
      (.ofAnswer (execute c w).1, (execute c w).2, seen ++ [c]) := by
  rw [run_of_parse h]
  rfl

end PromptLine.Session
