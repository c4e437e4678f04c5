import PromptLine.Proofs.Completion.Candidate
import PromptLine.Session.Workspace

namespace PromptLine

namespace Session

def Within (s : Session) : Prop := s.cursor ≤ s.text.length

theorem within_start (provider : Text) (completer : Completer) :
    (start provider completer).Within :=
  Nat.le_refl _

theorem within_setText (s : Session) (text : Text) (cursor : Nat) :
    (s.setText text cursor).Within :=
  Nat.min_le_right _ _

theorem within_accept (s : Session) (c : Candidate) : (s.accept c).Within :=
  c.cursor_applyTo_le s.text

end Session

namespace Workspace

variable {σ : Type} {w next : Workspace σ} {i : Nat} {s : Session} {action : Action} {step : Step}
  {reply : Reply}

inductive Effect (w : Workspace σ) : Step → Reply → Workspace σ → Prop where
  | absent {i : Nat} {action : Action} : w.sessions[i]? = none →
      Effect w (.session i action) .noSuchSession w
  | look {i : Nat} {s : Session} : w.sessions[i]? = some s → Effect w (.session i .look) .done w
  | setText {i : Nat} {s : Session} (text : Text) (cursor : Nat) : w.sessions[i]? = some s →
      Effect w (.session i (.setText text cursor)) .done (w.withSession i (s.setText text cursor))
  | completions {i : Nat} {s : Session} : w.sessions[i]? = some s →
      Effect w (.session i .completions) (.completion (s.completions w.shelf.catalog)) w
  | accept {i : Nat} {s : Session} {index : Nat} {c : Candidate} : w.sessions[i]? = some s →
      (s.completions w.shelf.catalog).candidates[index]? = some c →
      Effect w (.session i (.accept index))
        (.completion ((s.accept c).completions w.shelf.catalog)) (w.withSession i (s.accept c))
  | noCandidate {i : Nat} {s : Session} {index : Nat} : w.sessions[i]? = some s →
      (s.completions w.shelf.catalog).candidates[index]? = none →
      Effect w (.session i (.accept index)) .noSuchCandidate w
  | place {i : Nat} {s : Session} (c : Candidate) : w.sessions[i]? = some s →
      Effect w (.session i (.place c))
        (.completion ((s.accept c).completions w.shelf.catalog)) (w.withSession i (s.accept c))
  | run {i : Nat} {s : Session} (o : Outcome) : w.sessions[i]? = some s →
      Effect w (.session i .run) (.outcome o) w
  | clone {i : Nat} {s : Session} : w.sessions[i]? = some s →
      Effect w (.session i .clone) (.cloned w.sessions.length)
        { w with sessions := w.sessions ++ [s] }
  | shelf (e : Shelf.Step) :
      Effect w (.shelf e) (.shelf (w.shelf.step e).1) { w with shelf := (w.shelf.step e).2 }

theorem effect_step (w : Workspace σ) (step : Step) (x : σ) :
    Effect w step (w.step step x).1.1 (w.step step x).1.2 := by
  cases step with
  | shelf e => exact .shelf e
  | session i action =>
    cases hs : w.sessions[i]? with
    | none =>
      simp only [Workspace.step, hs]
      exact .absent hs
    | some s =>
      simp only [Workspace.step, hs]
      cases action with
      | look => exact .look hs
      | setText text cursor => exact .setText text cursor hs
      | completions => exact .completions hs
      | accept index =>
        cases hc : (s.completions w.shelf.catalog).candidates[index]? with
        | none =>
          simp only [act, hc]
          exact .noCandidate hs hc
        | some c =>
          simp only [act, hc]
          exact .accept hs hc
      | place c => exact .place c hs
      | run => exact .run _ hs
      | clone => exact .clone hs

theorem steps_cons (w : Workspace σ) (step : Step) (rest : List Step) (x : σ) :
    w.steps (step :: rest) x =
      (((w.step step x).1.1 :: ((w.step step x).1.2.steps rest (w.step step x).2).1.1,
        ((w.step step x).1.2.steps rest (w.step step x).2).1.2),
        ((w.step step x).1.2.steps rest (w.step step x).2).2) :=
  rfl

theorem steps_concat (w : Workspace σ) (done : List Step) (step : Step) (x : σ) :
    w.steps (done ++ [step]) x =
      (((w.steps done x).1.1 ++ [((w.steps done x).1.2.step step (w.steps done x).2).1.1],
        ((w.steps done x).1.2.step step (w.steps done x).2).1.2),
        ((w.steps done x).1.2.step step (w.steps done x).2).2) := by
  induction done generalizing w x with
  | nil => rfl
  | cons first done ih =>
    rw [List.cons_append, steps_cons, steps_cons, ih, List.cons_append]

def AllWithin (w : Workspace σ) : Prop := ∀ s ∈ w.sessions, s.Within

theorem AllWithin.withSession (h : w.AllWithin) (i : Nat) (hs : s.Within) :
    (w.withSession i s).AllWithin := by
  intro t ht
  rcases List.mem_or_eq_of_mem_set ht with ht | rfl
  · exact h t ht
  · exact hs

theorem Effect.allWithin (he : Effect w step reply next) (h : w.AllWithin) : next.AllWithin := by
  cases he with
  | setText text cursor _ => exact h.withSession _ (Session.within_setText _ text cursor)
  | accept _ _ => exact h.withSession _ (Session.within_accept _ _)
  | place c _ => exact h.withSession _ (Session.within_accept _ c)
  | @clone _ s hs =>
    intro t ht
    rcases List.mem_append.mp ht with ht | ht
    · exact h t ht
    · rw [List.mem_singleton.mp ht]
      exact h s (List.mem_of_getElem? hs)
  | absent _ => exact h
  | look _ => exact h
  | completions _ => exact h
  | noCandidate _ _ => exact h
  | run _ _ => exact h
  | shelf _ => exact h

theorem allWithin_steps (h : w.AllWithin) (done : List Step) (x : σ) :
    (w.steps done x).1.2.AllWithin := by
  induction done generalizing w x with
  | nil => exact h
  | cons step rest ih => exact ih ((effect_step w step x).allWithin h) (w.step step x).2

structure Completes (s : Session) (catalog : Catalog) (c : Completion) : Prop where
  eq : c = s.completer.complete s.text s.cursor catalog
  ordered : c.context.replaces.start ≤ c.context.replaces.stop
  atCursor : c.context.replaces.stop = s.cursor
  shared : ∀ cand ∈ c.candidates, cand.replaces = c.context.replaces

theorem completes_completions (hs : s.Within) (catalog : Catalog) :
    Completes s catalog (s.completions catalog) where
  eq := rfl
  ordered := Context.start_le_stop s.text s.cursor
  atCursor := Context.stop_eq_cursor hs
  shared _ hcand := Completer.replaces_of_mem hcand

theorem Effect.completes (he : Effect w (.session i action) (.completion c) next)
    (h : w.AllWithin) : ∃ s, next.sessions[i]? = some s ∧ next.shelf = w.shelf ∧
      Completes s w.shelf.catalog c := by
  cases he with
  | @completions _ s hs =>
    exact ⟨s, hs, rfl, completes_completions (h s (List.mem_of_getElem? hs)) _⟩
  | accept hs _ =>
    obtain ⟨hi, _⟩ := List.getElem?_eq_some_iff.mp hs
    exact ⟨_, List.getElem?_set_self hi, rfl, completes_completions (Session.within_accept _ _) _⟩
  | place cand hs =>
    obtain ⟨hi, _⟩ := List.getElem?_eq_some_iff.mp hs
    exact ⟨_, List.getElem?_set_self hi, rfl, completes_completions (Session.within_accept _ _) _⟩

theorem step_completions (hs : w.sessions[i]? = some s) (x : σ) :
    w.step (.session i .completions) x = ((.completion (s.completions w.shelf.catalog), w), x) := by
  simp only [Workspace.step, hs]
  rfl

theorem Effect.apart (he : Effect w (.session i action) reply next) {j : Nat} (hj : j ≠ i)
    (hs : w.sessions[j]? = some s) : next.sessions[j]? = some s := by
  have hset (t : Session) : (w.withSession i t).sessions[j]? = some s := by
    rw [withSession, List.getElem?_set_ne hj.symm, hs]
  cases he with
  | setText text cursor _ => exact hset _
  | accept _ _ => exact hset _
  | place c _ => exact hset _
  | clone _ =>
    obtain ⟨hlen, _⟩ := List.getElem?_eq_some_iff.mp hs
    rw [List.getElem?_append_left hlen, hs]
  | absent _ => exact hs
  | look _ => exact hs
  | completions _ => exact hs
  | noCandidate _ _ => exact hs
  | run _ _ => exact hs

structure Proceeds (w : Workspace σ) (step : Step) (reply : Reply) (next : Workspace σ) : Prop where
  completes : ∀ i action c, step = .session i action → reply = .completion c →
    ∃ s, next.sessions[i]? = some s ∧ next.shelf = w.shelf ∧ Completes s w.shelf.catalog c
  repeats : ∀ i action c, step = .session i action → reply = .completion c →
    ∀ y, next.step (.session i .completions) y = ((.completion c, next), y)
  answers : ∀ i s, w.sessions[i]? = some s →
    (step = .session i .completions ∨ (∃ cand, step = .session i (.place cand)) ∨
      ∃ k < (s.completions w.shelf.catalog).candidates.length, step = .session i (.accept k)) →
    ∃ c, reply = .completion c
  reads : ∀ i, step = .session i .completions ∨ step = .session i .run → next = w
  clones : ∀ i s, w.sessions[i]? = some s → step = .session i .clone →
    next.sessions = w.sessions ++ [s]
  apart : ∀ i action, step = .session i action → ∀ j s, j ≠ i → w.sessions[j]? = some s →
    next.sessions[j]? = some s
  shelved : ∀ e, step = .shelf e → next.sessions = w.sessions

theorem Effect.answers (he : Effect w (.session i action) reply next) (hs : w.sessions[i]? = some s)
    (ha : action = .completions ∨ (∃ cand, action = .place cand) ∨
      ∃ k < (s.completions w.shelf.catalog).candidates.length, action = .accept k) :
    ∃ c, reply = .completion c := by
  cases he with
  | absent hnone => rw [hnone] at hs; cases hs
  | completions _ => exact ⟨_, rfl⟩
  | accept _ _ => exact ⟨_, rfl⟩
  | place _ _ => exact ⟨_, rfl⟩
  | @noCandidate _ t index hs' hnone =>
    obtain rfl : t = s := Option.some.inj (hs'.symm.trans hs)
    have hindex : index < (t.completions w.shelf.catalog).candidates.length := by simpa using ha
    rw [List.getElem?_eq_none_iff] at hnone
    omega
  | look _ => simp at ha
  | setText _ _ _ => simp at ha
  | run _ _ => simp at ha
  | clone _ => simp at ha

theorem Effect.proceeds (he : Effect w step reply next) (h : w.AllWithin) :
    Proceeds w step reply next where
  completes i action c hstep hreply := by
    subst hstep hreply
    exact he.completes h
  repeats i action c hstep hreply y := by
    subst hstep hreply
    obtain ⟨s, hs, hshelf, hc⟩ := he.completes h
    rw [step_completions hs y, hshelf, hc.eq]
    rfl
  answers i s hs hstep := by
    rcases hstep with rfl | ⟨cand, rfl⟩ | ⟨k, hk, rfl⟩
    · exact he.answers hs (.inl rfl)
    · exact he.answers hs (.inr (.inl ⟨cand, rfl⟩))
    · exact he.answers hs (.inr (.inr ⟨k, hk, rfl⟩))
  reads i hstep := by
    rcases hstep with rfl | rfl
    · cases he <;> rfl
    · cases he <;> rfl
  clones i s hs hstep := by
    subst hstep
    cases he with
    | absent hnone => rw [hnone] at hs; cases hs
    | clone hs' => rw [Option.some.inj (hs'.symm.trans hs)]
  apart i action hstep j s hj hs := by
    subst hstep
    exact he.apart hj hs
  shelved e hstep := by
    subst hstep
    cases he
    rfl

theorem cursors_stay_in_their_texts {σ : Type} {w : Workspace σ}
    (hnew : ∀ s ∈ w.sessions, ∃ provider completer, s = Session.start provider completer)
    (done : List Step) (x : σ) :
    let past := w.steps done x
    (∀ s ∈ past.1.2.sessions, s.cursor ≤ s.text.length) ∧
    ∀ step, ∃ reply next y, past.1.2.step step past.2 = ((reply, next), y) ∧
      w.steps (done ++ [step]) x = ((past.1.1 ++ [reply], next), y) ∧
      Proceeds past.1.2 step reply next := by
  intro past
  have hwithin : w.AllWithin := by
    intro s hs
    obtain ⟨provider, completer, rfl⟩ := hnew s hs
    exact Session.within_start provider completer
  have hpast : past.1.2.AllWithin := allWithin_steps hwithin done x
  refine ⟨hpast, fun step => ⟨_, _, _, rfl, steps_concat w done step x, ?_⟩⟩
  exact (effect_step past.1.2 step past.2).proceeds hpast

def sharedWorkspace : Workspace Unit :=
  ⟨.empty, .ofCatalog dottedCatalog, [.start ['G'] dottedCompleter]⟩

def losingSteps : List Step :=
  [.session 0 .clone, .session 0 (.setText "G.".toList 9),
    .shelf (.refresh ⟨['G'], .error (.fetch ['G'] [])⟩)]

theorem stale_candidate_is_placed : ∃ c next,
    (sharedWorkspace.steps (losingSteps ++ [.session 0 (.place dottedName)]) ()).1.2 = next ∧
      next.sessions = [⟨dottedCompleter, "G.a.b.".toList, 6⟩, .start ['G'] dottedCompleter] ∧
      c = dottedCompleter.complete "G.a.b.".toList 6 (.empty ['G']) ∧
      c.context.replaces.stop = 6 := by
  have hnew : ∀ s ∈ sharedWorkspace.sessions,
      ∃ provider completer, s = Session.start provider completer :=
    List.forall_mem_singleton.mpr ⟨['G'], dottedCompleter, rfl⟩
  obtain ⟨_, hstep⟩ := cursors_stay_in_their_texts hnew losingSteps ()
  obtain ⟨reply, next, y, _, hrun, hproceeds⟩ := hstep (.session 0 (.place dottedName))
  have hnext : next =
      (sharedWorkspace.steps (losingSteps ++ [.session 0 (.place dottedName)]) ()).1.2 := by
    rw [hrun]
  have hsessions : next.sessions =
      [⟨dottedCompleter, "G.a.b.".toList, 6⟩, .start ['G'] dottedCompleter] := by
    rw [hnext]
    decide
  obtain ⟨c, hc⟩ := hproceeds.answers 0 _ rfl (.inr (.inl ⟨_, rfl⟩))
  obtain ⟨s, hs, _, hcompletes⟩ := hproceeds.completes 0 _ c rfl hc
  obtain rfl : ⟨dottedCompleter, "G.a.b.".toList, 6⟩ = s := by simpa [hsessions] using hs
  exact ⟨c, next, hnext.symm, hsessions, hcompletes.eq, hcompletes.atCursor⟩

end Workspace

end PromptLine
