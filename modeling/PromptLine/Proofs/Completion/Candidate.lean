import PromptLine.Proofs.Completion.Context

namespace PromptLine

namespace Stage

def Closes (v : Text) : Stage → Prop
  | .provider => '.' ∉ v ∧ '(' ∉ v
  | .model => '(' ∉ v
  | .method => True
  | .arguments => False

instance (v : Text) (s : Stage) : Decidable (s.Closes v) :=
  match s with
  | .provider => inferInstanceAs (Decidable ('.' ∉ v ∧ '(' ∉ v))
  | .model => inferInstanceAs (Decidable ('(' ∉ v))
  | .method => inferInstanceAs (Decidable True)
  | .arguments => inferInstanceAs (Decidable False)

variable {x v : Text}

theorem fits_model_dot (h : Stage.provider.Fits x) :
    Stage.model.Fits (x ++ (v ++ ['.'])) ↔ '.' ∉ v ∧ '(' ∉ v := by
  obtain ⟨hparen, hcount⟩ := h
  have hv : (x ++ (v ++ ['.'])).count '.' = v.count '.' + 1 := by simp [hcount]
  simp only [Fits, hv, List.mem_append, not_or]
  constructor
  · rintro ⟨⟨_, hp, _⟩, hc⟩
    exact ⟨List.count_eq_zero.mp (by omega), hp⟩
  · rintro ⟨hd, hp⟩
    exact ⟨⟨hparen, hp, by decide⟩, by rw [List.count_eq_zero.mpr hd]⟩

theorem fits_method_dot (h : Stage.model.Fits x) :
    Stage.method.Fits (x ++ (v ++ ['.'])) ↔ '(' ∉ v := by
  obtain ⟨hparen, hcount⟩ := h
  have hv : 2 ≤ (x ++ (v ++ ['.'])).count '.' := by
    simp only [List.count_append, hcount, List.count_singleton_self]
    omega
  simp only [Fits, hv, and_true, List.mem_append, not_or]
  constructor
  · rintro ⟨_, hp, _⟩
    exact hp
  · intro hp
    exact ⟨hparen, hp, by decide⟩

theorem fits_arguments_paren : Stage.arguments.Fits (x ++ (v ++ ['('])) := by
  simp [Fits]

end Stage

namespace Completer

variable {k : Completer} {ctx : Context} {catalog : Catalog} {cand : Candidate}

theorem mem_candidates : cand ∈ k.candidates ctx catalog ↔
    ∃ v ∈ (k.values ctx catalog).1, ctx.admits v.1 = true ∧
      cand = ⟨v.1, v.1 ++ (k.values ctx catalog).2, ctx.replaces, v.2⟩ := by
  simp only [candidates, List.mem_map, List.mem_filter, and_assoc]
  constructor
  · rintro ⟨v, hv, ha, rfl⟩
    exact ⟨v, hv, ha, rfl⟩
  · rintro ⟨v, hv, ha, rfl⟩
    exact ⟨v, hv, ha, rfl⟩

theorem mem_candidates_provider (h : ctx.stage = .provider) : cand ∈ k.candidates ctx catalog ↔
    ∃ p ∈ k.providers, ctx.admits p = true ∧ cand = ⟨p, p ++ ['.'], ctx.replaces, none⟩ := by
  simp only [mem_candidates, values, h, List.mem_map]
  constructor
  · rintro ⟨_, ⟨p, hp, rfl⟩, ha, rfl⟩
    exact ⟨p, hp, ha, rfl⟩
  · rintro ⟨p, hp, ha, rfl⟩
    exact ⟨_, ⟨p, hp, rfl⟩, ha, rfl⟩

theorem mem_candidates_model (h : ctx.stage = .model) : cand ∈ k.candidates ctx catalog ↔
    k.serves ctx.provider catalog = true ∧ ∃ e ∈ catalog.entries, ctx.admits e.name = true ∧
      cand = ⟨e.name, e.name ++ ['.'], ctx.replaces, e.displayName⟩ := by
  cases hs : k.serves ctx.provider catalog with
  | false => simp [mem_candidates, values, h, hs]
  | true =>
    simp only [mem_candidates, values, h, hs, if_true, List.mem_map, true_and]
    constructor
    · rintro ⟨_, ⟨e, he, rfl⟩, ha, rfl⟩
      exact ⟨e, he, ha, rfl⟩
    · rintro ⟨e, he, ha, rfl⟩
      exact ⟨_, ⟨e, he, rfl⟩, ha, rfl⟩

theorem mem_candidates_method (h : ctx.stage = .method) : cand ∈ k.candidates ctx catalog ↔
    k.serves ctx.provider catalog = true ∧ ∃ e, ctx.model.bind catalog.get? = some e ∧
      ∃ a ∈ e.actions, ctx.admits a = true ∧ cand = ⟨a, a ++ ['('], ctx.replaces, none⟩ := by
  cases hs : k.serves ctx.provider catalog with
  | false => simp [mem_candidates, values, h, hs]
  | true =>
    cases he : ctx.model.bind catalog.get? with
    | none => simp [mem_candidates, values, h, hs, he]
    | some e =>
      simp only [mem_candidates, values, h, hs, he, if_true, List.mem_map, true_and,
        Option.some.injEq, exists_eq_left']
      constructor
      · rintro ⟨_, ⟨a, ha, rfl⟩, hadm, rfl⟩
        exact ⟨a, ha, hadm, rfl⟩
      · rintro ⟨a, ha, hadm, rfl⟩
        exact ⟨_, ⟨a, ha, rfl⟩, hadm, rfl⟩

theorem candidates_arguments (h : ctx.stage = .arguments) : k.candidates ctx catalog = [] := by
  simp [candidates, values, h]

theorem replaces_of_mem (h : cand ∈ k.candidates ctx catalog) : cand.replaces = ctx.replaces := by
  obtain ⟨v, _, _, rfl⟩ := mem_candidates.mp h
  rfl

end Completer

namespace Candidate

theorem cursor_applyTo_le (c : Candidate) (text : Text) :
    (c.applyTo text).2 ≤ (c.applyTo text).1.length := by
  simp only [applyTo, List.length_append, List.length_take]
  omega

theorem applyTo_clamped {text before old behind : Text} {cand : Candidate}
    (ht : text = before ++ old ++ behind)
    (hstart : before.length = min cand.replaces.start text.length)
    (hstop : (before ++ old).length =
      max (min cand.replaces.start text.length) (min cand.replaces.stop text.length)) :
    cand.applyTo text = (before ++ cand.insert ++ behind, (before ++ cand.insert).length) := by
  rw [applyTo, ← hstop, ← hstart, ht, List.drop_left, List.append_assoc before, List.take_left,
    List.length_append]

theorem applyTo_of_replaces {text before old : Text} {cursor : Nat} {cand : Candidate}
    (h : cand.replaces = (Context.resolve text cursor).replaces)
    (hbefore : text.take cursor = before ++ old)
    (hstart : (Context.resolve text cursor).replaces.start = before.length) :
    cand.applyTo text = (before ++ cand.insert ++ text.drop cursor, (before ++ cand.insert).length) := by
  have hstop := (Context.reads_resolve text cursor).stop_eq
  rw [hbefore] at hstop
  rw [← h] at hstart hstop
  have ht : text = before ++ old ++ text.drop cursor := by
    rw [← hbefore, List.take_append_drop]
  have hlength : text.length = (before ++ old).length + (text.drop cursor).length := by
    rw [← List.length_append, ← ht]
  rw [List.length_append] at hstop hlength
  refine applyTo_clamped ht ?_ ?_
  · rw [hstart]
    omega
  · rw [hstart, hstop, List.length_append]
    omega

theorem exists_applyTo {text : Text} {cursor : Nat} {cand : Candidate}
    (h : cand.replaces = (Context.resolve text cursor).replaces) :
    ∃ x, (Context.resolve text cursor).stage.Fits x ∧
      cand.applyTo text = (x ++ cand.insert ++ text.drop cursor, (x ++ cand.insert).length) := by
  have hreads := Context.reads_resolve text cursor
  obtain ⟨x, trail, hbefore, hstart, hdot, hparen⟩ := hreads.exists_before
  have hfits := hreads.stage_fits
  rw [hbefore, Stage.fits_append hdot hparen] at hfits
  exact ⟨x, hfits, applyTo_of_replaces h hbefore hstart⟩

theorem reads_applyTo {text x rest : Text} {cand : Candidate}
    (h : cand.applyTo text = (x ++ cand.insert ++ rest, (x ++ cand.insert).length)) :
    Context.Reads (x ++ cand.insert) (Context.resolve (cand.applyTo text).1 (cand.applyTo text).2) := by
  have hreads := Context.reads_resolve (cand.applyTo text).1 (cand.applyTo text).2
  rw [h, List.take_left] at hreads
  rw [h]
  exact hreads

end Candidate

theorem Completer.accepted_candidate_advances {k : Completer} {catalog : Catalog} {text : Text}
    {cursor : Nat} {cand : Candidate} (h : cand ∈ (k.complete text cursor catalog).candidates) :
    let ctx := (k.complete text cursor catalog).context
    let next := Context.resolve (cand.applyTo text).1 (cand.applyTo text).2
    (ctx.stage = .method ∧ next.stage = .arguments ∨
      ctx.stage = .model ∧ (∃ e ∈ catalog.entries, e.name = cand.label) ∧
        (next.stage = .method ↔ '(' ∉ cand.label) ∨
      ctx.stage = .provider ∧ cand.label ∈ k.providers ∧
        (next.stage = .model ↔ '.' ∉ cand.label ∧ '(' ∉ cand.label)) ∧
    (next.stage = ctx.stage.next ↔ ctx.stage.Closes cand.label) ∧
    next.typed = [] ∧ next.replaces = ⟨(cand.applyTo text).2, (cand.applyTo text).2⟩ := by
  intro ctx next
  have hmem : cand ∈ k.candidates ctx catalog := h
  obtain ⟨x, hfits, happly⟩ := Candidate.exists_applyTo (replaces_of_mem hmem)
  have hnext : Context.Reads (x ++ cand.insert) next := Candidate.reads_applyTo happly
  have hcursor : (cand.applyTo text).2 = (x ++ cand.insert).length := by rw [happly]
  rw [hcursor]
  change ctx.stage.Fits x at hfits
  clear_value next
  cases hs : ctx.stage with
  | provider =>
    rw [hs] at hfits
    obtain ⟨p, hp, _, rfl⟩ := (mem_candidates_provider hs).mp hmem
    have hstage : next.stage = .model ↔ '.' ∉ p ∧ '(' ∉ p :=
      hnext.stage_eq_iff.trans (Stage.fits_model_dot hfits)
    exact ⟨.inr (.inr ⟨rfl, hp, hstage⟩), hstage, hnext.typed_after_dot⟩
  | model =>
    rw [hs] at hfits
    obtain ⟨_, e, he, _, rfl⟩ := (mem_candidates_model hs).mp hmem
    have hstage : next.stage = .method ↔ '(' ∉ e.name :=
      hnext.stage_eq_iff.trans (Stage.fits_method_dot hfits)
    exact ⟨.inr (.inl ⟨rfl, ⟨e, he, rfl⟩, hstage⟩), hstage, hnext.typed_after_dot⟩
  | method =>
    obtain ⟨_, _, _, a, _, _, rfl⟩ := (mem_candidates_method hs).mp hmem
    have hfits' : Stage.arguments.Fits (x ++ (a ++ ['('])) := Stage.fits_arguments_paren
    have hstage : next.stage = .arguments := hnext.stage_eq_iff.mpr hfits'
    exact ⟨.inl ⟨rfl, hstage⟩, iff_of_true hstage trivial, hnext.typed_of_arguments hfits'⟩
  | arguments => simp [candidates_arguments hs] at hmem

def dottedCompleter : Completer := ⟨["G".toList]⟩

def dottedEntry : Entry := ⟨"a.b".toList, none, ["f".toList]⟩

def dottedCatalog : Catalog := .ofEntries "G".toList [dottedEntry]

def dottedName : Candidate := ⟨"a.b".toList, "a.b.".toList, ⟨3, 6⟩, none⟩

theorem Completer.dotted_name_advances :
    dottedName ∈ (dottedCompleter.complete " G.A  (x".toList 6 dottedCatalog).candidates ∧
    (Context.resolve (dottedName.applyTo " G.A  (x".toList).1
      (dottedName.applyTo " G.A  (x".toList).2).stage = .method := by
  have h : dottedName ∈
      (dottedCompleter.complete " G.A  (x".toList 6 dottedCatalog).candidates := by decide
  exact ⟨h, (accepted_candidate_advances h).2.1.mpr (by decide)⟩

end PromptLine
