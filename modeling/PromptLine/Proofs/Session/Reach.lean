import PromptLine.Proofs.Command.Grammar
import PromptLine.Proofs.Completion.Candidate
import PromptLine.Session.Basic

namespace PromptLine

open Text (StartsOff EndsOff)

theorem Context.admits_of_typed_nil {ctx : Context} (h : ctx.typed = []) (value : Text) :
    ctx.admits value = true := by
  rw [admits, h]
  rfl

theorem Framed.behind {w head : Text} (hw : ∀ c ∈ w, isBlank c = true)
    (hs : StartsOff isBlank head) (he : EndsOff isBlank head) : Framed (w ++ head) w head [] :=
  ⟨by simp, hw, by simp, hs, he, fun _ => rfl⟩

namespace Session

def atEnd (k : Completer) (t : Text) : Session := ⟨k, t, t.length⟩

def Accepts (catalog : Catalog) (s next : Session) : Prop :=
  ∃ cand ∈ (s.completions catalog).candidates, s.accept cand = next

inductive Accepted (catalog : Catalog) : Nat → Session → Session → Prop where
  | refl (s : Session) : Accepted catalog 0 s s
  | step {n : Nat} {s t u : Session} : Accepted catalog n s t → Accepts catalog t u →
      Accepted catalog (n + 1) s u

variable {k : Completer} {catalog : Catalog} {w : Text}

theorem accepts_atEnd_iff {t : Text} {ctx : Context} {s : Session} (h : Context.Reads t ctx)
    (hstart : ctx.replaces.start = t.length) :
    Accepts catalog (atEnd k t) s ↔
      ∃ cand ∈ k.candidates ctx catalog, s = atEnd k (t ++ cand.insert) := by
  have hctx : Context.resolve t t.length = ctx :=
    Context.resolve_eq_iff.mpr (by rwa [List.take_length])
  have haccept : ∀ cand ∈ k.candidates ctx catalog,
      (atEnd k t).accept cand = atEnd k (t ++ cand.insert) := by
    intro cand hc
    have hr := Completer.replaces_of_mem hc
    have hstop : ctx.replaces.stop = t.length := h.stop_eq
    simp [accept, atEnd, Candidate.applyTo, hr, hstart, hstop]
  simp only [Accepts, completions, Completer.complete, atEnd, hctx]
  constructor
  · rintro ⟨cand, hc, rfl⟩
    exact ⟨cand, hc, haccept cand hc⟩
  · rintro ⟨cand, hc, rfl⟩
    exact ⟨cand, hc, haccept cand hc⟩

theorem identifier_starts {p : Text} (hp : Text.isIdentifier p = true) (rest : Text) :
    StartsOff isBlank (p ++ rest) := by
  obtain ⟨hne, hword⟩ := Text.isIdentifier_iff.mp hp
  exact Text.startsOff_append (Text.startsOff_of_all fun c hc => (hword c hc).not_blank)
    fun h => absurd h hne

theorem identifier_plain {p : Text} (hp : Text.isIdentifier p = true) : '.' ∉ p ∧ '(' ∉ p := by
  obtain ⟨_, hword⟩ := Text.isIdentifier_iff.mp hp
  exact ⟨fun h => (hword _ h).ne_mark.1 rfl, fun h => (hword _ h).ne_mark.2 rfl⟩

theorem reads_blank (hw : ∀ c ∈ w, isBlank c = true) :
    Context.Reads w ⟨.provider, [], ⟨w.length, w.length⟩, none, none⟩ := by
  have hf : Framed w w [] [] :=
    ⟨by simp, hw, by simp, by simp [StartsOff], by simp [EndsOff], fun _ => rfl⟩
  exact .provider hf (hf.not_mem_lead (by decide)) (by simp)

theorem reads_provider {p : Text} (hw : ∀ c ∈ w, isBlank c = true)
    (hp : Text.isIdentifier p = true) :
    Context.Reads (w ++ (p ++ ['.']))
      ⟨.model, [], ⟨w.length + p.length + 1, (w ++ (p ++ ['.'])).length⟩, some p, none⟩ := by
  obtain ⟨hdot, hparen⟩ := identifier_plain hp
  have hf : Framed (w ++ (p ++ ['.'])) w (p ++ ['.']) [] :=
    Framed.behind hw (identifier_starts hp _) (Text.endsOff_concat (by decide))
  refine .model hf ((hf.mem_iff (by decide)).not.mpr ?_) hdot (by simp)
  simp [hparen]

theorem reads_model {p m : Text} (hw : ∀ c ∈ w, isBlank c = true)
    (hp : Text.isIdentifier p = true) (hm : '(' ∉ m) :
    Context.Reads (w ++ (p ++ '.' :: (m ++ ['.'])))
      ⟨.method, [], ⟨w.length + p.length + m.length + 2, (w ++ (p ++ '.' :: (m ++ ['.']))).length⟩,
        some p, some m⟩ := by
  obtain ⟨hdot, hparen⟩ := identifier_plain hp
  have hends : EndsOff isBlank (p ++ '.' :: (m ++ ['.'])) := by
    rw [← List.cons_append, ← List.append_assoc]
    exact Text.endsOff_concat (by decide)
  have hf : Framed (w ++ (p ++ '.' :: (m ++ ['.']))) w (p ++ '.' :: (m ++ ['.'])) [] :=
    Framed.behind hw (identifier_starts hp _) hends
  refine .method hf ((hf.mem_iff (by decide)).not.mpr ?_) hdot (by simp)
  simp [hparen, hm]

theorem accepts_blank_iff {s : Session} (hw : ∀ c ∈ w, isBlank c = true) :
    Accepts catalog (atEnd k w) s ↔ ∃ p ∈ k.providers, s = atEnd k (w ++ (p ++ ['.'])) := by
  rw [accepts_atEnd_iff (reads_blank hw) rfl]
  simp only [Completer.mem_candidates_provider, Context.admits_of_typed_nil, true_and]
  constructor
  · rintro ⟨_, ⟨p, hp, rfl⟩, rfl⟩
    exact ⟨p, hp, rfl⟩
  · rintro ⟨p, hp, rfl⟩
    exact ⟨_, ⟨p, hp, rfl⟩, rfl⟩

theorem serves_some_iff {p : Text} :
    k.serves (some p) catalog = true ↔ p ∈ k.providers ∧ p = catalog.provider := by
  simp only [Completer.serves, Bool.and_eq_true, List.contains_iff_mem, beq_iff_eq]
  exact and_congr_right fun _ => eq_comm

theorem accepts_provider_iff {p : Text} {s : Session} (hw : ∀ c ∈ w, isBlank c = true)
    (hp : Text.isIdentifier p = true) :
    Accepts catalog (atEnd k (w ++ (p ++ ['.']))) s ↔
      (p ∈ k.providers ∧ p = catalog.provider) ∧
        ∃ e ∈ catalog.entries, s = atEnd k (w ++ (p ++ '.' :: (e.name ++ ['.']))) := by
  have hstart : w.length + p.length + 1 = (w ++ (p ++ ['.'])).length := by
    simp [Nat.add_assoc]
  rw [accepts_atEnd_iff (reads_provider hw hp) hstart]
  simp only [Completer.mem_candidates_model, Context.admits_of_typed_nil, serves_some_iff, true_and]
  constructor
  · rintro ⟨_, ⟨hserved, e, he, rfl⟩, rfl⟩
    exact ⟨hserved, e, he, by simp⟩
  · rintro ⟨hserved, e, he, rfl⟩
    exact ⟨_, ⟨hserved, e, he, rfl⟩, by simp⟩

theorem accepts_model_iff {p m : Text} {s : Session} (hw : ∀ c ∈ w, isBlank c = true)
    (hp : Text.isIdentifier p = true) (hm : '(' ∉ m) :
    Accepts catalog (atEnd k (w ++ (p ++ '.' :: (m ++ ['.'])))) s ↔
      (p ∈ k.providers ∧ p = catalog.provider) ∧
        ∃ e, (e ∈ catalog.entries ∧ e.name = m) ∧
          ∃ a ∈ e.actions, s = atEnd k (w ++ (p ++ '.' :: (m ++ '.' :: (a ++ ['('])))) := by
  have hstart : w.length + p.length + m.length + 2 = (w ++ (p ++ '.' :: (m ++ ['.']))).length := by
    simp only [List.length_append, List.length_cons, List.length_nil]
    omega
  rw [accepts_atEnd_iff (reads_model hw hp hm) hstart]
  simp only [Completer.mem_candidates_method, Context.admits_of_typed_nil, serves_some_iff,
    Option.bind_some, Catalog.get?_eq_some_iff, true_and]
  constructor
  · rintro ⟨_, ⟨hserved, e, he, a, ha, rfl⟩, rfl⟩
    exact ⟨hserved, e, he, a, ha, by simp⟩
  · rintro ⟨hserved, e, he, a, ha, rfl⟩
    exact ⟨_, ⟨hserved, e, he, a, ha, rfl⟩, by simp⟩

theorem no_candidates_of_paren {t : Text} (h : '(' ∈ t) :
    ((atEnd k t).completions catalog).candidates = [] := by
  apply Completer.candidates_arguments
  refine (Context.reads_resolve _ _).stage_eq_iff.mpr ?_
  rwa [atEnd, List.take_length]

def Spells (k : Completer) (catalog : Catalog) (w : Text) : Nat → Text → Prop
  | 0, t => t = w
  | 1, t => ∃ p ∈ k.providers, t = w ++ (p ++ ['.'])
  | 2, t => ∃ e ∈ catalog.entries, t = w ++ (catalog.provider ++ '.' :: (e.name ++ ['.']))
  | 3, t => ∃ e ∈ catalog.entries, ∃ a ∈ e.actions,
      t = w ++ (catalog.provider ++ '.' :: (e.name ++ '.' :: (a ++ ['('])))
  | _ + 4, _ => False

theorem spells_three_paren {t : Text} (h : Spells k catalog w 3 t) : '(' ∈ t := by
  obtain ⟨e, _, a, _, rfl⟩ := h
  simp

theorem spells_succ_iff (hknown : ∀ p ∈ k.providers, Text.isIdentifier p = true)
    (hserved : catalog.provider ∈ k.providers) (hplain : ∀ e ∈ catalog.entries, '(' ∉ e.name)
    (hw : ∀ c ∈ w, isBlank c = true) (n : Nat) (s : Session) :
    (∃ t, Spells k catalog w n t ∧ Accepts catalog (atEnd k t) s) ↔
      ∃ t, Spells k catalog w (n + 1) t ∧ s = atEnd k t := by
  match n with
  | 0 =>
    constructor
    · rintro ⟨_, rfl, h⟩
      obtain ⟨p, hp, rfl⟩ := (accepts_blank_iff hw).mp h
      exact ⟨_, ⟨p, hp, rfl⟩, rfl⟩
    · rintro ⟨_, ⟨p, hp, rfl⟩, rfl⟩
      exact ⟨w, rfl, (accepts_blank_iff hw).mpr ⟨p, hp, rfl⟩⟩
  | 1 =>
    constructor
    · rintro ⟨_, ⟨p, hp, rfl⟩, h⟩
      obtain ⟨⟨_, rfl⟩, e, he, rfl⟩ := (accepts_provider_iff hw (hknown p hp)).mp h
      exact ⟨_, ⟨e, he, rfl⟩, rfl⟩
    · rintro ⟨_, ⟨e, he, rfl⟩, rfl⟩
      exact ⟨_, ⟨_, hserved, rfl⟩,
        (accepts_provider_iff hw (hknown _ hserved)).mpr ⟨⟨hserved, rfl⟩, e, he, rfl⟩⟩
  | 2 =>
    constructor
    · rintro ⟨_, ⟨e, he, rfl⟩, h⟩
      obtain ⟨_, f, ⟨hf, hname⟩, a, ha, rfl⟩ :=
        (accepts_model_iff hw (hknown _ hserved) (hplain e he)).mp h
      exact ⟨_, ⟨f, hf, a, ha, by rw [hname]⟩, rfl⟩
    · rintro ⟨_, ⟨e, he, a, ha, rfl⟩, rfl⟩
      exact ⟨_, ⟨e, he, rfl⟩, (accepts_model_iff hw (hknown _ hserved) (hplain e he)).mpr
        ⟨⟨hserved, rfl⟩, e, ⟨he, rfl⟩, a, ha, rfl⟩⟩
  | 3 =>
    constructor
    · rintro ⟨t, ht, cand, hc, _⟩
      rw [no_candidates_of_paren (spells_three_paren ht)] at hc
      cases hc
    · rintro ⟨_, h, _⟩
      exact h.elim
  | n + 4 =>
    constructor
    · rintro ⟨_, h, _⟩
      exact h.elim
    · rintro ⟨_, h, _⟩
      exact h.elim

theorem accepted_succ_iff {n : Nat} {s u : Session} :
    Accepted catalog (n + 1) s u ↔ ∃ t, Accepted catalog n s t ∧ Accepts catalog t u := by
  constructor
  · rintro (_ | ⟨ht, hu⟩)
    exact ⟨_, ht, hu⟩
  · rintro ⟨t, ht, hu⟩
    exact .step ht hu

theorem accepted_iff_spells (hknown : ∀ p ∈ k.providers, Text.isIdentifier p = true)
    (hserved : catalog.provider ∈ k.providers) (hplain : ∀ e ∈ catalog.entries, '(' ∉ e.name)
    (hw : ∀ c ∈ w, isBlank c = true) (n : Nat) (s : Session) :
    Accepted catalog n (atEnd k w) s ↔ ∃ t, Spells k catalog w n t ∧ s = atEnd k t := by
  induction n generalizing s with
  | zero =>
    constructor
    · rintro ⟨⟩
      exact ⟨w, rfl, rfl⟩
    · rintro ⟨_, rfl, rfl⟩
      exact .refl _
  | succ n ih =>
    rw [← spells_succ_iff hknown hserved hplain hw, accepted_succ_iff]
    constructor
    · rintro ⟨t, ht, hs⟩
      obtain ⟨u, hu, rfl⟩ := (ih t).mp ht
      exact ⟨u, hu, hs⟩
    · rintro ⟨u, hu, hs⟩
      exact ⟨_, (ih _).mpr ⟨u, hu, rfl⟩, hs⟩

theorem parse_quoted_iff {p m f : Text} (hw : ∀ c ∈ w, isBlank c = true)
    (hp : Text.isIdentifier p = true) (q : Text) :
    Command.parse (w ++ p ++ '.' :: m ++ '.' :: f ++ ['('] ++ '"' :: q ++ ['"', ')']) =
        .ok ⟨p, m, f, q⟩ ↔
      Text.isModelIdentifier m = true ∧ Text.isIdentifier f = true := by
  have htrim : Text.trim (w ++ p ++ '.' :: m ++ '.' :: f ++ ['('] ++ '"' :: q ++ ['"', ')']) =
      p ++ ('.' :: m ++ '.' :: f ++ ['('] ++ '"' :: q ++ ['"'] ++ [')']) := by
    refine Text.trim_eq_iff.mpr ⟨w, [], by simp, hw, by simp, identifier_starts hp _, ?_⟩
    rw [← List.append_assoc]
    exact Text.endsOff_concat (by decide)
  rw [Command.parse_eq_ok_iff, htrim, Text.isModelIdentifier_iff, Text.isIdentifier_iff]
  constructor
  · rintro ⟨_, hm, hf, _⟩
    exact ⟨hm, hf⟩
  · rintro ⟨hm, hf⟩
    refine ⟨Text.isIdentifier_iff.mp hp, hm, hf, [], '"' :: (q ++ '"' :: [')']), by simp, ?_, by simp⟩
    exact ⟨[], '"', [], .inl rfl, by simp, by simp, by simp⟩

theorem three_accepts_spell_the_catalog {k : Completer} {catalog : Catalog} {w : Text}
    (hknown : ∀ p ∈ k.providers, Text.isIdentifier p = true)
    (hserved : catalog.provider ∈ k.providers) (hplain : ∀ e ∈ catalog.entries, '(' ∉ e.name)
    (hw : ∀ c ∈ w, isBlank c = true) :
    (∀ t, (∃ s, Accepted catalog 3 (atEnd k w) s ∧ s.text = t) ↔
      ∃ e ∈ catalog.entries, ∃ a ∈ e.actions,
        t = w ++ catalog.provider ++ '.' :: e.name ++ '.' :: a ++ ['(']) ∧
    (∀ s, Accepted catalog 3 (atEnd k w) s → (s.completions catalog).candidates = []) ∧
    ∀ e ∈ catalog.entries, ∀ a ∈ e.actions, ∀ q,
      Command.parse (w ++ catalog.provider ++ '.' :: e.name ++ '.' :: a ++ ['('] ++
          '"' :: q ++ ['"', ')']) = .ok ⟨catalog.provider, e.name, a, q⟩ ↔
        Text.isModelIdentifier e.name = true ∧ Text.isIdentifier a = true := by
  have hrun := accepted_iff_spells hknown hserved hplain hw 3
  refine ⟨fun t => ?_, fun s hs => ?_, fun e _ a _ q => parse_quoted_iff hw (hknown _ hserved) q⟩
  · constructor
    · rintro ⟨s, hs, rfl⟩
      obtain ⟨_, ⟨e, he, a, ha, rfl⟩, rfl⟩ := (hrun s).mp hs
      exact ⟨e, he, a, ha, by simp [atEnd]⟩
    · rintro ⟨e, he, a, ha, rfl⟩
      exact ⟨_, (hrun _).mpr ⟨_, ⟨e, he, a, ha, rfl⟩, rfl⟩, by simp [atEnd]⟩
  · obtain ⟨t, ht, rfl⟩ := (hrun s).mp hs
    exact no_candidates_of_paren (spells_three_paren ht)

theorem dotted_name_is_spelled :
    (∃ s, Accepted dottedCatalog 3 (atEnd dottedCompleter [' ']) s ∧
      s.text = " G.a.b.f(".toList) ∧
    Command.parse " G.a.b.f(\"x\")".toList =
      .ok ⟨"G".toList, "a.b".toList, "f".toList, "x".toList⟩ := by
  have hknown : ∀ p ∈ dottedCompleter.providers, Text.isIdentifier p = true := by decide
  have hserved : dottedCatalog.provider ∈ dottedCompleter.providers := by decide
  have hplain : ∀ e ∈ dottedCatalog.entries, '(' ∉ e.name := by decide
  have hw : ∀ c ∈ [' '], isBlank c = true := by simp [isBlank]
  have he : dottedEntry ∈ dottedCatalog.entries := by decide
  have ha : "f".toList ∈ dottedEntry.actions := by decide
  obtain ⟨hreach, _, hparse⟩ := three_accepts_spell_the_catalog hknown hserved hplain hw
  exact ⟨(hreach _).mpr ⟨_, he, _, ha, by decide⟩,
    (hparse _ he _ ha "x".toList).mpr ⟨by decide, by decide⟩⟩

end Session

end PromptLine
