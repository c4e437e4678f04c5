import PromptLine.Proofs.Config.Precedence

namespace PromptLine

open Setting (Gives)

section First

variable {α β : Type} {p : α → β → Prop} {l l' : List α} {b : β}

theorem exists_first_iff : (∃ b, First p l b) ↔ ∃ a ∈ l, ∃ b, p a b := by
  induction l with
  | nil => simp [First]
  | cons a l ih =>
    simp only [List.mem_cons, exists_eq_or_imp, ← ih]
    constructor
    · rintro ⟨b, hb | ⟨_, hb⟩⟩
      · exact .inl ⟨b, hb⟩
      · exact .inr ⟨b, hb⟩
    · rintro (⟨b, hb⟩ | ⟨b, hb⟩)
      · exact ⟨b, .inl hb⟩
      · by_cases ha : ∃ b', p a b'
        · exact ha.imp fun _ => .inl
        · exact ⟨b, .inr ⟨not_exists.mp ha, hb⟩⟩

theorem first_append_iff : First p (l ++ l') b ↔
    First p l b ∨ (∀ b', ¬ First p l b') ∧ First p l' b := by
  induction l with
  | nil => simp [First]
  | cons a l ih =>
    rw [List.cons_append, First, First, ih]
    constructor
    · rintro (ha | ⟨ha, hl | ⟨hl, hb⟩⟩)
      · exact .inl (.inl ha)
      · exact .inl (.inr ⟨ha, hl⟩)
      · refine .inr ⟨?_, hb⟩
        rintro b' (ha' | ⟨_, hl'⟩)
        · exact ha b' ha'
        · exact hl b' hl'
    · rintro ((ha | ⟨ha, hl⟩) | ⟨hl, hb⟩)
      · exact .inl ha
      · exact .inr ⟨ha, .inl hl⟩
      · have ha (b' : β) : ¬ p a b' := fun h => hl b' (.inl h)
        exact .inr ⟨ha, .inr ⟨fun b' hb' => hl b' (.inr ⟨ha, hb'⟩), hb⟩⟩

/-- The computation fails exactly as the first of the causes that is there makes it. -/
def Reports {γ : Type} (x : Except β γ) (p : α → β → Prop) (causes : List α) : Prop :=
  ∀ e, x = .error e ↔ First p causes e

theorem Reports.bind {γ δ : Type} {x : Except β γ} {f : γ → Except β δ} (hx : Reports x p l)
    (hf : ∀ c, x = .ok c → Reports (f c) p l') : Reports (x >>= f) p (l ++ l') := by
  intro e
  rw [first_append_iff, ← hx e]
  cases x with
  | error e' =>
    have hfirst : First p l e' := (hx e').mp rfl
    change Except.error e' = .error e ↔ _
    constructor
    · intro h
      cases h
      exact .inl rfl
    · rintro (h | ⟨h, _⟩)
      · cases h
        rfl
      · exact absurd hfirst (h e')
  | ok c =>
    have hnone (b : β) : ¬ First p l b := by
      rw [← hx b]
      nofun
    rw [← hf c rfl e]
    constructor
    · intro h
      exact .inr ⟨hnone, h⟩
    · rintro (h | ⟨_, h⟩)
      · cases h
      · exact h

end First

def Toml.Document.IsTable (doc : Toml.Document) : Prop :=
  ∀ e ∈ doc, ∃ (s : Setting) (v : Setting.Value), s.key = e.1 ∧ s.Takes e.2 v

namespace Toml

variable {doc : Document} {t name : Text} {w : Value}

theorem nodup_of_read? (h : read? t = some doc) : (doc.map Prod.fst).Nodup := by
  simp only [read?, Option.bind_eq_bind, Option.bind_eq_some_iff] at h
  obtain ⟨_, _, doc', _, h⟩ := h
  by_cases hnodup : (doc'.map Prod.fst).Nodup
  · rw [if_pos hnodup] at h
    cases h
    exact hnodup
  · rw [if_neg hnodup] at h
    cases h

theorem lookup_eq_some_iff (hnodup : (doc.map Prod.fst).Nodup) :
    doc.lookup name = some w ↔ (name, w) ∈ doc := by
  induction doc with
  | nil => simp
  | cons e doc ih =>
    obtain ⟨other, v⟩ := e
    obtain ⟨hnot, hnodup⟩ := List.nodup_cons.mp hnodup
    by_cases hname : name = other
    · subst hname
      have hout : (name, w) ∉ doc := fun h => hnot (List.mem_map.mpr ⟨_, h, rfl⟩)
      simp [hout, eq_comm]
    · rw [List.lookup_cons, beq_false_of_ne hname, ih hnodup, List.mem_cons, Prod.mk.injEq]
      simp [hname]

end Toml

namespace Layer

variable {doc : Toml.Document}

theorem key_injective : Function.Injective Setting.key := by
  intro s s'
  cases s <;> cases s' <;> decide

theorem exists_records_iff (hnodup : (doc.map Prod.fst).Nodup) :
    (∃ layer : Layer, layer.Records doc) ↔ doc.IsTable := by
  constructor
  · rintro ⟨layer, hknown, hgiven⟩ ⟨name, w⟩ he
    obtain ⟨s, rfl⟩ := hknown _ he
    have hlookup := (Toml.lookup_eq_some_iff hnodup).mpr he
    have hs := hgiven s
    cases hv : s.ofLayer layer with
    | none =>
      rw [hv] at hs
      exact absurd hlookup (hs w)
    | some v =>
      rw [hv] at hs
      obtain ⟨w', hw', htakes⟩ := hs
      obtain rfl := Option.some.inj (hlookup.symm.trans hw')
      exact ⟨s, v, rfl, htakes⟩
  · intro htable
    have hlookup (s : Setting) (w : Toml.Value) (hw : doc.lookup s.key = some w) :
        ∃ v, s.Takes w v := by
      obtain ⟨s', v, hkey, htakes⟩ := htable _ ((Toml.lookup_eq_some_iff hnodup).mp hw)
      obtain rfl := key_injective hkey
      exact ⟨v, htakes⟩
    have htext (s : Setting) (hs : s.bound? = none) : ∃ o, textAt? doc s.key = some o := by
      cases hw : doc.lookup s.key with
      | none => exact ⟨none, (textAt?_eq_some_iff hs).mpr (by simp [Gives, hw])⟩
      | some w =>
        obtain ⟨v, hv⟩ := hlookup s w hw
        obtain ⟨t, _, rfl⟩ : ∃ t, w = .string t ∧ v = .text t := by
          simpa [Setting.Takes, hs] using hv
        exact ⟨some t, (textAt?_eq_some_iff hs).mpr ⟨w, hw, hv⟩⟩
    have hnat (s : Setting) (bound : Nat) (hs : s.bound? = some bound) :
        ∃ o, natAt? bound doc s.key = some o := by
      cases hw : doc.lookup s.key with
      | none => exact ⟨none, (natAt?_eq_some_iff hs).mpr (by simp [Gives, hw])⟩
      | some w =>
        obtain ⟨v, hv⟩ := hlookup s w hw
        obtain ⟨n, _, _, rfl⟩ : ∃ n : Nat, w = .integer n ∧ n < bound ∧ v = .number n := by
          simpa [Setting.Takes, hs] using hv
        exact ⟨some n, (natAt?_eq_some_iff hs).mpr ⟨w, hw, hv⟩⟩
    obtain ⟨provider, hprovider⟩ := htext .provider rfl
    obtain ⟨apiKey, hapiKey⟩ := htext .apiKey rfl
    obtain ⟨baseUrl, hbaseUrl⟩ := htext .baseUrl rfl
    obtain ⟨pageSize, hpageSize⟩ := hnat .pageSize _ rfl
    obtain ⟨maxOutputBytes, hmaxOutputBytes⟩ := hnat .maxOutputBytes _ rfl
    obtain ⟨requestTimeout, hrequestTimeout⟩ := hnat .requestTimeout _ rfl
    refine ⟨⟨provider, apiKey, baseUrl, pageSize, maxOutputBytes, requestTimeout⟩, ?_, ?_⟩
    · intro e he
      obtain ⟨s, _, hkey, _⟩ := htable e he
      exact ⟨s, hkey⟩
    · exact forall_gives_iff.mpr
        ⟨hprovider, hapiKey, hbaseUrl, hpageSize, hmaxOutputBytes, hrequestTimeout⟩

end Layer

def Setting.Refuses (s : Setting) (v : Setting.Value) (fault : ConfigFault) : Prop :=
  match s with
  | .pageSize => v = .number 0 ∧ fault = .pageSize
  | .maxOutputBytes => v = .number 0 ∧ fault = .maxOutputBytes
  | .baseUrl => ∃ url, v = .text url ∧ ¬ "http://".toList <+: url ∧ ¬ "https://".toList <+: url ∧
      fault = .baseUrl url
  | _ => False

namespace Loader

variable {l : Loader} {files : Files} {env : Environment} {userHome : Option Text}
  {s : Setting} {e : ConfigError}

inductive Cause where
  | file
  | document
  | number (s : Setting)
  | merged (s : Setting)
  deriving DecidableEq, Repr

def causes : List Cause :=
  [.file, .document, .number .pageSize, .number .maxOutputBytes, .number .requestTimeout,
    .merged .pageSize, .merged .maxOutputBytes, .merged .baseUrl]

inductive Fails (l : Loader) (files : Files) (env : Environment) (userHome : Option Text) :
    Cause → ConfigError → Prop
  | file {path : Text} {required : Bool} {cause : FileError} : l.skipFile = false →
      l.Chooses env userHome path required → files.readText path = .error cause →
      (cause = .notFound → required = true) → l.Fails files env userHome .file (.io path cause)
  | document {path t : Text} {required : Bool} : l.skipFile = false →
      l.Chooses env userHome path required → files.readText path = .ok t →
      (∀ doc, Toml.read? t = some doc → ¬ doc.IsTable) → l.Fails files env userHome .document .toml
  | number {s : Setting} {t : Text} : l.Hears env s t → (∀ v, ¬ s.Reads t v) →
      l.Fails files env userHome (.number s) (.invalidVariable (l.stem ++ '_' :: s.suffix) t)
  | merged {s : Setting} {v : Setting.Value} {fault : ConfigFault} :
      l.Settles files env userHome s (some v) → s.Refuses v fault →
      l.Fails files env userHome (.merged s) (.invalid fault)

theorem reports_skip {γ : Type} {c : γ} {cs : List Cause}
    (h : ∀ cause ∈ cs, ∀ e, ¬ l.Fails files env userHome cause e) :
    Reports (.ok c) (l.Fails files env userHome) cs := by
  intro e
  refine iff_of_false nofun fun hfirst => ?_
  obtain ⟨cause, hcause, e', hfails⟩ := exists_first_iff.mp ⟨e, hfirst⟩
  exact h cause hcause e' hfails

theorem reports_readLayer {path : Text} {required : Bool} (hskip : l.skipFile = false)
    (hchosen : l.Chooses env userHome path required) :
    Reports (readLayer files path required) (l.Fails files env userHome) [.file, .document] := by
  have hfile (e : ConfigError) : l.Fails files env userHome .file e ↔
      ∃ cause, files.readText path = .error cause ∧ (cause = .notFound → required = true) ∧
        e = .io path cause := by
    constructor
    · intro h
      cases h with
      | file _ hchosen' htext hrequired =>
        obtain ⟨rfl, rfl⟩ := hchosen.unique hchosen'
        exact ⟨_, htext, hrequired, rfl⟩
    · rintro ⟨cause, htext, hrequired, rfl⟩
      exact .file hskip hchosen htext hrequired
  have hdocument (e : ConfigError) : l.Fails files env userHome .document e ↔
      ∃ t, files.readText path = .ok t ∧ (∀ doc, Toml.read? t = some doc → ¬ doc.IsTable) ∧
        e = .toml := by
    constructor
    · intro h
      cases h with
      | document _ hchosen' htext hdoc =>
        obtain ⟨rfl, rfl⟩ := hchosen.unique hchosen'
        exact ⟨_, htext, hdoc, rfl⟩
    · rintro ⟨t, htext, hdoc, rfl⟩
      exact .document hskip hchosen htext hdoc
  intro e
  simp only [First, hfile, hdocument, and_false, or_false]
  rw [readLayer]
  cases htext : files.readText path with
  | error cause =>
    cases cause with
    | notFound => cases required <;> simp [eq_comm]
    | _ => simp [eq_comm]
  | ok t =>
    have hnone : (Toml.read? t).bind Layer.ofToml? = none ↔
        ∀ doc, Toml.read? t = some doc → ¬ doc.IsTable := by
      rw [Option.bind_eq_none_iff]
      refine forall₂_congr fun doc hdoc => ?_
      rw [← Layer.exists_records_iff (Toml.nodup_of_read? hdoc), Option.eq_none_iff_forall_ne_some,
        not_exists]
      simp only [ne_eq, Layer.ofToml?_eq_some_iff]
    simp only [reduceCtorEq, false_and, exists_false, false_or, not_false_eq_true, implies_true,
      true_and, Except.ok.injEq, exists_eq_left', ← hnone]
    cases (Toml.read? t).bind Layer.ofToml? <;> simp [eq_comm]

theorem exists_chooses (l : Loader) (env : Environment) (home : Text) :
    ∃ path required, l.Chooses env (some home) path required := by
  simp only [← chosenFile?_eq_some_iff, chosenFile?]
  cases l.file with
  | some path => exact ⟨_, _, rfl⟩
  | none =>
    rw [homeDirectory?]
    cases l.home.or (env.value? "MODELCALL_HOME".toList) with
    | some home => exact ⟨_, _, rfl⟩
    | none => exact ⟨_, _, rfl⟩

theorem reports_fileLayer {home : Text} : Reports (l.fileLayer files env (some home))
    (l.Fails files env (some home)) [.file, .document] := by
  cases hskip : l.skipFile with
  | true =>
    have hempty : l.fileLayer files env (some home) = .ok .empty := if_pos hskip
    rw [hempty]
    apply reports_skip
    intro cause hcause e hfails
    cases hfails with
    | file hread => cases hskip.symm.trans hread
    | document hread => cases hskip.symm.trans hread
    | number => simp at hcause
    | merged => simp at hcause
  | false =>
    obtain ⟨path, required, hchosen⟩ := l.exists_chooses env home
    rw [fileLayer_of_chosen hskip hchosen]
    exact reports_readLayer hskip hchosen

theorem reports_number? {bound : Nat} (hs : s.bound? = some bound)
    (hskip : l.skipVariables = false) : Reports (l.number? env bound s.suffix)
      (l.Fails files env userHome) [.number s] := by
  have hfails (e : ConfigError) : l.Fails files env userHome (.number s) e ↔
      ∃ t, env.Sets (l.variableName s.suffix) t ∧ (∀ v, ¬ s.Reads t v) ∧
        e = .invalidVariable (l.variableName s.suffix) t := by
    constructor
    · intro h
      cases h with
      | number ht hreads => exact ⟨_, (hears_iff hs hskip).mp ht, hreads, rfl⟩
    · rintro ⟨t, ht, hreads, rfl⟩
      exact .number ((hears_iff hs hskip).mpr ht) hreads
  intro e
  simp only [First, hfails, and_false, or_false]
  rw [number?, text?]
  cases hvalue : env.value? (l.variableName s.suffix) with
  | none =>
    rw [Environment.value?_eq_none_iff] at hvalue
    refine iff_of_false (by simp) ?_
    rintro ⟨t, ht, _⟩
    exact hvalue t ht
  | some t =>
    have hone (u : Text) : env.Sets (l.variableName s.suffix) u ↔ t = u := by
      rw [← Environment.value?_eq_some_iff, hvalue, Option.some.injEq]
    have hnone : (∀ v, ¬ s.Reads t v) ↔ Decimal.natural? bound (Text.trim t) = none := by
      simp only [Setting.reads_iff hs, Option.eq_none_iff_forall_ne_some]
      constructor
      · intro h n hn
        exact h _ ⟨n, hn, rfl⟩
      · rintro h v ⟨n, hn, _⟩
        exact h n hn
    simp only [hone, exists_eq_left', hnone]
    cases Decimal.natural? bound (Text.trim t) <;> simp [eq_comm]

theorem reports_variableLayer : Reports (l.variableLayer env) (l.Fails files env userHome)
    [.number .pageSize, .number .maxOutputBytes, .number .requestTimeout] := by
  rw [variableLayer]
  cases hskip : l.skipVariables with
  | true =>
    apply reports_skip
    intro cause hcause e hfails
    cases hfails with
    | number ht => cases hskip.symm.trans ht.1
    | file => simp at hcause
    | document => simp at hcause
    | merged => simp at hcause
  | false =>
    simp only [Bool.false_eq_true, if_false]
    refine (reports_number? (s := .pageSize) rfl hskip).bind fun pageSize _ => ?_
    refine (reports_number? (s := .maxOutputBytes) rfl hskip).bind fun maxOutputBytes _ => ?_
    exact (reports_number? (s := .requestTimeout) rfl hskip).bind fun requestTimeout _ =>
      reports_skip (List.forall_mem_nil _)

theorem reports_fault? {c : Config}
    (hc : ∀ s : Setting, l.Settles files env userHome s (s.ofConfig c)) :
    Reports (match c.fault? with
      | some fault => .error (.invalid fault)
      | none => .ok c) (l.Fails files env userHome)
      [.merged .pageSize, .merged .maxOutputBytes, .merged .baseUrl] := by
  have hfails (s : Setting) (e : ConfigError) : l.Fails files env userHome (.merged s) e ↔
      ∃ v fault, s.ofConfig c = some v ∧ s.Refuses v fault ∧ e = .invalid fault := by
    constructor
    · intro h
      cases h with
      | merged hsettles hrefuses => exact ⟨_, _, (hc s).unique hsettles, hrefuses, rfl⟩
    · rintro ⟨v, fault, hv, hrefuses, rfl⟩
      exact .merged (hv ▸ hc s) hrefuses
  have hpageSize (e : ConfigError) : l.Fails files env userHome (.merged .pageSize) e ↔
      c.pageSize = 0 ∧ e = .invalid .pageSize := by
    simp [hfails, Setting.ofConfig, Setting.Refuses]
  have hmaxOutputBytes (e : ConfigError) : l.Fails files env userHome (.merged .maxOutputBytes) e ↔
      c.maxOutputBytes = 0 ∧ e = .invalid .maxOutputBytes := by
    simp [hfails, Setting.ofConfig, Setting.Refuses]
  have hbaseUrl (e : ConfigError) : l.Fails files env userHome (.merged .baseUrl) e ↔
      (¬ "http://".toList <+: c.baseUrl ∧ ¬ "https://".toList <+: c.baseUrl) ∧
        e = .invalid (.baseUrl c.baseUrl) := by
    simp only [hfails, Setting.ofConfig, Setting.Refuses]
    constructor
    · rintro ⟨_, _, hv, ⟨url, rfl, hhttp, hhttps, rfl⟩, rfl⟩
      cases hv
      exact ⟨⟨hhttp, hhttps⟩, rfl⟩
    · rintro ⟨⟨hhttp, hhttps⟩, rfl⟩
      exact ⟨_, _, rfl, ⟨_, rfl, hhttp, hhttps, rfl⟩, rfl⟩
  intro e
  simp only [First, hpageSize, hmaxOutputBytes, hbaseUrl, Config.fault?, and_false, or_false]
  by_cases hp : c.pageSize = 0
  · simp [hp, eq_comm]
  by_cases hm : c.maxOutputBytes = 0
  · simp [hp, hm, eq_comm]
  have hprefix : ("http://".toList.isPrefixOf c.baseUrl || "https://".toList.isPrefixOf c.baseUrl) =
      true ↔ ("http://".toList <+: c.baseUrl ∨ "https://".toList <+: c.baseUrl) := by
    rw [Bool.or_eq_true, List.isPrefixOf_iff_prefix, List.isPrefixOf_iff_prefix]
  rw [if_neg hp, if_neg hm]
  simp only [hp, hm, false_and, false_or, not_false_eq_true, implies_true, true_and, ← not_or,
    ← hprefix]
  by_cases hurl :
      ("http://".toList.isPrefixOf c.baseUrl || "https://".toList.isPrefixOf c.baseUrl) = true
  · rw [if_pos hurl]
    exact iff_of_false (by simp) fun h => h.1 hurl
  · rw [if_neg hurl]
    constructor
    · intro h
      cases h
      exact ⟨hurl, rfl⟩
    · rintro ⟨_, rfl⟩
      rfl

theorem load_reports_first_cause (l : Loader) (files : Files) (env : Environment) (home : Text) :
    (∀ e, l.load files env (some home) = .error e ↔
      First (l.Fails files env (some home)) causes e) ∧
    ((∃ e, l.load files env (some home) = .error e) ↔
      ∃ cause ∈ causes, ∃ e, l.Fails files env (some home) cause e) ∧
    (∀ (s : Setting) (t : Text) (v : Setting.Value), l.Hears env s t → s.Reads t v →
      (∀ fault, ¬ s.Refuses v fault) → ∀ e, ¬ l.Fails files env (some home) (.merged s) e) := by
  have hload : Reports (l.load files env (some home)) (l.Fails files env (some home)) causes := by
    -- each stage has its own causes, and the stages come in the order of the causes
    rw [load]
    refine reports_fileLayer.bind fun file hfile => ?_
    refine reports_variableLayer.bind fun own hown => ?_
    exact reports_fault? (settles_of_layers hfile hown)
  refine ⟨hload, ?_, ?_⟩
  · rw [← exists_first_iff]
    exact exists_congr hload
  · intro s t v hhears hreads haccepted e hfails
    cases hfails with
    | merged hsettles hrefuses =>
      obtain ⟨own, file, hown, _, ho⟩ := hsettles
      have hvalue : own = some v :=
        hown.unique ⟨t, hhears, hreads⟩ (fun _ _ => Hears.unique)
          (fun _ _ _ => Setting.Reads.unique)
      subst hvalue
      cases ho
      exact haccepted _ hrefuses

example : ({ stem := ['T'] } : Loader).load overlaidFiles
    [("T_REQUEST_TIMEOUT_SECS".toList, ['x']), ("T_PAGE_SIZE".toList, "4294967296 ".toList)]
    (some ['h']) = .error (.invalidVariable "T_PAGE_SIZE".toList "4294967296 ".toList) := by
  decide +kernel

end Loader

end PromptLine
