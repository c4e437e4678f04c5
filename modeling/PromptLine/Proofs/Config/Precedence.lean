import PromptLine.Proofs.Config.Layers

namespace PromptLine

open Setting (Gives)

namespace Setting

variable {s other : Setting} {stem name : Text}

theorem suffix_of_mem_sources (h : name ∈ s.sources stem) : s.suffix <:+ name := by
  rcases List.mem_cons.mp h with rfl | h
  · exact ⟨stem ++ ['_'], by simp⟩
  · cases s with
    | apiKey =>
      obtain rfl : name = "GEMINI_API_KEY".toList := by simpa using h
      exact ⟨"GEMINI_".toList, rfl⟩
    | _ => simp at h

theorem eq_of_suffix_isSuffix (h : s.suffix <:+ other.suffix) : s = other := by
  revert h
  cases s <;> cases other <;> decide

theorem sources_disjoint (h : name ∈ s.sources stem) (h' : name ∈ other.sources stem) :
    s = other := by
  rcases List.suffix_or_suffix_of_suffix (suffix_of_mem_sources h) (suffix_of_mem_sources h') with
    hs | hs
  · exact eq_of_suffix_isSuffix hs
  · exact (eq_of_suffix_isSuffix hs).symm

theorem home_not_mem_sources : "MODELCALL_HOME".toList ∉ s.sources stem := by
  intro h
  have hs := suffix_of_mem_sources h
  revert hs
  cases s <;> decide

end Setting

theorem bind_eq_ok_iff {ε α β : Type} {x : Except ε α} {f : α → Except ε β} {b : β} :
    x >>= f = .ok b ↔ ∃ a, x = .ok a ∧ f a = .ok b := by
  cases x with
  | error e => exact iff_of_false nofun nofun
  | ok a => simp [bind, Except.bind]

namespace Environment

variable {env env' : Environment} {names : List Text}

theorem sets_congr {name : Text} (h : env'.lookup name = env.lookup name) :
    env'.Sets name = env.Sets name := by
  funext value
  rw [Sets, Sets, h]

theorem first_sets_congr (h : ∀ name ∈ names, env'.lookup name = env.lookup name) :
    First env'.Sets names = First env.Sets names := by
  funext value
  induction names with
  | nil => rfl
  | cons name rest ih =>
    obtain ⟨hname, hrest⟩ := List.forall_mem_cons.mp h
    rw [First, First, sets_congr hname, ih hrest]

end Environment

namespace Layer

variable {doc : Toml.Document} {layer : Layer}

theorem mem_names_iff {name : Text} : name ∈ names ↔ ∃ s : Setting, s.key = name := by
  constructor
  · intro h
    simp only [names, List.map_cons, List.map_nil, List.mem_cons, List.not_mem_nil, or_false] at h
    rcases h with rfl | rfl | rfl | rfl | rfl | rfl
    · exact ⟨.provider, rfl⟩
    · exact ⟨.apiKey, rfl⟩
    · exact ⟨.baseUrl, rfl⟩
    · exact ⟨.pageSize, rfl⟩
    · exact ⟨.maxOutputBytes, rfl⟩
    · exact ⟨.requestTimeout, rfl⟩
  · rintro ⟨s, rfl⟩
    cases s <;> decide

structure Records (layer : Layer) (doc : Toml.Document) : Prop where
  known : ∀ e ∈ doc, ∃ s : Setting, s.key = e.1
  given : ∀ s : Setting, Gives (fun w => doc.lookup s.key = some w) s.Takes (s.ofLayer layer)

theorem forall_gives_iff :
    (∀ s : Setting, Gives (fun w => doc.lookup s.key = some w) s.Takes (s.ofLayer layer)) ↔
      textAt? doc Setting.provider.key = some layer.provider ∧
      textAt? doc Setting.apiKey.key = some layer.apiKey ∧
      textAt? doc Setting.baseUrl.key = some layer.baseUrl ∧
      natAt? pageSizeBound doc Setting.pageSize.key = some layer.pageSize ∧
      natAt? countBound doc Setting.maxOutputBytes.key = some layer.maxOutputBytes ∧
      natAt? countBound doc Setting.requestTimeout.key = some layer.requestTimeout := by
  constructor
  · intro h
    exact ⟨(textAt?_eq_some_iff rfl).mpr (h .provider), (textAt?_eq_some_iff rfl).mpr (h .apiKey),
      (textAt?_eq_some_iff rfl).mpr (h .baseUrl), (natAt?_eq_some_iff rfl).mpr (h .pageSize),
      (natAt?_eq_some_iff rfl).mpr (h .maxOutputBytes),
      (natAt?_eq_some_iff rfl).mpr (h .requestTimeout)⟩
  · rintro ⟨hprovider, hapiKey, hbaseUrl, hpageSize, hmaxOutputBytes, hrequestTimeout⟩ s
    cases s with
    | provider => exact (textAt?_eq_some_iff rfl).mp hprovider
    | apiKey => exact (textAt?_eq_some_iff rfl).mp hapiKey
    | baseUrl => exact (textAt?_eq_some_iff rfl).mp hbaseUrl
    | pageSize => exact (natAt?_eq_some_iff rfl).mp hpageSize
    | maxOutputBytes => exact (natAt?_eq_some_iff rfl).mp hmaxOutputBytes
    | requestTimeout => exact (natAt?_eq_some_iff rfl).mp hrequestTimeout

theorem ofToml?_eq_some_iff : ofToml? doc = some layer ↔ layer.Records doc := by
  have hnames : (doc.any fun e => !names.contains e.1) = true ↔
      ¬ ∀ e ∈ doc, ∃ s : Setting, s.key = e.1 := by
    simp only [List.any_eq_true, Bool.not_eq_true', ← Bool.not_eq_true, List.contains_iff_mem,
      mem_names_iff, not_forall, exists_prop]
  rw [ofToml?]
  by_cases hknown : ∀ e ∈ doc, ∃ s : Setting, s.key = e.1
  · rw [if_neg fun h => hnames.mp h hknown]
    simp only [Option.bind_eq_bind, Option.bind_eq_some_iff, Option.some.injEq, Option.pure_def]
    constructor
    · rintro ⟨_, hprovider, _, hapiKey, _, hbaseUrl, _, hpageSize, _, hmaxOutputBytes,
        _, hrequestTimeout, rfl⟩
      exact ⟨hknown, forall_gives_iff.mpr
        ⟨hprovider, hapiKey, hbaseUrl, hpageSize, hmaxOutputBytes, hrequestTimeout⟩⟩
    · intro h
      obtain ⟨hprovider, hapiKey, hbaseUrl, hpageSize, hmaxOutputBytes, hrequestTimeout⟩ :=
        forall_gives_iff.mp h.given
      exact ⟨_, hprovider, _, hapiKey, _, hbaseUrl, _, hpageSize, _, hmaxOutputBytes,
        _, hrequestTimeout, rfl⟩
  · rw [if_pos (hnames.mpr hknown)]
    exact iff_of_false nofun fun h => hknown h.known

end Layer

namespace Loader

variable {l : Loader} {files : Files} {env : Environment} {userHome : Option Text}
  {s : Setting} {c : Config}

def Hears (l : Loader) (env : Environment) (s : Setting) (t : Text) : Prop :=
  l.skipVariables = false ∧ First env.Sets (s.sources l.stem) t

inductive Chooses (l : Loader) (env : Environment) (userHome : Option Text) : Text → Bool → Prop
  | given {path : Text} : l.file = some path → l.Chooses env userHome path true
  | inHome {home : Text} : l.file = none → l.home = some home →
      l.Chooses env userHome (Files.below home "config.toml".toList) false
  | inVariableHome {home : Text} : l.file = none → l.home = none →
      env.Sets "MODELCALL_HOME".toList home →
      l.Chooses env userHome (Files.below home "config.toml".toList) false
  | inUserHome {home : Text} : l.file = none → l.home = none →
      (∀ v, ¬ env.Sets "MODELCALL_HOME".toList v) → userHome = some home →
      l.Chooses env userHome
        (Files.below (Files.below home ".modelcall".toList) "config.toml".toList) false

def Finds (l : Loader) (files : Files) (env : Environment) (userHome : Option Text) (s : Setting)
    (w : Toml.Value) : Prop :=
  l.skipFile = false ∧ ∃ path required t doc, l.Chooses env userHome path required ∧
    files.readText path = .ok t ∧ Toml.read? t = some doc ∧ doc.lookup s.key = some w

def Settles (l : Loader) (files : Files) (env : Environment) (userHome : Option Text) (s : Setting)
    (o : Option Setting.Value) : Prop :=
  ∃ own file, Gives (l.Hears env s) s.Reads own ∧
    Gives (l.Finds files env userHome s) s.Takes file ∧ o = (own.or file).or (s.ofConfig .default)

theorem chosenFile?_eq_some_iff {path : Text} {required : Bool} :
    l.chosenFile? env userHome = some (path, required) ↔ l.Chooses env userHome path required := by
  rw [chosenFile?]
  constructor
  · intro h
    cases hfile : l.file with
    | some given =>
      rw [hfile] at h
      cases h
      exact .given hfile
    | none =>
      simp only [hfile, homeDirectory?] at h
      cases hhome : l.home with
      | some home =>
        simp only [hhome] at h
        cases h
        exact .inHome hfile hhome
      | none =>
        cases hvar : env.value? "MODELCALL_HOME".toList with
        | some home =>
          simp only [hhome, hvar] at h
          cases h
          exact .inVariableHome hfile hhome (Environment.value?_eq_some_iff.mp hvar)
        | none =>
          cases userHome with
          | none =>
            simp only [hhome, hvar] at h
            cases h
          | some home =>
            simp only [hhome, hvar] at h
            cases h
            exact .inUserHome hfile hhome (Environment.value?_eq_none_iff.mp hvar) rfl
  · intro h
    cases h with
    | given hfile => rw [hfile]
    | inHome hfile hhome => simp [hfile, homeDirectory?, hhome]
    | inVariableHome hfile hhome hvar =>
      have hvalue := Environment.value?_eq_some_iff.mpr hvar
      simp only [hfile, homeDirectory?, hhome, hvalue, Option.none_or, Option.some_or,
        Option.map_some]
    | inUserHome hfile hhome hvar huser =>
      have hvalue := Environment.value?_eq_none_iff.mpr hvar
      simp only [hfile, homeDirectory?, hhome, hvalue, huser, Option.none_or, Option.map_some]

theorem Chooses.unique {path path' : Text} {required required' : Bool}
    (h : l.Chooses env userHome path required) (h' : l.Chooses env userHome path' required') :
    path = path' ∧ required = required' := by
  rw [← chosenFile?_eq_some_iff] at h h'
  exact Prod.ext_iff.mp (Option.some.inj (h.symm.trans h'))

theorem Hears.unique {t t' : Text} (h : l.Hears env s t) (h' : l.Hears env s t') : t = t' := by
  have hfirst := Environment.findSome?_eq_some_iff.mpr h.2
  exact Option.some.inj (hfirst.symm.trans (Environment.findSome?_eq_some_iff.mpr h'.2))

theorem finds_iff {path t : Text} {required : Bool} {doc : Toml.Document} {w : Toml.Value}
    (hskip : l.skipFile = false) (hchosen : l.Chooses env userHome path required)
    (htext : files.readText path = .ok t) (hdoc : Toml.read? t = some doc) :
    l.Finds files env userHome s w ↔ doc.lookup s.key = some w := by
  constructor
  · rintro ⟨_, path', required', t', doc', hchosen', htext', hdoc', hw⟩
    obtain ⟨rfl, _⟩ := hchosen.unique hchosen'
    obtain rfl := Except.ok.inj (htext.symm.trans htext')
    obtain rfl := Option.some.inj (hdoc.symm.trans hdoc')
    exact hw
  · intro hw
    exact ⟨hskip, path, required, t, doc, hchosen, htext, hdoc, hw⟩

theorem Finds.unique {w w' : Toml.Value} (h : l.Finds files env userHome s w)
    (h' : l.Finds files env userHome s w') : w = w' := by
  obtain ⟨hskip, path, required, t, doc, hchosen, htext, hdoc, hw⟩ := h
  rw [finds_iff hskip hchosen htext hdoc] at h'
  exact Option.some.inj (hw.symm.trans h')

theorem Settles.unique {o o' : Option Setting.Value} (h : l.Settles files env userHome s o)
    (h' : l.Settles files env userHome s o') : o = o' := by
  obtain ⟨own, file, hown, hfile, rfl⟩ := h
  obtain ⟨own', file', hown', hfile', rfl⟩ := h'
  obtain rfl := hown.unique hown' (fun _ _ => Hears.unique) (fun _ _ _ => Setting.Reads.unique)
  obtain rfl := hfile.unique hfile' (fun _ _ => Finds.unique) (fun _ _ _ => Setting.Takes.unique)
  rfl

theorem hears_iff {bound : Nat} (hs : s.bound? = some bound) (hskip : l.skipVariables = false)
    {t : Text} : l.Hears env s t ↔ env.Sets (l.variableName s.suffix) t := by
  have hkey : s ≠ .apiKey := by
    rintro rfl
    cases hs
  simp only [Hears, hskip, Setting.sources, if_neg hkey, First, and_false, or_false, true_and]
  rfl

theorem gives_of_number? {bound : Nat} (hs : s.bound? = some bound)
    (hskip : l.skipVariables = false) {o : Option Nat}
    (h : l.number? env bound s.suffix = .ok o) :
    Gives (l.Hears env s) s.Reads (o.map .number) := by
  rw [number?, text?] at h
  cases hvalue : env.value? (l.variableName s.suffix) with
  | none =>
    rw [hvalue] at h
    cases h
    intro t ht
    exact Environment.value?_eq_none_iff.mp hvalue t ((hears_iff hs hskip).mp ht)
  | some t =>
    simp only [hvalue] at h
    cases hn : Decimal.natural? bound (Text.trim t) with
    | none =>
      rw [hn] at h
      cases h
    | some n =>
      rw [hn] at h
      cases h
      exact ⟨t, (hears_iff hs hskip).mpr (Environment.value?_eq_some_iff.mp hvalue),
        (Setting.reads_iff hs).mpr ⟨n, hn, rfl⟩⟩

theorem gives_of_findSome? (hs : s.bound? = none) (hskip : l.skipVariables = false)
    {o : Option Text} (h : (s.sources l.stem).findSome? env.value? = o) :
    Gives (l.Hears env s) s.Reads (o.map .text) := by
  have hears (t : Text) : l.Hears env s t ↔ First env.Sets (s.sources l.stem) t := by
    rw [Hears, hskip, eq_self, true_and]
  cases o with
  | none =>
    intro t ht
    exact Environment.findSome?_eq_none_iff.mp h t ((hears t).mp ht)
  | some t =>
    refine ⟨t, (hears t).mpr (Environment.findSome?_eq_some_iff.mp h), ?_⟩
    simp only [Setting.Reads, hs]

theorem gives_of_variableLayer {own : Layer} (h : l.variableLayer env = .ok own) (s : Setting) :
    Gives (l.Hears env s) s.Reads (s.ofLayer own) := by
  rw [variableLayer] at h
  cases hskip : l.skipVariables with
  | true =>
    rw [hskip] at h
    cases h
    rw [Setting.ofLayer_empty]
    intro t ht
    cases hskip.symm.trans ht.1
  | false =>
    simp only [hskip, Bool.false_eq_true, if_false, bind_eq_ok_iff] at h
    obtain ⟨pageSize, hpageSize, maxOutputBytes, hmaxOutputBytes, requestTimeout,
      hrequestTimeout, hown⟩ := h
    cases hown
    have hone (name : Text) : [name].findSome? env.value? = env.value? name :=
      List.findSome?_singleton
    have htwo (name other : Text) :
        [name, other].findSome? env.value? = (env.value? name).or (env.value? other) := by
      rw [List.findSome?_cons, hone]
      cases env.value? name <;> rfl
    cases s with
    | provider => exact gives_of_findSome? (s := .provider) rfl hskip (hone _)
    | apiKey => exact gives_of_findSome? (s := .apiKey) rfl hskip (htwo _ _)
    | baseUrl => exact gives_of_findSome? (s := .baseUrl) rfl hskip (hone _)
    | pageSize => exact gives_of_number? (s := .pageSize) rfl hskip hpageSize
    | maxOutputBytes => exact gives_of_number? (s := .maxOutputBytes) rfl hskip hmaxOutputBytes
    | requestTimeout => exact gives_of_number? (s := .requestTimeout) rfl hskip hrequestTimeout

theorem readLayer_eq_ok_iff {path : Text} {required : Bool} {layer : Layer} :
    readLayer files path required = .ok layer ↔
      (files.readText path = .error .notFound ∧ required = false ∧ layer = .empty) ∨
        ∃ t doc, files.readText path = .ok t ∧ Toml.read? t = some doc ∧ layer.Records doc := by
  rw [readLayer]
  cases htext : files.readText path with
  | error cause =>
    cases cause with
    | notFound => cases required <;> simp [eq_comm]
    | _ => simp
  | ok t =>
    have hlayer : (Toml.read? t).bind Layer.ofToml? = some layer ↔
        ∃ doc, Toml.read? t = some doc ∧ layer.Records doc := by
      simp only [Option.bind_eq_some_iff, Layer.ofToml?_eq_some_iff]
    simp only [reduceCtorEq, false_and, false_or, Except.ok.injEq, exists_and_left, exists_eq_left',
      ← hlayer]
    cases (Toml.read? t).bind Layer.ofToml? <;> simp

theorem fileLayer_of_chosen {path : Text} {required : Bool} (hskip : l.skipFile = false)
    (hchosen : l.Chooses env userHome path required) :
    l.fileLayer files env userHome = readLayer files path required := by
  simp only [fileLayer, hskip, Bool.false_eq_true, if_false, chosenFile?_eq_some_iff.mpr hchosen]

theorem fileLayer_eq_ok_iff (hskip : l.skipFile = false) {layer : Layer} :
    l.fileLayer files env userHome = .ok layer ↔ ∃ path required,
      l.Chooses env userHome path required ∧ readLayer files path required = .ok layer := by
  simp only [fileLayer, hskip, Bool.false_eq_true, if_false, ← chosenFile?_eq_some_iff]
  cases l.chosenFile? env userHome with
  | none => simp
  | some choice =>
    obtain ⟨path, required⟩ := choice
    constructor
    · intro h
      exact ⟨path, required, rfl, h⟩
    · rintro ⟨path', required', hchoice, h⟩
      cases hchoice
      exact h

theorem gives_of_fileLayer {layer : Layer} (h : l.fileLayer files env userHome = .ok layer)
    (s : Setting) :
    Gives (l.Finds files env userHome s) s.Takes (s.ofLayer layer) := by
  cases hskip : l.skipFile with
  | true =>
    rw [fileLayer, hskip] at h
    cases h
    rw [Setting.ofLayer_empty]
    intro w hw
    cases hskip.symm.trans hw.1
  | false =>
    obtain ⟨path, required, hchosen, hlayer⟩ := (fileLayer_eq_ok_iff hskip).mp h
    rcases readLayer_eq_ok_iff.mp hlayer with ⟨htext, _, rfl⟩ | ⟨t, doc, htext, hdoc, hrecords⟩
    · rw [Setting.ofLayer_empty]
      rintro w ⟨_, path', required', t, doc, hchosen', ht, _, _⟩
      obtain ⟨rfl, _⟩ := hchosen.unique hchosen'
      cases htext.symm.trans ht
    · exact (Setting.gives_congr fun _ => finds_iff hskip hchosen htext hdoc).mpr (hrecords.given s)

theorem fault?_eq_none_iff : c.fault? = none ↔ 1 ≤ c.pageSize ∧ 1 ≤ c.maxOutputBytes ∧
    ("http://".toList <+: c.baseUrl ∨ "https://".toList <+: c.baseUrl) := by
  rw [Config.fault?]
  by_cases hpageSize : c.pageSize = 0
  · rw [if_pos hpageSize]
    exact iff_of_false nofun fun h => Nat.one_le_iff_ne_zero.mp h.1 hpageSize
  rw [if_neg hpageSize]
  by_cases hmaxOutputBytes : c.maxOutputBytes = 0
  · rw [if_pos hmaxOutputBytes]
    exact iff_of_false nofun fun h => Nat.one_le_iff_ne_zero.mp h.2.1 hmaxOutputBytes
  rw [if_neg hmaxOutputBytes]
  simp only [Nat.one_le_iff_ne_zero, ne_eq, hpageSize, hmaxOutputBytes, not_false_eq_true, true_and,
    ite_eq_left_iff, reduceCtorEq, imp_false, not_not, Bool.or_eq_true, List.isPrefixOf_iff_prefix]

theorem settles_of_layers {file own : Layer} (hfile : l.fileLayer files env userHome = .ok file)
    (hown : l.variableLayer env = .ok own) (s : Setting) :
    l.Settles files env userHome s
      (s.ofConfig (((Layer.empty.overlay file).overlay own).applyTo .default)) := by
  refine ⟨_, _, gives_of_variableLayer hown s, gives_of_fileLayer hfile s, ?_⟩
  rw [Setting.ofConfig_applyTo, Setting.ofLayer_overlay, Setting.ofLayer_overlay,
    Setting.ofLayer_empty, Option.or_none]

theorem settles_of_load (h : l.load files env userHome = .ok c) :
    (∀ s : Setting, l.Settles files env userHome s (s.ofConfig c)) ∧ c.fault? = none := by
  simp only [load, bind_eq_ok_iff] at h
  obtain ⟨file, hfile, own, hown, h⟩ := h
  have hsettles := settles_of_layers hfile hown
  cases hfault : (((Layer.empty.overlay file).overlay own).applyTo .default).fault? with
  | some fault =>
    rw [hfault] at h
    cases h
  | none =>
    rw [hfault] at h
    cases h
    exact ⟨hsettles, hfault⟩

theorem settles_congr {env' : Environment}
    (h : ∀ name, (∀ other ≠ s, name ∉ other.sources l.stem) → env'.lookup name = env.lookup name) :
    l.Settles files env' userHome s = l.Settles files env userHome s := by
  have hears : l.Hears env' s = l.Hears env s := by
    funext t
    rw [Hears, Hears, Environment.first_sets_congr]
    intro name hname
    exact h name fun other hother hmem => hother (Setting.sources_disjoint hmem hname)
  -- the file is found by a variable that no stem turns into a setting's
  have hhome : env'.lookup "MODELCALL_HOME".toList = env.lookup "MODELCALL_HOME".toList :=
    h _ fun _ _ => Setting.home_not_mem_sources
  have hchooses (path : Text) (required : Bool) :
      l.Chooses env' userHome path required ↔ l.Chooses env userHome path required := by
    rw [← chosenFile?_eq_some_iff, ← chosenFile?_eq_some_iff, chosenFile?, chosenFile?,
      homeDirectory?, homeDirectory?, Environment.value?, Environment.value?, hhome]
  have hfinds : l.Finds files env' userHome s = l.Finds files env userHome s := by
    funext w
    simp only [Finds, hchooses]
  funext o
  rw [Settles, Settles, hears, hfinds]

theorem load_of_chosen (files : Files) {path : Text} {required : Bool} (hskip : l.skipFile = false)
    (hchosen : l.Chooses env userHome path required) :
    (∀ files', files' path = files path →
      l.load files' env userHome = l.load files env userHome) ∧
    (required = false → files.readText path = .error .notFound →
      l.load files env userHome = { l with skipFile := true }.load files env userHome) := by
  constructor
  · intro files' hsame
    simp only [load, fileLayer_of_chosen hskip hchosen, readLayer, Files.readText, hsame]
  · rintro rfl hmissing
    have hempty : readLayer files path false = .ok .empty :=
      readLayer_eq_ok_iff.mpr (.inl ⟨hmissing, rfl, rfl⟩)
    rw [load, fileLayer_of_chosen hskip hchosen, hempty]
    rfl

theorem exists_chooses_of_load (hload : l.load files env userHome = .ok c)
    (hskip : l.skipFile = false) : ∃ path required, l.Chooses env userHome path required ∧
      (files.readText path = .error .notFound → required = false) := by
  simp only [load, bind_eq_ok_iff] at hload
  obtain ⟨file, hfile, _⟩ := hload
  obtain ⟨path, required, hchosen, hlayer⟩ := (fileLayer_eq_ok_iff hskip).mp hfile
  refine ⟨path, required, hchosen, fun hmissing => ?_⟩
  rcases readLayer_eq_ok_iff.mp hlayer with ⟨_, hrequired, _⟩ | ⟨t, doc, htext, _⟩
  · exact hrequired
  · cases hmissing.symm.trans htext

theorem settings_are_layered (l : Loader) (files : Files) (env : Environment)
    (userHome : Option Text) (c : Config) (hload : l.load files env userHome = .ok c) :
    (∀ s : Setting, l.Settles files env userHome s (s.ofConfig c)) ∧
    (∀ c' : Config, (∀ s : Setting, l.Settles files env userHome s (s.ofConfig c')) → c' = c) ∧
    (∀ (s : Setting) (env' : Environment) (c' : Config),
      (∀ name, (∀ other ≠ s, name ∉ other.sources l.stem) → env'.lookup name = env.lookup name) →
      l.load files env' userHome = .ok c' → s.ofConfig c' = s.ofConfig c) ∧
    (l.skipFile = false → ∃ path required, l.Chooses env userHome path required ∧
      (∀ files', files' path = files path → l.load files' env userHome = .ok c) ∧
      (files.readText path = .error .notFound →
        required = false ∧ { l with skipFile := true }.load files env userHome = .ok c)) ∧
    1 ≤ c.pageSize ∧ 1 ≤ c.maxOutputBytes ∧
    ("http://".toList <+: c.baseUrl ∨ "https://".toList <+: c.baseUrl) := by
  obtain ⟨hsettles, hfault⟩ := settles_of_load hload
  refine ⟨hsettles, ?_, ?_, ?_, fault?_eq_none_iff.mp hfault⟩
  · intro c' hsettles'
    exact Setting.config_ext fun s => (hsettles' s).unique (hsettles s)
  · intro s env' c' hsame hload'
    have hsettles' := (settles_of_load hload').1 s
    rw [settles_congr hsame] at hsettles'
    exact hsettles'.unique (hsettles s)
  · intro hskip
    obtain ⟨path, required, hchosen, hmissing⟩ := exists_chooses_of_load hload hskip
    obtain ⟨hsame, hempty⟩ := load_of_chosen files hskip hchosen
    refine ⟨path, required, hchosen, fun files' h => (hsame files' h).trans hload, fun htext => ?_⟩
    have hrequired := hmissing htext
    exact ⟨hrequired, (hempty hrequired htext).symm.trans hload⟩

def overlaidFiles : Files := fun path =>
  if path = "h/.modelcall/config.toml".toList then
    .ok (Utf8.encode "provider = 'P'\npage_size = 0\nbase_url = \"ftp:\"\n".toList)
  else .error .notFound

def overlayingVariables : Environment :=
  [("T_PAGE_SIZE", " +007 "), ("T_BASE_URL", "https://e"), ("T_PROVIDER", " "), ("T_API_KEY", "\t"),
    ("GEMINI_API_KEY", "k ")].map fun (name, value) => (name.toList, value.toList)

theorem blank_variables_overlay_nothing :
    let l : Loader := { stem := ['T'] }
    let c : Config := ⟨['P'], some "k ".toList, "https://e".toList, 7, 16384, 60⟩
    l.load overlaidFiles overlayingVariables (some ['h']) = .ok c ∧
      (∀ s : Setting, l.Settles overlaidFiles overlayingVariables (some ['h']) s (s.ofConfig c)) ∧
      l.Chooses overlayingVariables (some ['h']) "h/.modelcall/config.toml".toList false := by
  intro l c
  have hload : l.load overlaidFiles overlayingVariables (some ['h']) = .ok c := by decide +kernel
  obtain ⟨hsettles, _, _, hfile, _⟩ := settings_are_layered _ _ _ _ _ hload
  obtain ⟨path, required, hchosen, _⟩ := hfile rfl
  have hpath : l.chosenFile? overlayingVariables (some ['h']) =
      some ("h/.modelcall/config.toml".toList, false) := by decide +kernel
  obtain ⟨rfl, rfl⟩ := hchosen.unique (chosenFile?_eq_some_iff.mp hpath)
  exact ⟨hload, hsettles, hchosen⟩

end Loader

end PromptLine
