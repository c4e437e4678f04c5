import PromptLine.Proofs.Config.Failure

namespace PromptLine

namespace Environment

variable {env env' : Environment} {name other value : Text} {names : List Text}

def Agree (env env' : Environment) (name : Text) : Prop :=
  ∀ value, env.Sets name value ↔ env'.Sets name value

theorem agree_iff : env.Agree env' name ↔ env.value? name = env'.value? name := by
  simp only [Agree, ← value?_eq_some_iff]
  exact Option.ext_iff.symm

theorem agree_singleton (h : other ≠ name) : Agree [(name, value)] [] other := by
  rw [agree_iff, value?, List.lookup_cons, beq_false_of_ne h]
  rfl

theorem sets_singleton_self (h : ∃ c ∈ value, isBlank c = false) :
    Sets [(name, value)] name value := by
  refine ⟨?_, h⟩
  rw [List.lookup_cons, beq_self_eq_true]

theorem not_sets_singleton_of_ne (h : other ≠ name) (v : Text) :
    ¬ Sets [(name, value)] other v := by
  rintro ⟨hlookup, _⟩
  rw [List.lookup_cons, beq_false_of_ne h] at hlookup
  cases hlookup

theorem first_sets_singleton (h : ∃ c ∈ value, isBlank c = false) (hmem : name ∈ names) :
    First (Sets [(name, value)]) names value := by
  induction names with
  | nil => cases hmem
  | cons other rest ih =>
    by_cases hother : other = name
    · subst hother
      exact .inl (sets_singleton_self h)
    · have hrest : name ∈ rest := (List.mem_cons.mp hmem).resolve_left (Ne.symm hother)
      exact .inr ⟨not_sets_singleton_of_ne hother, ih hrest⟩

end Environment

theorem Setting.default_ne_of_reads {s : Setting} {v : Setting.Value} (h : s.Reads ['x'] v) :
    s.ofConfig .default ≠ some v := by
  have htext (hs : s.bound? = none) : v = .text ['x'] := by
    simpa only [Reads, hs] using h
  have hnumber (bound : Nat) (hs : s.bound? = some bound) : False := by
    obtain ⟨n, hn, _⟩ := (reads_iff hs).mp h
    rw [Decimal.natural?_eq_some_iff, ← Decimal.dropStart_plus_writes_iff] at hn
    exact absurd (hn.1.digits 'x' (by decide)) (by decide)
  cases s with
  | provider =>
    rw [htext rfl]
    decide
  | apiKey =>
    intro heq
    cases heq
  | baseUrl =>
    rw [htext rfl]
    decide
  | pageSize => exact (hnumber _ rfl).elim
  | maxOutputBytes => exact (hnumber _ rfl).elim
  | requestTimeout => exact (hnumber _ rfl).elim

namespace Loader

variable {l : Loader} {files : Files} {env env' : Environment} {userHome : Option Text}
  {s : Setting} {name : Text}

inductive Consults (l : Loader) : Text → Prop
  | home : l.skipFile = false → l.file = none → l.home = none →
      l.Consults "MODELCALL_HOME".toList
  | setting {s : Setting} {name : Text} : l.skipVariables = false → name ∈ s.sources l.stem →
      l.Consults name

theorem fileLayer_congr (h : ∀ name, l.Consults name → env.Agree env' name) :
    l.fileLayer files env userHome = l.fileLayer files env' userHome := by
  rw [fileLayer, fileLayer]
  cases hskip : l.skipFile with
  | true => rfl
  | false =>
    have hchosen : l.chosenFile? env userHome = l.chosenFile? env' userHome := by
      rw [chosenFile?, chosenFile?]
      cases hfile : l.file with
      | some path => rfl
      | none =>
        rw [homeDirectory?, homeDirectory?]
        cases hhome : l.home with
        | some home => rfl
        | none => rw [Environment.agree_iff.mp (h _ (.home hskip hfile hhome))]
    rw [hchosen]

theorem value?_congr (h : ∀ name, l.Consults name → env.Agree env' name)
    (hskip : l.skipVariables = false) (hname : name ∈ s.sources l.stem) :
    env.value? name = env'.value? name :=
  Environment.agree_iff.mp (h name (.setting hskip hname))

theorem text?_congr (h : ∀ name, l.Consults name → env.Agree env' name)
    (hskip : l.skipVariables = false) (s : Setting) :
    l.text? env s.suffix = l.text? env' s.suffix :=
  value?_congr h hskip (s := s) List.mem_cons_self

theorem number?_congr (h : ∀ name, l.Consults name → env.Agree env' name)
    (hskip : l.skipVariables = false) (s : Setting) (bound : Nat) :
    l.number? env bound s.suffix = l.number? env' bound s.suffix := by
  rw [number?, number?, text?_congr h hskip]

theorem variableLayer_congr (h : ∀ name, l.Consults name → env.Agree env' name) :
    l.variableLayer env = l.variableLayer env' := by
  rw [variableLayer, variableLayer]
  cases hskip : l.skipVariables with
  | true => rfl
  | false =>
    have hprovider : l.text? env "PROVIDER".toList = l.text? env' "PROVIDER".toList :=
      text?_congr h hskip .provider
    have hapiKey : l.text? env "API_KEY".toList = l.text? env' "API_KEY".toList :=
      text?_congr h hskip .apiKey
    have hkey : env.value? "GEMINI_API_KEY".toList = env'.value? "GEMINI_API_KEY".toList :=
      value?_congr h hskip (s := .apiKey) (List.mem_cons_of_mem _ List.mem_cons_self)
    have hbaseUrl : l.text? env "BASE_URL".toList = l.text? env' "BASE_URL".toList :=
      text?_congr h hskip .baseUrl
    have hpageSize (bound : Nat) :
        l.number? env bound "PAGE_SIZE".toList = l.number? env' bound "PAGE_SIZE".toList :=
      number?_congr h hskip .pageSize bound
    have hmaxOutputBytes (bound : Nat) : l.number? env bound "MAX_OUTPUT_BYTES".toList =
        l.number? env' bound "MAX_OUTPUT_BYTES".toList :=
      number?_congr h hskip .maxOutputBytes bound
    have hrequestTimeout (bound : Nat) : l.number? env bound "REQUEST_TIMEOUT_SECS".toList =
        l.number? env' bound "REQUEST_TIMEOUT_SECS".toList :=
      number?_congr h hskip .requestTimeout bound
    rw [hpageSize, hmaxOutputBytes, hrequestTimeout, hprovider, hapiKey, hkey, hbaseUrl]

theorem load_congr (h : ∀ name, l.Consults name → env.Agree env' name) :
    l.load files env userHome = l.load files env' userHome := by
  rw [load, load, fileLayer_congr h, variableLayer_congr h]

def Influences (l : Loader) (name : Text) : Prop :=
  ∃ (files : Files) (userHome : Option Text) (env env' : Environment),
    (∀ other, other ≠ name → env.Agree env' other) ∧
      l.load files env userHome ≠ l.load files env' userHome

theorem influences_home (hskip : l.skipFile = false) (hfile : l.file = none)
    (hhome : l.home = none) : l.Influences "MODELCALL_HOME".toList := by
  let env : Environment := [("MODELCALL_HOME".toList, ['a'])]
  refine ⟨fun _ => .error .isDirectory, some ['b'], env, [],
    fun _ => Environment.agree_singleton, fun heq => ?_⟩
  have hset : l.Chooses env (some ['b']) "a/config.toml".toList false :=
    .inVariableHome hfile hhome (Environment.sets_singleton_self ⟨'a', by decide, by decide⟩)
  have hunset : l.Chooses [] (some ['b']) "b/.modelcall/config.toml".toList false :=
    .inUserHome hfile hhome (Environment.value?_eq_none_iff.mp rfl) rfl
  rw [load, load, fileLayer_of_chosen hskip hset, fileLayer_of_chosen hskip hunset] at heq
  change Except.error (ConfigError.io "a/config.toml".toList .isDirectory) =
    Except.error (ConfigError.io "b/.modelcall/config.toml".toList .isDirectory) at heq
  revert heq
  decide

def emptyFiles : Files := fun _ => .ok []

theorem load_of_nothing (l : Loader) : l.load emptyFiles [] (some ['h']) = .ok .default := by
  have hfile : l.fileLayer emptyFiles [] (some ['h']) = .ok .empty := by
    cases hskip : l.skipFile with
    | true => exact if_pos hskip
    | false =>
      obtain ⟨path, required, hchosen⟩ := l.exists_chooses [] ['h']
      rw [fileLayer_of_chosen hskip hchosen]
      rfl
  have hown : l.variableLayer [] = .ok .empty := by
    rw [variableLayer]
    cases l.skipVariables with
    | true => rfl
    | false => rfl
  rw [load, hfile, hown]
  rfl

theorem influences_setting (hskip : l.skipVariables = false) (hname : name ∈ s.sources l.stem) :
    l.Influences name := by
  refine ⟨emptyFiles, some ['h'], [(name, ['x'])], [], fun _ => Environment.agree_singleton,
    fun heq => ?_⟩
  rw [load_of_nothing] at heq
  have hears : l.Hears [(name, ['x'])] s ['x'] :=
    ⟨hskip, Environment.first_sets_singleton ⟨'x', by decide, by decide⟩ hname⟩
  obtain ⟨own, file, hown, _, hdefault⟩ := (settles_of_load heq).1 s
  cases own with
  | none => exact hown _ hears
  | some v =>
    obtain ⟨t, ht, hreads⟩ := hown
    obtain rfl := hears.unique ht
    exact Setting.default_ne_of_reads hreads hdefault

theorem consults_iff_influences : l.Consults name ↔ l.Influences name := by
  constructor
  · intro h
    cases h with
    | home hskip hfile hhome => exact influences_home hskip hfile hhome
    | setting hskip hname => exact influences_setting hskip hname
  · rintro ⟨files, userHome, env, env', hagree, hne⟩
    by_contra hnot
    refine hne (load_congr fun other hother => hagree other ?_)
    rintro rfl
    exact hnot hother

theorem only_consulted_variables_influence (l : Loader) :
    (∀ (files : Files) (userHome : Option Text) (env env' : Environment),
      env.Agree env' "MODELCALL_HOME".toList → env.Agree env' "GEMINI_API_KEY".toList →
      (∀ s : Setting, env.Agree env' (l.stem ++ '_' :: s.suffix)) →
      l.load files env userHome = l.load files env' userHome) ∧
    (l.skipVariables = true →
      ∀ (files : Files) (userHome : Option Text) (env env' : Environment),
        env.Agree env' "MODELCALL_HOME".toList →
        l.load files env userHome = l.load files env' userHome) ∧
    (l.skipVariables = true → l.file.isSome ∨ l.home.isSome ∨ l.skipFile = true →
      ∀ (files : Files) (userHome : Option Text) (env env' : Environment),
        l.load files env userHome = l.load files env' userHome) ∧
    ∀ name, l.Consults name ↔ l.Influences name := by
  refine ⟨fun files userHome env env' hhome hkey hsettings => load_congr fun name hname => ?_,
    fun hskip files userHome env env' hhome => load_congr fun name hname => ?_,
    fun hskip hfile files userHome env env' => load_congr fun name hname => ?_,
    fun name => consults_iff_influences⟩
  · cases hname with
    | home => exact hhome
    | @setting s _ _ hsource =>
      rcases List.mem_cons.mp hsource with rfl | hfallback
      · exact hsettings s
      · cases s with
        | apiKey =>
          obtain rfl : name = "GEMINI_API_KEY".toList := by simpa using hfallback
          exact hkey
        | _ => simp at hfallback
  · cases hname with
    | home => exact hhome
    | setting hread => cases hskip.symm.trans hread
  · cases hname with
    | home hread hnone hnohome => simp [hread, hnone, hnohome] at hfile
    | setting hread => cases hskip.symm.trans hread

def unblankedVariables : Environment :=
  [("PATH", "/bin"), ("T_BASE_URL", "https://e"), ("GEMINI_API_KEY", "k "),
    ("T_PAGE_SIZE", " +007 ")].map fun (name, value) => (name.toList, value.toList)

theorem blank_variables_are_as_unset :
    let l : Loader := { stem := ['T'] }
    let unread : Loader := { l with skipVariables := true }
    (∀ s : Setting, overlayingVariables.Agree unblankedVariables (l.stem ++ '_' :: s.suffix)) ∧
    l.load overlaidFiles overlayingVariables (some ['h']) =
      l.load overlaidFiles unblankedVariables (some ['h']) ∧
    unread.load overlaidFiles overlayingVariables (some ['h']) =
      unread.load overlaidFiles [] (some ['h']) ∧
    { unread with home := some ['d'] }.load overlaidFiles overlayingVariables none =
      { unread with home := some ['d'] }.load overlaidFiles
        [("MODELCALL_HOME".toList, ['a'])] none := by
  intro l unread
  have hsettings (s : Setting) :
      overlayingVariables.Agree unblankedVariables (l.stem ++ '_' :: s.suffix) :=
    Environment.agree_iff.mpr (by cases s <;> decide +kernel)
  exact ⟨hsettings,
    (only_consulted_variables_influence l).1 _ _ _ _ (Environment.agree_iff.mpr (by decide +kernel))
      (Environment.agree_iff.mpr (by decide +kernel)) hsettings,
    (only_consulted_variables_influence unread).2.1 rfl _ _ _ _
      (Environment.agree_iff.mpr (by decide +kernel)),
    (only_consulted_variables_influence { unread with home := some ['d'] }).2.2.1 rfl
      (.inr (.inl rfl)) _ _ _ _⟩

end Loader

end PromptLine
