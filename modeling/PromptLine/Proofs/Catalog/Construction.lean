import PromptLine.Catalog.Basic

namespace PromptLine.Catalog

variable {provider : Text} {entries more : List Entry}

theorem get?_ofEntries (provider : Text) (entries : List Entry) (name : Text) :
    (ofEntries provider entries).get? name = entries.find? (·.name = name) :=
  find?_firstsBy Entry.name entries name

theorem ofEntries_entries (c : Catalog) : ofEntries c.provider c.entries = c := by
  obtain ⟨provider, entries, distinct⟩ := c
  simp only [ofEntries, firstsBy_of_nodup Entry.name distinct]

def gather : List Text → List Entry → List Entry → List Entry
  | _, kept, [] => kept
  | met, kept, e :: rest =>
      if e.name ∈ met then gather met kept rest
      else gather (e.name :: met) (kept ++ [e]) rest

theorem gather_eq (met : List Text) (kept entries : List Entry) :
    gather met kept entries = kept ++ (firstsBy Entry.name entries).filter (·.name ∉ met) := by
  induction entries generalizing met kept with
  | nil => exact (List.append_nil kept).symm
  | cons e rest ih =>
    rw [gather, firstsBy]
    split
    · next hmet =>
      -- what the head would keep out of the rest is out of it already
      have hskip : ((firstsBy Entry.name rest).filter (·.name ≠ e.name)).filter (·.name ∉ met) =
          (firstsBy Entry.name rest).filter (·.name ∉ met) := by
        rw [List.filter_filter]
        refine List.filter_congr fun x _ => ?_
        by_cases hx : x.name = e.name
        · simp [hx, hmet]
        · simp [hx]
      rw [ih, List.filter_cons_of_neg (by simpa using hmet), hskip]
    · next hmet =>
      have hkeep : ((firstsBy Entry.name rest).filter (·.name ≠ e.name)).filter (·.name ∉ met) =
          (firstsBy Entry.name rest).filter (·.name ∉ e.name :: met) := by
        rw [List.filter_filter]
        simp only [List.mem_cons, not_or, Bool.decide_and, Bool.and_comm]
      rw [ih, List.filter_cons_of_pos (by simpa using hmet), hkeep, List.append_assoc,
        List.singleton_append]

theorem gather_nil (entries : List Entry) : gather [] [] entries = firstsBy Entry.name entries := by
  rw [gather_eq, List.nil_append]
  exact List.filter_eq_self.mpr fun _ _ => rfl

theorem get?_ofEntries_eq_some_iff {name : Text} {e : Entry} :
    (ofEntries provider entries).get? name = some e ↔
      ∃ before behind, entries = before ++ e :: behind ∧ e.name = name ∧
        ∀ x ∈ before, x.name ≠ name := by
  rw [get?_ofEntries, List.find?_eq_some_iff_append]
  simp only [decide_eq_true_eq, Bool.not_eq_true', decide_eq_false_iff_not]
  constructor
  · rintro ⟨hname, before, behind, hsplit, hbefore⟩
    exact ⟨before, behind, hsplit, hname, hbefore⟩
  · rintro ⟨before, behind, hsplit, hname, hbefore⟩
    exact ⟨hname, before, behind, hsplit, hbefore⟩

theorem get?_ofEntries_eq_none_iff {name : Text} :
    (ofEntries provider entries).get? name = none ↔ name ∉ entries.map Entry.name := by
  simp [get?_ofEntries]

theorem defaultSelection_ofEntries (provider : Text) (entries : List Entry) :
    (ofEntries provider entries).defaultSelection =
      entries.head?.map fun e => (e, e.actions.head?) := by
  cases entries <;> rfl

theorem ofEntries_append (h : ∀ e ∈ more, e.name ∈ entries.map Entry.name) :
    ofEntries provider (entries ++ more) = ofEntries provider entries := by
  have hentries : firstsBy Entry.name (entries ++ more) = firstsBy Entry.name entries := by
    rw [firstsBy_append, List.append_right_eq_self, List.filter_eq_nil_iff]
    intro e he
    have hmet := h e ((firstsBy_sublist Entry.name more).subset he)
    simpa using hmet
  simp only [ofEntries, hentries]

theorem construction_keeps_the_first_of_each_name (provider : Text) (entries : List Entry) :
    let c := ofEntries provider entries
    c.provider = provider ∧ c.entries = gather [] [] entries ∧
    (c.entries.map Entry.name).Nodup ∧ c.entries.Sublist entries ∧
    (∀ name, name ∈ c.entries.map Entry.name ↔ name ∈ entries.map Entry.name) ∧
    (∀ name e, c.get? name = some e ↔ ∃ before behind, entries = before ++ e :: behind ∧
      e.name = name ∧ ∀ x ∈ before, x.name ≠ name) ∧
    (∀ name, c.get? name = none ↔ name ∉ entries.map Entry.name) ∧
    c.defaultSelection = entries.head?.map (fun e => (e, e.actions.head?)) ∧
    ofEntries c.provider c.entries = c ∧
    ∀ more, (∀ e ∈ more, e.name ∈ entries.map Entry.name) →
      ofEntries provider (entries ++ more) = c :=
  ⟨rfl, (gather_nil entries).symm, firstsBy_nodup Entry.name entries,
    firstsBy_sublist Entry.name entries, fun _ => mem_firstsBy_key Entry.name,
    fun _ _ => get?_ofEntries_eq_some_iff, fun _ => get?_ofEntries_eq_none_iff,
    defaultSelection_ofEntries provider entries, ofEntries_entries _, fun _ => ofEntries_append⟩

def repeatedEntries : List Entry :=
  [⟨['m'], none, [['f'], ['g']]⟩, ⟨['n'], none, []⟩, ⟨['m'], some ['M'], []⟩]

theorem appended_repetition_is_dropped :
    let c := ofEntries ['G'] repeatedEntries
    (∀ e ∈ [(⟨['n'], some ['N'], [['f']]⟩ : Entry)], e.name ∈ repeatedEntries.map Entry.name) ∧
    ofEntries ['G'] (repeatedEntries ++ [⟨['n'], some ['N'], [['f']]⟩]) = c ∧
    c.get? ['m'] = some ⟨['m'], none, [['f'], ['g']]⟩ ∧ c.get? ['x'] = none := by
  have hnames : ∀ e ∈ [(⟨['n'], some ['N'], [['f']]⟩ : Entry)],
      e.name ∈ repeatedEntries.map Entry.name := by decide
  obtain ⟨_, _, _, _, _, hfirst, hnone, _, _, happend⟩ :=
    construction_keeps_the_first_of_each_name ['G'] repeatedEntries
  exact ⟨hnames, happend _ hnames, (hfirst _ _).mpr ⟨[], _, rfl, rfl, List.forall_mem_nil _⟩,
    (hnone _).mpr (by decide)⟩

end PromptLine.Catalog
