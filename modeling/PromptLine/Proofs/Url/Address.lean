import PromptLine.Proofs.Text.Ends
import PromptLine.Proofs.Text.Split
import PromptLine.Url.Target

namespace PromptLine.Url

structure PlainPath (t : Text) : Prop where
  chars : ∀ x ∈ t, pathSet x = false ∧ x ≠ '\\'
  segments : ∀ s ∈ Text.splitWhere isSeparator t, isOneDot s = false ∧ isTwoDots s = false

theorem plainPath_iff {t : Text} : PlainPath t ↔
    (t.all fun x => !pathSet x && x != '\\') = true ∧
      ((Text.splitWhere isSeparator t).all fun s => !isOneDot s && !isTwoDots s) = true := by
  simp only [List.all_eq_true, Bool.and_eq_true, Bool.not_eq_true', bne_iff_ne]
  exact ⟨fun h => ⟨h.chars, h.segments⟩, fun h => ⟨h.1, h.2⟩⟩

instance (t : Text) : Decidable (PlainPath t) := decidable_of_iff _ plainPath_iff.symm

theorem percent_append (set : Char → Bool) (t u : Text) :
    percent set (t ++ u) = percent set t ++ percent set u :=
  List.flatMap_append

theorem percent_cons {set : Char → Bool} {c : Char} (h : set c = false) (t : Text) :
    percent set (c :: t) = c :: percent set t := by
  rw [percent, List.flatMap_cons, ← percent, if_neg (by simp [h])]
  rfl

theorem percent_of_none {set : Char → Bool} {t : Text} (h : ∀ x ∈ t, set x = false) :
    percent set t = t := by
  induction t with
  | nil => rfl
  | cons c t ih =>
    rw [percent_cons (h c List.mem_cons_self), ih fun x hx => h x (List.mem_cons_of_mem _ hx)]

theorem join_map_percent {set : Char → Bool} {sep : Char} (h : set sep = false)
    (parts : List Text) :
    Text.join [sep] (parts.map (percent set)) = percent set (Text.join [sep] parts) := by
  induction parts with
  | nil => rfl
  | cons part rest ih =>
    cases rest with
    | nil => rfl
    | cons next rest =>
      have hjoin : Text.join [sep] (part :: next :: rest) =
          part ++ sep :: Text.join [sep] (next :: rest) := List.append_assoc _ _ _
      rw [hjoin, percent_append, percent_cons h, ← ih]
      exact List.append_assoc _ _ _

theorem walk_ahead {done segments : List Text}
    (h : ∀ s ∈ segments, isOneDot s = false ∧ isTwoDots s = false) :
    walk done segments = done ++ segments.map (percent pathSet) := by
  induction segments generalizing done with
  | nil => simp [walk]
  | cons segment rest ih =>
    obtain ⟨hone, htwo⟩ := h segment List.mem_cons_self
    rw [walk, if_neg (by simp [htwo]), if_neg (by simp [hone]),
      ih fun s hs => h s (List.mem_cons_of_mem _ hs), List.append_assoc]
    rfl

structure WholePath (t : Text) : Prop where
  chars : ∀ x ∈ t, Target.counts x = true ∧ x ∉ ['?', '#', '\\']
  segments : ∀ s ∈ Text.splitWhere isSeparator t, isOneDot s = false ∧ isTwoDots s = false

theorem wholePath_iff {t : Text} : WholePath t ↔
    (t.all fun x => Target.counts x && !(['?', '#', '\\'].contains x)) = true ∧
      ((Text.splitWhere isSeparator t).all fun s => !isOneDot s && !isTwoDots s) = true := by
  simp only [List.all_eq_true, Bool.and_eq_true, Bool.not_eq_true', List.contains_eq_mem,
    decide_eq_false_iff_not]
  exact ⟨fun h => ⟨h.chars, h.segments⟩, fun h => ⟨h.1, h.2⟩⟩

instance (t : Text) : Decidable (WholePath t) := decidable_of_iff _ wholePath_iff.symm

namespace WholePath

variable {t u : Text}

theorem append_slash (ht : WholePath t) (hu : WholePath u) : WholePath (t ++ '/' :: u) := by
  constructor
  · exact List.forall_mem_append.mpr
      ⟨ht.chars, List.forall_mem_cons.mpr ⟨by decide, hu.chars⟩⟩
  · rw [Text.splitWhere_append rfl]
    exact List.forall_mem_append.mpr ⟨ht.segments, hu.segments⟩

theorem pathOf_eq (h : WholePath ('/' :: t)) : pathOf ('/' :: t) = percent pathSet ('/' :: t) := by
  have hsegments : ∀ s ∈ Text.splitWhere isSeparator t, isOneDot s = false ∧ isTwoDots s = false := by
    intro s hs
    refine h.segments s ?_
    rw [Text.splitWhere_cons_pos rfl]
    exact List.mem_cons_of_mem _ hs
  have hjoin : Text.join ['/'] (Text.splitWhere isSeparator t) = t := by
    apply Text.join_splitWhere
    intro x hx hsep
    have hne : x ≠ '\\' := fun hx' => (h.chars x (List.mem_cons_of_mem _ hx)).2 (by simp [hx'])
    simpa [isSeparator, hne] using hsep
  rw [pathOf, List.drop_one, List.tail_cons, walk_ahead hsegments, List.nil_append,
    join_map_percent rfl, hjoin, percent_cons rfl]

theorem ofRest_eq (h : WholePath ('/' :: t)) :
    Target.ofRest ('/' :: t) = ⟨percent pathSet ('/' :: t), none⟩ := by
  have hmark {c : Char} (hc : c ∈ ['?', '#', '\\']) : c ∉ '/' :: t := fun hx => (h.chars c hx).2 hc
  have hfragment : ('/' :: t).takeWhile (· != '#') = '/' :: t := by
    rw [List.takeWhile_eq_self_iff]
    intro x hx
    rw [bne_iff_ne]
    rintro rfl
    exact hmark (by decide) hx
  have hquery : Text.cut? '?' ('/' :: t) = none := Text.cut?_eq_none_iff.mpr (hmark (by decide))
  simp only [Target.ofRest, hfragment, hquery, h.pathOf_eq]

end WholePath

namespace PlainPath

variable {t u : Text}

theorem not_mem {x : Char} (h : PlainPath t) (hx : pathSet x = true ∨ x = '\\') : x ∉ t := by
  intro hm
  obtain ⟨hset, hne⟩ := h.chars x hm
  rcases hx with hx | hx
  · rw [hset] at hx
    cases hx
  · exact hne hx

theorem append_slash : PlainPath (t ++ '/' :: u) ↔ PlainPath t ∧ PlainPath u := by
  have hsplit : Text.splitWhere isSeparator (t ++ '/' :: u) =
      Text.splitWhere isSeparator t ++ Text.splitWhere isSeparator u := Text.splitWhere_append rfl
  constructor
  · rintro ⟨hchars, hsegments⟩
    rw [hsplit] at hsegments
    refine ⟨⟨fun x hx => hchars x (List.mem_append_left _ hx), fun s hs =>
      hsegments s (List.mem_append_left _ hs)⟩, ⟨fun x hx => ?_, fun s hs =>
      hsegments s (List.mem_append_right _ hs)⟩⟩
    exact hchars x (List.mem_append_right _ (List.mem_cons_of_mem _ hx))
  · rintro ⟨ht, hu⟩
    refine ⟨fun x hx => ?_, fun s hs => ?_⟩
    · rcases List.mem_append.mp hx with hx | hx
      · exact ht.chars x hx
      · rcases List.mem_cons.mp hx with rfl | hx
        · decide
        · exact hu.chars x hx
    · rw [hsplit] at hs
      rcases List.mem_append.mp hs with hs | hs
      · exact ht.segments s hs
      · exact hu.segments s hs

theorem dropEndSlashes (h : PlainPath t) : PlainPath (Text.dropEndWhile (· == '/') t) := by
  obtain ⟨slashes, ht, hslashes, _⟩ := Text.dropEndWhile_split (· == '/') t
  cases slashes with
  | nil =>
    rw [List.append_nil] at ht
    rwa [← ht]
  | cons c slashes =>
    obtain rfl : c = '/' := by simpa using hslashes c List.mem_cons_self
    rw [ht] at h
    exact (append_slash.mp h).1

theorem whole (h : PlainPath t) : WholePath t := by
  refine ⟨fun x hx => ?_, h.segments⟩
  have hmark (c : Char) (hc : pathSet c = true) : x ≠ c := by
    rintro rfl
    exact h.not_mem (.inl hc) hx
  simp [Target.counts, hmark '\n' (by decide), hmark '\r' (by decide), hmark '\t' (by decide),
    hmark '?' (by decide), hmark '#' (by decide), (h.chars x hx).2]

theorem percent_eq (h : PlainPath t) : percent pathSet t = t :=
  percent_of_none fun x hx => (h.chars x hx).1

end PlainPath

namespace Target

def IsScheme (t : Text) : Prop :=
  t.map Char.toLower = "http:".toList ∨ t.map Char.toLower = "https:".toList

end Target

structure PlainAddress (address path : Text) : Prop where
  origin : ∃ lead scheme slashes host, (∀ x ∈ lead, Target.leads x = true) ∧
    Target.IsScheme scheme ∧ (∀ x ∈ slashes, isSeparator x = true) ∧ host ≠ [] ∧
    (∀ x ∈ host, Target.endsHost x = false ∧ Target.counts x = true) ∧
    address = lead ++ (scheme ++ (slashes ++ (host ++ path)))
  rooted : path = [] ∨ ∃ rest, path = '/' :: rest
  plain : PlainPath path

theorem endsHost_slash : Target.endsHost '/' = true := rfl

theorem counts_of_isSeparator {c : Char} (h : isSeparator c = true) : Target.counts c = true := by
  rw [isSeparator, Bool.or_eq_true, beq_iff_eq, beq_iff_eq] at h
  rcases h with rfl | rfl
  · decide
  · decide

namespace Target

variable {address t rest : Text} {target : Target}

theorem stripScheme?_eq_some_iff {scheme : Text} : stripScheme? scheme t = some rest ↔
    ∃ s, s.map Char.toLower = scheme ∧ t = s ++ rest := by
  rw [stripScheme?]
  constructor
  · intro h
    split at h
    · next hlower =>
      refine ⟨_, hlower, ?_⟩
      rw [← Option.some.inj h, List.take_append_drop]
    · cases h
  · rintro ⟨s, rfl, rfl⟩
    rw [List.length_map, List.take_left, List.drop_left, if_pos rfl]

theorem stripSchemes_eq_some_iff : (stripScheme? "http:".toList t).or
    (stripScheme? "https:".toList t) = some rest ↔ ∃ scheme, IsScheme scheme ∧ t = scheme ++ rest := by
  constructor
  · intro h
    rcases Option.or_eq_some_iff.mp h with h | ⟨_, h⟩
    · obtain ⟨s, hs, ht⟩ := stripScheme?_eq_some_iff.mp h
      exact ⟨s, .inl hs, ht⟩
    · obtain ⟨s, hs, ht⟩ := stripScheme?_eq_some_iff.mp h
      exact ⟨s, .inr hs, ht⟩
  · rintro ⟨s, hs | hs, rfl⟩
    · rw [stripScheme?_eq_some_iff.mpr ⟨s, hs, rfl⟩, Option.some_or]
    · have hother : stripScheme? "http:".toList (s ++ rest) = none := by
        have hlong : "http:".toList.length ≤ s.length := by
          have hlen := congrArg List.length hs
          rw [List.length_map] at hlen
          rw [hlen]
          decide
        have hdiffer : "https:".toList.take "http:".toList.length ≠ "http:".toList := by decide
        rw [stripScheme?, List.take_append_of_le_length hlong, List.map_take, hs, if_neg hdiffer]
      rw [hother, Option.none_or, stripScheme?_eq_some_iff.mpr ⟨s, hs, rfl⟩]

theorem toLower_of_leads {x : Char} (h : leads x = true) : x.toLower = x := by
  have hlow : x.toNat ≤ 0x20 := of_decide_eq_true h
  have hupper : ¬ (x.val ≥ 65 ∧ x.val ≤ 90) := by
    rintro ⟨hge, _⟩
    have hge' : 65 ≤ x.toNat := UInt32.le_iff_toNat_le.mp hge
    omega
  exact dif_neg hupper

theorem leads_of_not_counts {x : Char} (h : counts x = false) : leads x = true := by
  simp only [counts, Bool.and_eq_false_iff, bne_eq_false_iff_eq] at h
  rcases h with (rfl | rfl) | rfl
  · decide
  · decide
  · decide

namespace IsScheme

variable {s : Text}

theorem leads_eq_false (h : IsScheme s) : ∀ x ∈ s, leads x = false := by
  have hsigns : ("http:".toList ++ "https:".toList).all (!leads ·) = true := by decide
  have hmem : ∀ x ∈ s, x.toLower ∈ "http:".toList ++ "https:".toList := by
    intro x hx
    rcases h with h | h
    · exact List.mem_append_left _ (h ▸ List.mem_map_of_mem hx)
    · exact List.mem_append_right _ (h ▸ List.mem_map_of_mem hx)
  intro x hx
  rw [Bool.eq_false_iff]
  intro hleads
  have hsign := List.all_eq_true.mp hsigns _ (hmem x hx)
  rw [toLower_of_leads hleads, hleads] at hsign
  cases hsign

theorem counts_eq_true (h : IsScheme s) : ∀ x ∈ s, counts x = true := by
  intro x hx
  rw [← Bool.not_eq_false]
  intro hno
  have hleads := h.leads_eq_false x hx
  rw [leads_of_not_counts hno] at hleads
  cases hleads

theorem ne_nil (h : IsScheme s) : s ≠ [] := by
  rintro rfl
  rcases h with h | h
  · cases h
  · cases h

end IsScheme

theorem ofAddress?_eq_some_iff : ofAddress? address = some target ↔
    ∃ scheme slashes host rest, IsScheme scheme ∧ (∀ x ∈ slashes, isSeparator x = true) ∧
      host ≠ [] ∧ (∀ x ∈ host, endsHost x = false) ∧ (∀ x ∈ rest.head?, endsHost x = true) ∧
      (address.dropWhile leads).filter counts = scheme ++ (slashes ++ (host ++ rest)) ∧
      target = ofRest rest := by
  simp only [ofAddress?]
  constructor
  · intro h
    split at h
    · cases h
    · next after hstrip =>
      obtain ⟨scheme, hscheme, haddress⟩ := stripSchemes_eq_some_iff.mp hstrip
      obtain ⟨slashes, hafter, hslashes, _⟩ := Text.dropWhile_split isSeparator after
      split at h
      · cases h
      · next hhost =>
        refine ⟨scheme, slashes, _, _, hscheme, hslashes,
          fun he => hhost (List.isEmpty_iff.mpr he), ?_, ?_, ?_, (Option.some.inj h).symm⟩
        · intro x hx
          simpa using List.mem_takeWhile_imp hx
        · intro x hx
          simpa [Option.mem_def.mp hx] using
            List.head?_dropWhile_not (!endsHost ·) (after.dropWhile isSeparator)
        · rw [List.takeWhile_append_dropWhile, ← hafter, haddress]
  · rintro ⟨scheme, slashes, host, rest, hscheme, hslashes, hne, hhost, hrest, haddress, rfl⟩
    have hhost' : ∀ x ∈ host, (!endsHost x) = true := fun x hx => by rw [hhost x hx]; rfl
    have hstart : (slashes ++ (host ++ rest)).dropWhile isSeparator = host ++ rest := by
      refine Text.dropWhile_eq_iff.mpr ⟨slashes, rfl, hslashes, ?_⟩
      refine Text.startsOff_append (Text.startsOff_of_all fun x hx => ?_) fun he => absurd he hne
      have hx := hhost x hx
      simp only [endsHost, Bool.or_eq_false_iff] at hx
      exact hx.1.1
    have hdrop : (host ++ rest).dropWhile (!endsHost ·) = rest :=
      Text.dropWhile_eq_iff.mpr ⟨host, rfl, hhost', fun x hx => by simp [hrest x hx]⟩
    have htake : (host ++ rest).takeWhile (!endsHost ·) = host := by
      have h := (host ++ rest).takeWhile_append_dropWhile (p := (!endsHost ·))
      rw [hdrop] at h
      exact List.append_cancel_right h
    simp only [stripSchemes_eq_some_iff.mpr ⟨scheme, hscheme, haddress⟩, hstart, htake, hdrop]
    rw [if_neg (by simpa using hne)]

theorem exists_ofAddress?_append (h : ofAddress? address = some target) (t : Text) :
    ∃ target', ofAddress? (address ++ t) = some target' := by
  obtain ⟨scheme, slashes, host, rest, hscheme, hslashes, hne, hhost, _, haddress, _⟩ :=
    ofAddress?_eq_some_iff.mp h
  obtain ⟨more, hmore, hall, hends⟩ := Text.dropWhile_split (!endsHost ·) (rest ++ t.filter counts)
  refine ⟨ofRest ((rest ++ t.filter counts).dropWhile (!endsHost ·)), ofAddress?_eq_some_iff.mpr
    ⟨scheme, slashes, host ++ more, _, hscheme, hslashes, ?_, ?_, ?_, ?_, rfl⟩⟩
  · exact List.append_ne_nil_of_left_ne_nil hne more
  · refine List.forall_mem_append.mpr ⟨hhost, fun x hx => ?_⟩
    simpa using hall x hx
  · intro x hx
    simpa using hends x hx
  · have hbegun : (address.dropWhile leads).isEmpty = false := by
      rw [List.isEmpty_eq_false_iff]
      intro hnil
      rw [hnil] at haddress
      exact hscheme.ne_nil (List.append_eq_nil_iff.mp haddress.symm).1
    rw [List.dropWhile_append, hbegun, if_neg Bool.false_ne_true, List.filter_append, haddress,
      List.append_assoc host, ← hmore]
    simp only [List.append_assoc]

end Target

namespace PlainAddress

variable {address path : Text}

theorem dropEndSlashes (h : PlainAddress address path) :
    PlainAddress (Text.dropEndWhile (· == '/') address) (Text.dropEndWhile (· == '/') path) := by
  obtain ⟨lead, scheme, slashes, host, hlead, hscheme, hslashes, hne, hhost, rfl⟩ := h.origin
  have hends : Text.EndsOff (· == '/') (lead ++ (scheme ++ (slashes ++ host))) := by
    have hhost' : Text.EndsOff (· == '/') host := by
      refine Text.endsOff_of_all fun x hx => ?_
      rw [beq_eq_false_iff_ne]
      rintro rfl
      exact absurd (hhost _ hx).1 (by decide)
    rw [← List.append_assoc, ← List.append_assoc]
    exact Text.endsOff_append hhost' fun he => absurd he hne
  refine ⟨⟨lead, scheme, slashes, host, hlead, hscheme, hslashes, hne, hhost, ?_⟩, ?_,
    h.plain.dropEndSlashes⟩
  · have hdrop := Text.dropEndWhile_append hends (t := path)
    simpa only [List.append_assoc] using hdrop
  · obtain ⟨slashes, hpath, _, _⟩ := Text.dropEndWhile_split (· == '/') path
    cases hdrop : Text.dropEndWhile (· == '/') path with
    | nil => exact .inl rfl
    | cons x t =>
      rcases h.rooted with hnil | ⟨rest, hroot⟩
      · rw [hnil] at hdrop
        cases hdrop
      · rw [hdrop, hroot, List.cons_append, List.cons.injEq] at hpath
        exact .inr ⟨t, by rw [hpath.1]⟩

theorem ofAddress?_whole {t : Text} (h : PlainAddress address path) (ht : WholePath t) :
    Target.ofAddress? (address ++ '/' :: t) = some ⟨path ++ '/' :: percent pathSet t, none⟩ := by
  obtain ⟨lead, scheme, slashes, host, hlead, hscheme, hslashes, hne, hhost, rfl⟩ := h.origin
  have hwhole := h.plain.whole.append_slash ht
  have hpercent : percent pathSet (path ++ '/' :: t) = path ++ '/' :: percent pathSet t := by
    rw [percent_append, h.plain.percent_eq, percent_cons rfl]
  obtain ⟨rest, hrest⟩ : ∃ rest, path ++ '/' :: t = '/' :: rest := by
    rcases h.rooted with rfl | ⟨rest, rfl⟩
    · exact ⟨t, rfl⟩
    · exact ⟨rest ++ '/' :: t, rfl⟩
  have hcounts : ∀ x ∈ scheme ++ (slashes ++ (host ++ '/' :: rest)), Target.counts x = true := by
    refine List.forall_mem_append.mpr ⟨hscheme.counts_eq_true, List.forall_mem_append.mpr
      ⟨fun x hx => counts_of_isSeparator (hslashes x hx), List.forall_mem_append.mpr
        ⟨fun x hx => (hhost x hx).2, ?_⟩⟩⟩
    rw [← hrest]
    exact fun x hx => (hwhole.chars x hx).1
  have hstart : Text.StartsOff Target.leads (scheme ++ (slashes ++ (host ++ '/' :: rest))) :=
    Text.startsOff_append (Text.startsOff_of_all hscheme.leads_eq_false)
      fun he => absurd he hscheme.ne_nil
  have haddress : lead ++ (scheme ++ (slashes ++ (host ++ path))) ++ '/' :: t =
      lead ++ (scheme ++ (slashes ++ (host ++ '/' :: rest))) := by
    rw [← hrest]
    simp only [List.append_assoc]
  rw [← hpercent, haddress]
  rw [hrest] at hwhole ⊢
  rw [← hwhole.ofRest_eq]
  refine Target.ofAddress?_eq_some_iff.mpr ⟨scheme, slashes, host, _, hscheme, hslashes, hne,
    fun x hx => (hhost x hx).1, by simp [endsHost_slash], ?_, rfl⟩
  rw [Text.dropWhile_eq_iff.mpr ⟨lead, rfl, hlead, hstart⟩, List.filter_eq_self.mpr hcounts]

end PlainAddress

end PromptLine.Url
