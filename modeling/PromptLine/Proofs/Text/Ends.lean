import Mathlib.Data.List.Induction
import Mathlib.Data.List.TakeWhile
import PromptLine.Text.Blank

namespace PromptLine.Text

def StartsOff (p : Char → Bool) (t : Text) : Prop := ∀ c ∈ t.head?, p c = false

def EndsOff (p : Char → Bool) (t : Text) : Prop := ∀ c ∈ t.getLast?, p c = false

variable {p : Char → Bool} {t u : Text}

theorem startsOff_append {s : Text} (hs : StartsOff p s) (ht : s = [] → StartsOff p t) :
    StartsOff p (s ++ t) := by
  cases s with
  | nil => exact ht rfl
  | cons c s => simpa [StartsOff] using hs

theorem endsOff_append {s : Text} (ht : EndsOff p t) (hs : t = [] → EndsOff p s) :
    EndsOff p (s ++ t) := by
  cases t using List.reverseRecOn with
  | nil => simpa using hs rfl
  | append_singleton t c => simpa [EndsOff, ← List.append_assoc] using ht

theorem EndsOff.of_append {s : Text} (h : EndsOff p (s ++ t)) : EndsOff p t := by
  cases t using List.reverseRecOn with
  | nil => simp [EndsOff]
  | append_singleton t c => simpa [EndsOff, ← List.append_assoc] using h

theorem endsOff_concat {c : Char} (h : p c = false) : EndsOff p (t ++ [c]) := by
  simpa [EndsOff] using h

theorem endsOff_iff_reverse : EndsOff p t ↔ StartsOff p t.reverse := by
  simp [EndsOff, StartsOff]

theorem startsOff_of_all (h : ∀ c ∈ t, p c = false) : StartsOff p t :=
  fun c hc => h c (List.mem_of_mem_head? hc)

theorem endsOff_of_all (h : ∀ c ∈ t, p c = false) : EndsOff p t :=
  fun c hc => h c (List.mem_of_mem_getLast? hc)

theorem dropWhile_eq_iff :
    t.dropWhile p = u ↔ ∃ l, t = l ++ u ∧ (∀ c ∈ l, p c = true) ∧ StartsOff p u := by
  constructor
  · rintro rfl
    refine ⟨t.takeWhile p, List.takeWhile_append_dropWhile.symm, ?_, ?_⟩
    · intro c hc
      exact List.mem_takeWhile_imp hc
    · intro c hc
      have h := List.head?_dropWhile_not p t
      rw [Option.mem_def.mp hc] at h
      simpa using h
  · rintro ⟨l, rfl, hl, hu⟩
    rw [List.dropWhile_append_of_pos hl]
    cases u with
    | nil => rfl
    | cons c u => exact List.dropWhile_cons_of_neg (by simpa using hu c rfl)

theorem dropEndWhile_concat (c : Char) :
    dropEndWhile p (t ++ [c]) = if p c then dropEndWhile p t else t ++ [c] := by
  induction t with
  | nil => simp [dropEndWhile]
  | cons a t ih =>
    rw [List.cons_append, dropEndWhile, ih, dropEndWhile]
    by_cases hc : p c
    · simp [hc]
    · cases t <;> simp [hc]

theorem dropEndWhile_eq_reverse : dropEndWhile p t = (t.reverse.dropWhile p).reverse := by
  induction t using List.reverseRecOn with
  | nil => rfl
  | append_singleton t c ih =>
    rw [dropEndWhile_concat, ih, List.reverse_concat, List.dropWhile_cons]
    split <;> simp

theorem dropEndWhile_eq_iff :
    dropEndWhile p t = u ↔ ∃ r, t = u ++ r ∧ (∀ c ∈ r, p c = true) ∧ EndsOff p u := by
  rw [dropEndWhile_eq_reverse, List.reverse_eq_iff, dropWhile_eq_iff]
  constructor
  · rintro ⟨l, ht, hl, hu⟩
    refine ⟨l.reverse, ?_, by simpa using hl, endsOff_iff_reverse.mpr hu⟩
    rw [← List.reverse_reverse t, ht]
    simp
  · rintro ⟨r, rfl, hr, hu⟩
    exact ⟨r.reverse, by simp, by simpa using hr, endsOff_iff_reverse.mp hu⟩

theorem first_off_unique {s v : Text} {c d : Char} (h : s ++ c :: u = t ++ d :: v)
    (hs : ∀ x ∈ s, p x = true) (ht : ∀ x ∈ t, p x = true) (hc : p c = false) (hd : p d = false) :
    s = t ∧ c = d ∧ u = v := by
  have hleft : (s ++ c :: u).dropWhile p = c :: u :=
    dropWhile_eq_iff.mpr ⟨s, rfl, hs, by simpa [StartsOff] using hc⟩
  have hright : (s ++ c :: u).dropWhile p = d :: v :=
    dropWhile_eq_iff.mpr ⟨t, h, ht, by simpa [StartsOff] using hd⟩
  obtain ⟨rfl, rfl⟩ := List.cons.inj (hleft.symm.trans hright)
  exact ⟨List.append_cancel_right h, rfl, rfl⟩

theorem last_off_unique {s v : Text} {c d : Char} (h : s ++ c :: u = t ++ d :: v)
    (hu : ∀ x ∈ u, p x = true) (hv : ∀ x ∈ v, p x = true) (hc : p c = false) (hd : p d = false) :
    s = t ∧ c = d ∧ u = v := by
  have hflip : u.reverse ++ c :: s.reverse = v.reverse ++ d :: t.reverse := by
    simpa using congrArg List.reverse h
  obtain ⟨hends, rfl, hstarts⟩ :=
    first_off_unique hflip (by simpa using hu) (by simpa using hv) hc hd
  exact ⟨List.reverse_inj.mp hstarts, rfl, List.reverse_inj.mp hends⟩

theorem dropWhile_split (p : Char → Bool) (t : Text) :
    ∃ l, t = l ++ t.dropWhile p ∧ (∀ c ∈ l, p c = true) ∧ StartsOff p (t.dropWhile p) :=
  dropWhile_eq_iff.mp rfl

theorem dropEndWhile_split (p : Char → Bool) (t : Text) :
    ∃ r, t = dropEndWhile p t ++ r ∧ (∀ c ∈ r, p c = true) ∧ EndsOff p (dropEndWhile p t) :=
  dropEndWhile_eq_iff.mp rfl

theorem dropEndWhile_append {s : Text} (hs : EndsOff p s) :
    dropEndWhile p (s ++ t) = s ++ dropEndWhile p t := by
  obtain ⟨r, ht, hr, hends⟩ := dropEndWhile_split p t
  refine dropEndWhile_eq_iff.mpr ⟨r, ?_, hr, endsOff_append hends fun _ => hs⟩
  rw [List.append_assoc, ← ht]

theorem trimStart_eq_iff :
    trimStart t = u ↔ ∃ l, t = l ++ u ∧ (∀ c ∈ l, isBlank c = true) ∧ StartsOff isBlank u :=
  dropWhile_eq_iff

theorem trimEnd_eq_iff :
    trimEnd t = u ↔ ∃ r, t = u ++ r ∧ (∀ c ∈ r, isBlank c = true) ∧ EndsOff isBlank u :=
  dropEndWhile_eq_iff

def TrimsTo (t u : Text) : Prop :=
  ∃ l r, t = l ++ u ++ r ∧ (∀ c ∈ l, isBlank c = true) ∧ (∀ c ∈ r, isBlank c = true) ∧
    StartsOff isBlank u ∧ EndsOff isBlank u

theorem trim_eq_nil (h : ∀ c ∈ t, isBlank c = true) : trim t = [] := by
  have hnil : trimStart t = [] := trimStart_eq_iff.mpr ⟨t, by simp, h, by simp [StartsOff]⟩
  rw [trim, hnil]
  rfl

theorem trim_eq_iff : trim t = u ↔ TrimsTo t u := by
  constructor
  · intro h
    obtain ⟨l, ht, hl, hs⟩ := dropWhile_split isBlank t
    obtain ⟨r, hr, hall, he⟩ := trimEnd_eq_iff.mp (show trimEnd (trimStart t) = u from h)
    rw [trimStart] at hr
    refine ⟨l, r, by rw [List.append_assoc, ← hr, ← ht], hl, hall, ?_, he⟩
    cases u with
    | nil => simp [StartsOff]
    | cons c u => simpa [StartsOff, hr] using hs
  · rintro ⟨l, r, rfl, hl, hr, hs, he⟩
    cases u with
    | nil =>
      apply trim_eq_nil
      intro c hc
      rcases List.mem_append.mp (by simpa using hc) with hc | hc
      · exact hl c hc
      · exact hr c hc
    | cons c u =>
      have hcut : trimStart (l ++ c :: u ++ r) = c :: u ++ r :=
        trimStart_eq_iff.mpr ⟨l, by simp, hl, by simpa [StartsOff] using hs⟩
      rw [trim, hcut]
      exact trimEnd_eq_iff.mpr ⟨r, rfl, hr, he⟩

theorem trim_eq_nil_iff : trim t = [] ↔ ∀ c ∈ t, isBlank c = true := by
  constructor
  · intro h
    obtain ⟨l, r, rfl, hl, hr, _, _⟩ := trim_eq_iff.mp h
    intro c hc
    rcases List.mem_append.mp (by simpa using hc) with hc | hc
    · exact hl c hc
    · exact hr c hc
  · exact trim_eq_nil

end PromptLine.Text
