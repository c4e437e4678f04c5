import PromptLine.Command.Path
import PromptLine.Proofs.Text.Ascii
import PromptLine.Proofs.Text.Slice
import PromptLine.Proofs.Text.Split

namespace PromptLine

open Text (occurs)

open Utf8 (size slice? slice?_eq_some_iff slice?_front slice?_back size_concat_dot)

namespace Text

variable {head rest : Text}

theorem exists_head (t : Text) : ∃ head rest, t = head ++ rest ∧ '(' ∉ head ∧
    (rest = [] ∨ ∃ args, rest = '(' :: args) := by
  cases hcut : cut? '(' t with
  | none => exact ⟨t, [], (List.append_nil t).symm, cut?_eq_none_iff.mp hcut, .inl rfl⟩
  | some cut =>
    obtain ⟨head, args⟩ := cut
    obtain ⟨rfl, hhead⟩ := cut?_eq_some_iff.mp hcut
    exact ⟨head, '(' :: args, rfl, hhead, .inr ⟨args, rfl⟩⟩

theorem head_append (hhead : '(' ∉ head) (hrest : rest = [] ∨ ∃ args, rest = '(' :: args) :
    Text.head (head ++ rest) = head := by
  have hkept : ∀ c ∈ head, (c != '(') = true := by
    intro c hc
    rw [bne_iff_ne]
    rintro rfl
    exact hhead hc
  rw [Text.head, List.takeWhile_append_of_pos hkept]
  rcases hrest with rfl | ⟨args, rfl⟩
  · exact List.append_nil head
  · exact List.append_nil head

theorem head_eq_self (hhead : '(' ∉ head) : Text.head head = head := by
  have h := head_append hhead (.inl rfl)
  rwa [List.append_nil] at h

end Text

namespace Path

structure Divides (p : Path) (t : Text) : Prop where
  eq : t = p.provider ++ '.' :: (p.model ++ '.' :: p.method)
  provider_no_dot : '.' ∉ p.provider
  method_no_dot : '.' ∉ p.method

variable {t : Text} {p q : Path}

theorem exists_divides_iff : (∃ p : Path, p.Divides t) ↔ 2 ≤ t.count '.' := by
  constructor
  · rintro ⟨p, ht, _, _⟩
    rw [ht, List.count_append, List.count_cons_self, List.count_append, List.count_cons_self]
    omega
  · intro h
    cases occurs '.' t with
    | never hdot =>
      rw [List.count_eq_zero.mpr hdot] at h
      omega
    | once ha hb =>
      rw [Text.count_once ha hb] at h
      omega
    | often ha hb => exact ⟨⟨_, _, _⟩, rfl, ha, hb⟩

namespace Divides

theorem two_le_count (h : p.Divides t) : 2 ≤ t.count '.' := exists_divides_iff.mp ⟨p, h⟩

theorem unique (hp : p.Divides t) (hq : q.Divides t) : p = q := by
  obtain ⟨hprovider, hrest⟩ := Text.first_cut_unique (hp.eq.symm.trans hq.eq) hp.provider_no_dot
    hq.provider_no_dot
  obtain ⟨hmodel, hmethod⟩ := Text.last_cut_unique hrest hp.method_no_dot hq.method_no_dot
  cases p
  cases q
  rw [Path.mk.injEq]
  exact ⟨hprovider, hmodel, hmethod⟩

theorem eq_last (h : p.Divides t) : t = p.provider ++ '.' :: p.model ++ '.' :: p.method := by
  rw [h.eq, List.append_assoc, List.cons_append]

theorem slices (h : p.Divides t) :
    slice? t 0 (size p.provider) = some p.provider ∧
      slice? t (size p.provider + 1) (size (p.provider ++ '.' :: p.model)) = some p.model ∧
      slice? t (size (p.provider ++ '.' :: p.model) + 1) (size t) = some p.method := by
  refine ⟨?_, ?_, ?_⟩
  · rw [h.eq]
    exact slice?_front _ _
  · refine slice?_eq_some_iff.mpr ⟨p.provider ++ ['.'], '.' :: p.method, ?_, size_concat_dot _, ?_⟩
    · simp [h.eq]
    · rw [List.append_assoc, List.singleton_append]
  · have hfront : t = p.provider ++ '.' :: p.model ++ ['.'] ++ p.method := by simp [h.eq]
    rw [hfront, ← size_concat_dot]
    exact slice?_back _ _

end Divides

theorem ofText?_eq_some_iff_divides : ofText? t = some p ↔ '(' ∉ t ∧ p.Divides t := by
  rw [ofText?_eq_some_iff]
  exact and_congr_right fun _ => ⟨fun ⟨ht, hp, hf⟩ => ⟨ht.trans (List.append_assoc _ _ _), hp, hf⟩,
    fun h => ⟨h.eq_last, h.provider_no_dot, h.method_no_dot⟩⟩

theorem ofText?_eq_none_iff : ofText? t = none ↔ '(' ∈ t ∨ t.count '.' < 2 := by
  simp only [Option.eq_none_iff_forall_ne_some, ne_eq, ofText?_eq_some_iff_divides]
  constructor
  · intro h
    by_cases hparen : '(' ∈ t
    · exact .inl hparen
    · refine .inr (Nat.not_le.mp fun hcount => ?_)
      obtain ⟨p, hp⟩ := exists_divides_iff.mpr hcount
      exact h p ⟨hparen, hp⟩
  · rintro (hparen | hcount) p ⟨hno, hp⟩
    · exact hno hparen
    · exact absurd hp.two_le_count (Nat.not_le.mpr hcount)

end Path

namespace Marks

variable {t head rest a b : Text} {p : Path} {n : Nat}

theorem openParen_scan_eq_some_iff :
    (scan t).openParen = some n ↔ FirstAt '('.toUInt8 (Utf8.encode t) n :=
  Utf8.firstAt_encode_iff (by decide)

theorem openParen_scan_isSome_iff : (scan t).openParen.isSome = true ↔ '(' ∈ t := by
  have hnone : Text.cut? '(' t = none ↔ '(' ∉ t := Text.cut?_eq_none_iff
  rw [scan, Option.isSome_map, Option.isSome_iff_ne_none, ne_eq, hnone, Classical.not_not]

theorem openParen_scan_paren (h : '(' ∉ head) (args : Text) :
    (scan (head ++ '(' :: args)).openParen = some (size head) := by
  rw [scan, Text.cut?_eq_some_iff.mpr ⟨rfl, h⟩, Option.map_some]

theorem dots_scan_append (hhead : '(' ∉ head) (hrest : rest = [] ∨ ∃ args, rest = '(' :: args) :
    (scan (head ++ rest)).firstDot = (scan head).firstDot ∧
      (scan (head ++ rest)).lastDot = (scan head).lastDot := by
  rw [scan, scan, Text.head_append hhead hrest, Text.head_eq_self hhead]
  exact ⟨rfl, rfl⟩

theorem firstDot_scan_eq_some_iff (h : '(' ∉ head) :
    (scan head).firstDot = some n ↔ FirstAt '.'.toUInt8 (Utf8.encode head) n := by
  rw [scan, Text.head_eq_self h]
  exact Utf8.firstAt_encode_iff (by decide)

theorem lastDot_scan_eq_some_iff (h : '(' ∉ head) :
    (scan head).lastDot = some n ↔ LastAt '.'.toUInt8 (Utf8.encode head) n := by
  rw [scan, Text.head_eq_self h]
  exact Utf8.lastAt_encode_iff (by decide)

theorem scan_of_no_dot (h : '(' ∉ head) (hdot : '.' ∉ head) : scan head = ⟨none, none, none⟩ := by
  rw [scan, Text.head_eq_self h, Text.cut?_eq_none_iff.mpr hdot, Text.cutLast?_eq_none_iff.mpr hdot,
    Text.cut?_eq_none_iff.mpr h]
  rfl

theorem scan_of_one_dot (h : '(' ∉ a ++ '.' :: b) (ha : '.' ∉ a) (hb : '.' ∉ b) :
    scan (a ++ '.' :: b) = ⟨some (size a), some (size a), none⟩ := by
  rw [scan, Text.head_eq_self h, Text.cut?_eq_some_iff.mpr ⟨rfl, ha⟩,
    Text.cutLast?_eq_some_iff.mpr ⟨rfl, hb⟩, Text.cut?_eq_none_iff.mpr h]
  rfl

theorem scan_of_divides (h : '(' ∉ t) (hp : p.Divides t) :
    scan t = ⟨some (size p.provider), some (size (p.provider ++ '.' :: p.model)), none⟩ := by
  have hfirst := Text.cut?_eq_some_iff.mpr ⟨hp.eq, hp.provider_no_dot⟩
  have hlast := Text.cutLast?_eq_some_iff.mpr ⟨hp.eq_last, hp.method_no_dot⟩
  rw [scan, Text.head_eq_self h, hfirst, hlast, Text.cut?_eq_none_iff.mpr h]
  rfl

theorem boundaries_scan (h : '(' ∉ head) : (scan head).boundaries = min 2 (head.count '.') := by
  -- a lone dot is the first and the last; of two or more those are bytes apart
  cases occurs '.' head with
  | never hdot =>
    rw [scan_of_no_dot h hdot, List.count_eq_zero.mpr hdot]
    rfl
  | once ha hb =>
    rw [scan_of_one_dot h ha hb, Text.count_once ha hb, boundaries]
    exact if_pos rfl
  | @often a m b ha hb =>
    have hdivides : Path.Divides ⟨a, m, b⟩ (a ++ '.' :: (m ++ '.' :: b)) := ⟨rfl, ha, hb⟩
    have hapart : size a ≠ size (a ++ '.' :: m) := Nat.ne_of_lt (Utf8.size_lt_append_cons a '.' m)
    rw [scan_of_divides h hdivides, Nat.min_eq_left hdivides.two_le_count, boundaries]
    exact if_neg hapart

end Marks

namespace Path

variable {t : Text}

def ofBytes? (t : Text) : Option (Option Path) :=
  let marks := Marks.scan t
  if marks.openParen.isSome ∨ marks.boundaries < 2 then some none
  else
    match marks.firstDot, marks.lastDot with
    | some first, some last => do
        let provider ← slice? t 0 first
        let model ← slice? t (first + 1) last
        let method ← slice? t (last + 1) (size t)
        return some ⟨provider, model, method⟩
    | _, _ => some none

theorem stops_iff : ((Marks.scan t).openParen.isSome = true ∨ (Marks.scan t).boundaries < 2) ↔
    ofText? t = none := by
  rw [ofText?_eq_none_iff, Marks.openParen_scan_isSome_iff]
  by_cases hparen : '(' ∈ t
  · exact iff_of_true (.inl hparen) (.inl hparen)
  · rw [Marks.boundaries_scan hparen]
    exact or_congr_right (by omega)

theorem ofBytes?_eq (t : Text) : ofBytes? t = some (ofText? t) := by
  cases hpath : ofText? t with
  | none => exact if_pos (stops_iff.mpr hpath)
  | some p =>
    obtain ⟨hparen, hp⟩ := ofText?_eq_some_iff_divides.mp hpath
    have hgoes : ¬ ((Marks.scan t).openParen.isSome = true ∨ (Marks.scan t).boundaries < 2) := by
      rw [stops_iff, hpath]
      exact nofun
    obtain ⟨hprovider, hmodel, hmethod⟩ := hp.slices
    rw [ofBytes?, if_neg hgoes, Marks.scan_of_divides hparen hp]
    simp only [hprovider, hmodel, hmethod]
    rfl

theorem head_is_cut_at_its_outer_dots (t : Text) :
    (∀ p : Path, ofText? t = some p ↔ '(' ∉ t ∧ p.Divides t) ∧
    (∀ p q : Path, p.Divides t → q.Divides t → p = q) ∧
    (ofText? t = none ↔ '(' ∈ t ∨ t.count '.' < 2) ∧
    ofBytes? t = some (ofText? t) ∧
    ∃ head rest, t = head ++ rest ∧ '(' ∉ head ∧ (rest = [] ∨ ∃ args, rest = '(' :: args) ∧
      let m := Marks.scan t
      (∀ n, m.openParen = some n ↔ FirstAt '('.toUInt8 (Utf8.encode t) n) ∧
      (∀ n, m.firstDot = some n ↔ FirstAt '.'.toUInt8 (Utf8.encode head) n) ∧
      (∀ n, m.lastDot = some n ↔ LastAt '.'.toUInt8 (Utf8.encode head) n) ∧
      m.boundaries = min 2 (head.count '.') ∧
      ∀ args, Marks.scan (head ++ '(' :: args) =
        ⟨m.firstDot, m.lastDot, some (Utf8.encode head).length⟩ := by
  refine ⟨fun _ => ofText?_eq_some_iff_divides, fun _ _ => Divides.unique, ofText?_eq_none_iff,
    ofBytes?_eq t, ?_⟩
  obtain ⟨head, rest, rfl, hhead, hrest⟩ := Text.exists_head t
  obtain ⟨hfirst, hlast⟩ := Marks.dots_scan_append hhead hrest
  refine ⟨head, rest, rfl, hhead, hrest, fun _ => Marks.openParen_scan_eq_some_iff, fun n => ?_,
    fun n => ?_, ?_, fun args => ?_⟩
  · rw [hfirst]
    exact Marks.firstDot_scan_eq_some_iff hhead
  · rw [hlast]
    exact Marks.lastDot_scan_eq_some_iff hhead
  · rw [Marks.boundaries, hfirst, hlast]
    exact Marks.boundaries_scan hhead
  · obtain ⟨hfirst', hlast'⟩ := Marks.dots_scan_append hhead (.inr ⟨args, rfl⟩)
    rw [hfirst, hlast, ← hfirst', ← hlast', Utf8.length_encode, ← Marks.openParen_scan_paren hhead args]

theorem wide_head_is_cut :
    let p : Path := ⟨"é".toList, "1.5".toList, "f".toList⟩
    p.Divides "é.1.5.f".toList ∧ (∀ q : Path, q.Divides "é.1.5.f".toList → p = q) ∧
      ofText? "é.1.5.f".toList = some p ∧
      (Marks.scan "é.1.5.f".toList).firstDot = some 2 ∧
      (Marks.scan "é.1.5.f".toList).lastDot = some 6 := by
  intro p
  have hdivides : p.Divides "é.1.5.f".toList := ⟨by decide, by decide, by decide⟩
  obtain ⟨hread, hunique, _⟩ := head_is_cut_at_its_outer_dots "é.1.5.f".toList
  exact ⟨hdivides, fun q => hunique p q hdivides, (hread p).mpr ⟨by decide, hdivides⟩, by decide,
    by decide⟩

end Path

end PromptLine
