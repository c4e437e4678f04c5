import Mathlib.Data.List.Nodup
import PromptLine.Catalog.Shelf

namespace PromptLine.Shelf

abbrev Offer := Ticket × Catalog

def Step.takes : Step → Bool
  | .begin => true
  | .refresh _ => true
  | .install _ _ => false
  | .land _ _ => false

def Step.taken (s : Shelf) (step : Step) : List Ticket :=
  if step.takes then [s.begin.1] else []

def Step.offers (s : Shelf) : Step → List Offer
  | .begin => []
  | .install t c => [(t, c)]
  | .land t ⟨provider, .ok entries⟩ => [(t, .ofEntries provider entries)]
  | .land t ⟨provider, .error _⟩ => [(t, .empty provider)]
  | .refresh ⟨provider, .ok entries⟩ => [(s.begin.1, .ofEntries provider entries)]
  | .refresh ⟨provider, .error _⟩ => [(s.begin.1, .empty provider)]

theorem Step.offers_land (s : Shelf) (t : Ticket) (l : Listing) :
    (Step.land t l).offers s = [(t, l.catalog)] := by
  obtain ⟨provider, models⟩ := l
  cases models <;> rfl

theorem Step.offers_refresh (s : Shelf) (l : Listing) :
    (Step.refresh l).offers s = [(s.begin.1, l.catalog)] := by
  obtain ⟨provider, models⟩ := l
  cases models <;> rfl

def taken (s : Shelf) : List Step → List Ticket
  | [] => []
  | step :: rest => step.taken s ++ taken (s.step step).2 rest

def offered (s : Shelf) : List Step → List Offer
  | [] => []
  | step :: rest => step.offers s ++ offered (s.step step).2 rest

def Owned (s : Shelf) (held : List Ticket) : List Step → Prop
  | [] => True
  | step :: rest =>
      (∀ o ∈ step.offers s, o.1 ∈ held ++ step.taken s) ∧
        Owned (s.step step).2 (held ++ step.taken s) rest

instance decidableOwned (s : Shelf) (held : List Ticket) :
    (steps : List Step) → Decidable (s.Owned held steps)
  | [] => isTrue trivial
  | step :: rest =>
      have := decidableOwned (s.step step).2 (held ++ step.taken s) rest
      inferInstanceAs (Decidable ((∀ o ∈ step.offers s, o.1 ∈ held ++ step.taken s) ∧
        Owned (s.step step).2 (held ++ step.taken s) rest))

def FirstUnderGreatest (offers : List Offer) (t : Ticket) (c : Catalog) : Prop :=
  ∃ earlier later, offers = earlier ++ (t, c) :: later ∧
    (∀ o ∈ earlier, o.1.number < t.number) ∧ ∀ o ∈ later, o.1.number ≤ t.number

def Shows (initial : Catalog) (offers : List Offer) (c : Catalog) : Prop :=
  (offers = [] ∧ c = initial) ∨ ∃ t, FirstUnderGreatest offers t c

theorem FirstUnderGreatest.mem {offers : List Offer} {t : Ticket} {c : Catalog}
    (h : FirstUnderGreatest offers t c) : (t, c) ∈ offers := by
  obtain ⟨earlier, later, rfl, _, _⟩ := h
  simp

theorem FirstUnderGreatest.le {offers : List Offer} {t : Ticket} {c : Catalog}
    (h : FirstUnderGreatest offers t c) : ∀ o ∈ offers, o.1.number ≤ t.number := by
  obtain ⟨earlier, later, rfl, hlt, hle⟩ := h
  intro o ho
  rcases List.mem_append.mp ho with ho | ho
  · exact UInt64.le_of_lt (hlt o ho)
  · rcases List.mem_cons.mp ho with rfl | ho
    · exact UInt64.le_refl _
    · exact hle o ho

theorem FirstUnderGreatest.append_le {offers : List Offer} {t u : Ticket} {c d : Catalog}
    (h : FirstUnderGreatest offers t c) (hu : u.number ≤ t.number) :
    FirstUnderGreatest (offers ++ [(u, d)]) t c := by
  obtain ⟨earlier, later, rfl, hlt, hle⟩ := h
  refine ⟨earlier, later ++ [(u, d)], by simp, hlt, ?_⟩
  intro o ho
  rcases List.mem_append.mp ho with ho | ho
  · exact hle o ho
  · rw [List.mem_singleton.mp ho]
    exact hu

theorem firstUnderGreatest_append_lt {offers : List Offer} {t : Ticket} {c : Catalog}
    (h : ∀ o ∈ offers, o.1.number < t.number) : FirstUnderGreatest (offers ++ [(t, c)]) t c :=
  ⟨offers, [], rfl, h, by simp⟩

theorem Shows.perm_unique {initial : Catalog} {offers others : List Offer} {c d : Catalog}
    (hp : others.Perm offers) (hn : (offers.map Prod.fst).Nodup)
    (hc : Shows initial offers c) (hd : Shows initial others d) : d = c := by
  rcases hc with ⟨rfl, rfl⟩ | ⟨t, hc⟩
  · rcases hd with ⟨_, rfl⟩ | ⟨u, hd⟩
    · rfl
    · exact absurd (hp.subset hd.mem) (by simp)
  · rcases hd with ⟨rfl, _⟩ | ⟨u, hd⟩
    · exact absurd (hp.symm.subset hc.mem) (by simp)
    · have hle : t.number ≤ u.number := hd.le _ (hp.symm.subset hc.mem)
      have hge : u.number ≤ t.number := hc.le _ (hp.subset hd.mem)
      have htu : u = t := congrArg Ticket.mk (UInt64.le_antisymm hge hle)
      have heq : (u, d) = (t, c) := List.inj_on_of_nodup_map hn (hp.subset hd.mem) hc.mem htu
      exact congrArg Prod.snd heq

structure Tracks (initial : Catalog) (held : List Ticket) (offers : List Offer) (s : Shelf) :
    Prop where
  next_eq : s.next.toNat = held.length + 1
  issued : ∀ t ∈ held, 0 < t.number ∧ t.number < s.next
  increasing : held.Pairwise (·.number < ·.number)
  standing : (offers = [] ∧ s.installed = 0 ∧ s.catalog = initial) ∨
    ∃ t, FirstUnderGreatest offers t s.catalog ∧ s.installed = t.number

theorem tracks_ofCatalog (initial : Catalog) : Tracks initial [] [] (ofCatalog initial) where
  next_eq := rfl
  issued := by simp
  increasing := .nil
  standing := .inl ⟨rfl, rfl, rfl⟩

namespace Tracks

variable {initial : Catalog} {held : List Ticket} {offers : List Offer} {s : Shelf}

theorem shows (h : Tracks initial held offers s) : Shows initial offers s.catalog := by
  rcases h.standing with ⟨ho, _, hc⟩ | ⟨t, ht, _⟩
  · exact .inl ⟨ho, hc⟩
  · exact .inr ⟨t, ht⟩

theorem begin (h : Tracks initial held offers s) (hfew : held.length + 1 < UInt64.size - 1) :
    Tracks initial (held ++ [s.begin.1]) offers s.begin.2 := by
  have hroom : held.length + 2 < UInt64.size := by omega
  have hnext : (s.next + 1).toNat = held.length + 2 := by
    rw [UInt64.toNat_add, h.next_eq, UInt64.toNat_one, Nat.mod_eq_of_lt hroom]
  have hlt : s.next < s.next + 1 := by
    rw [UInt64.lt_iff_toNat_lt, hnext, h.next_eq]
    omega
  refine ⟨?_, ?_, ?_, h.standing⟩
  · simpa [Shelf.begin] using hnext
  · intro t ht
    rcases List.mem_append.mp ht with ht | ht
    · exact ⟨(h.issued t ht).1, UInt64.lt_trans (h.issued t ht).2 hlt⟩
    · rw [List.mem_singleton.mp ht]
      refine ⟨?_, hlt⟩
      rw [Shelf.begin, UInt64.lt_iff_toNat_lt, h.next_eq]
      exact Nat.succ_pos _
  · rw [List.pairwise_append]
    refine ⟨h.increasing, by simp, ?_⟩
    intro t ht u hu
    rw [List.mem_singleton.mp hu]
    exact (h.issued t ht).2

theorem admits_iff (h : Tracks initial held offers s) {t : Ticket} (ht : t ∈ held) :
    s.installed < t.number ↔ ∀ o ∈ offers, o.1.number < t.number := by
  rcases h.standing with ⟨rfl, hi, _⟩ | ⟨u, hu, hi⟩
  · simpa [hi] using (h.issued t ht).1
  · rw [hi]
    constructor
    · intro hlt o ho
      exact UInt64.lt_of_le_of_lt (hu.le o ho) hlt
    · intro hall
      exact hall _ hu.mem

theorem install_fst (h : Tracks initial held offers s) {t : Ticket} (ht : t ∈ held) (c : Catalog) :
    (s.install t c).1 = decide (∀ o ∈ offers, o.1.number < t.number) := by
  have hiff := h.admits_iff ht
  by_cases hlt : s.installed < t.number
  · rw [decide_eq_true (hiff.mp hlt)]
    simp [Shelf.install, admits, hlt]
  · rw [decide_eq_false (fun hall => hlt (hiff.mpr hall))]
    simp [Shelf.install, admits, hlt]

theorem install (h : Tracks initial held offers s) {t : Ticket} (ht : t ∈ held) (c : Catalog) :
    Tracks initial held (offers ++ [(t, c)]) (s.install t c).2 := by
  by_cases hlt : s.installed < t.number
  · have heq : (s.install t c).2 = { s with installed := t.number, catalog := c } := by
      simp [Shelf.install, admits, hlt]
    rw [heq]
    have hfirst := firstUnderGreatest_append_lt (c := c) ((h.admits_iff ht).mp hlt)
    exact ⟨h.next_eq, h.issued, h.increasing, .inr ⟨t, hfirst, rfl⟩⟩
  · have heq : (s.install t c).2 = s := by
      simp [Shelf.install, admits, hlt]
    rw [heq]
    refine ⟨h.next_eq, h.issued, h.increasing, ?_⟩
    have hle : t.number ≤ s.installed := UInt64.not_lt.mp hlt
    rcases h.standing with ⟨_, hi, _⟩ | ⟨u, hu, hi⟩
    · exact absurd (hi ▸ (h.issued t ht).1) hlt
    · exact .inr ⟨u, hu.append_le (hi ▸ hle), hi⟩

theorem step (h : Tracks initial held offers s) (step : Step)
    (hfew : (held ++ step.taken s).length < UInt64.size - 1)
    (howned : ∀ o ∈ step.offers s, o.1 ∈ held ++ step.taken s) :
    Tracks initial (held ++ step.taken s) (offers ++ step.offers s) (s.step step).2 := by
  cases step with
  | begin =>
    have hb := h.begin (by simpa [Step.taken, Step.takes] using hfew)
    simpa [Step.taken, Step.takes, Step.offers, Shelf.step] using hb
  | install t c =>
    have hi := h.install (by simpa [Step.taken, Step.takes, Step.offers] using howned) c
    simpa [Step.taken, Step.takes, Step.offers, Shelf.step] using hi
  | land t l =>
    have hi := h.install (by simpa [Step.taken, Step.takes, Step.offers_land] using howned) l.catalog
    simpa [Step.taken, Step.takes, Step.offers_land, Shelf.step, Shelf.land] using hi
  | refresh l =>
    have hb := h.begin (by simpa [Step.taken, Step.takes] using hfew)
    have hi := hb.install (t := s.begin.1) (by simp) l.catalog
    simpa [Step.taken, Step.takes, Step.offers_refresh, Shelf.step, Shelf.refresh, Shelf.land] using hi

theorem step_fst (h : Tracks initial held offers s) (step : Step)
    (hfew : (held ++ step.taken s).length < UInt64.size - 1)
    (howned : ∀ o ∈ step.offers s, o.1 ∈ held ++ step.taken s) {t : Ticket} {c : Catalog}
    (ho : (t, c) ∈ step.offers s) :
    (s.step step).1 = .installed (decide (∀ o ∈ offers, o.1.number < t.number)) := by
  cases step with
  | begin => simp [Step.offers] at ho
  | install u d =>
    obtain ⟨rfl, rfl⟩ : t = u ∧ c = d := by simpa [Step.offers] using ho
    have hm : t ∈ held := by simpa [Step.taken, Step.takes, Step.offers] using howned
    rw [← h.install_fst hm c]
    rfl
  | land u l =>
    obtain ⟨rfl, rfl⟩ : t = u ∧ c = l.catalog := by simpa [Step.offers_land] using ho
    have hm : t ∈ held := by simpa [Step.taken, Step.takes, Step.offers_land] using howned
    rw [← h.install_fst hm l.catalog]
    rfl
  | refresh l =>
    obtain ⟨rfl, rfl⟩ : t = s.begin.1 ∧ c = l.catalog := by simpa [Step.offers_refresh] using ho
    have hb := h.begin (by simpa [Step.taken, Step.takes] using hfew)
    rw [← hb.install_fst (t := s.begin.1) (by simp) l.catalog]
    rfl

end Tracks

theorem taken_append (s : Shelf) (xs ys : List Step) :
    s.taken (xs ++ ys) = s.taken xs ++ (s.run xs).2.taken ys := by
  induction xs generalizing s with
  | nil => rfl
  | cons x xs ih => simp [taken, run, ih]

theorem run_append (s : Shelf) (xs ys : List Step) :
    s.run (xs ++ ys) =
      ((s.run xs).1 ++ ((s.run xs).2.run ys).1, ((s.run xs).2.run ys).2) := by
  induction xs generalizing s with
  | nil => rfl
  | cons x xs ih => simp [run, ih]

theorem owned_append (s : Shelf) (held : List Ticket) (xs ys : List Step) :
    s.Owned held (xs ++ ys) ↔
      s.Owned held xs ∧ (s.run xs).2.Owned (held ++ s.taken xs) ys := by
  induction xs generalizing s held with
  | nil => simp [Owned, taken, run]
  | cons x xs ih => simp [Owned, taken, run, ih, and_assoc]

theorem run_fst_length (s : Shelf) (xs : List Step) : (s.run xs).1.length = xs.length := by
  induction xs generalizing s with
  | nil => rfl
  | cons x xs ih => simp [run, ih]

theorem taken_length (s : Shelf) (xs : List Step) :
    (s.taken xs).length = xs.countP Step.takes := by
  induction xs generalizing s with
  | nil => rfl
  | cons x xs ih =>
    rw [taken, List.length_append, ih, List.countP_cons, Nat.add_comm]
    cases hx : x.takes <;> simp [Step.taken, hx]

theorem Tracks.run {initial : Catalog} {held : List Ticket} {offers : List Offer} {s : Shelf}
    (h : Tracks initial held offers s) {steps : List Step}
    (hfew : (held ++ s.taken steps).length < UInt64.size - 1) (howned : s.Owned held steps) :
    Tracks initial (held ++ s.taken steps) (offers ++ s.offered steps) (s.run steps).2 := by
  induction steps generalizing s held offers with
  | nil => simpa [taken, offered, Shelf.run] using h
  | cons step rest ih =>
    have hstep := h.step step (by simp [taken] at hfew ⊢; omega) howned.1
    have hrest := ih hstep (by simpa [taken] using hfew) howned.2
    simpa [taken, offered, Shelf.run] using hrest

theorem greatest_ticket_stands (initial : Catalog) (steps : List Step)
    (hfew : steps.countP Step.takes < UInt64.size - 1)
    (howned : (ofCatalog initial).Owned [] steps) :
    ((ofCatalog initial).taken steps).Pairwise (·.number < ·.number) ∧
    (∀ before step after, steps = before ++ step :: after →
      let now := ((ofCatalog initial).run before).2
      let reply := ((ofCatalog initial).run steps).1[before.length]?
      (step = .begin → ∃ t, step.taken now = [t] ∧ reply = some (.ticket t)) ∧
      ∀ t c, (t, c) ∈ step.offers now → reply = some (.installed
        (decide (∀ o ∈ (ofCatalog initial).offered before, o.1.number < t.number)))) ∧
    (∀ before after, steps = before ++ after →
      Shows initial ((ofCatalog initial).offered before)
        ((ofCatalog initial).run before).2.catalog) ∧
    ∀ others : List Step, others.countP Step.takes < UInt64.size - 1 →
      (ofCatalog initial).Owned [] others →
      ((ofCatalog initial).offered others).Perm ((ofCatalog initial).offered steps) →
      (((ofCatalog initial).offered steps).map Prod.fst).Nodup →
      ((ofCatalog initial).run others).2.catalog = ((ofCatalog initial).run steps).2.catalog := by
  have hall (xs ys : List Step) (hx : (xs ++ ys).countP Step.takes < UInt64.size - 1)
      (ho : (ofCatalog initial).Owned [] (xs ++ ys)) :
      Tracks initial ((ofCatalog initial).taken xs) ((ofCatalog initial).offered xs)
        ((ofCatalog initial).run xs).2 := by
    have hl := taken_length (ofCatalog initial) xs
    rw [List.countP_append] at hx
    exact (tracks_ofCatalog initial).run (by rw [List.nil_append, hl]; omega)
      ((owned_append _ _ _ _).mp ho).1
  have hwhole := hall steps [] (by simpa using hfew) (by simpa using howned)
  refine ⟨hwhole.increasing, ?_, ?_, ?_⟩
  · rintro before step after rfl now reply
    have hbefore := hall before (step :: after) hfew howned
    have hown := ((owned_append _ _ _ _).mp howned).2.1
    have hlen := run_fst_length (ofCatalog initial) before
    have hreply : reply = some (now.step step).1 := by
      simp [reply, now, run_append, run, hlen]
    refine ⟨?_, ?_⟩
    · rintro rfl
      exact ⟨now.begin.1, rfl, hreply⟩
    · intro t c ho
      rw [hreply, hbefore.step_fst step ?_ hown ho]
      have hl := taken_length (ofCatalog initial) (before ++ step :: after)
      rw [taken_append, taken] at hl
      simp only [List.length_append] at hl ⊢
      omega
  · rintro before after rfl
    exact (hall before after hfew howned).shows
  · intro others hfew' howned' hp hn
    have hothers := hall others [] (by simpa using hfew') (by simpa using howned')
    exact hwhole.shows.perm_unique hp hn hothers.shows

def overtaken : List Step :=
  [.begin, .begin, .land ⟨2⟩ ⟨['G'], .error (.fetch ['G'] [])⟩, .install ⟨1⟩ (.empty ['H'])]

theorem overtaken_offer_is_refused :
    overtaken.countP Step.takes < UInt64.size - 1 ∧ (ofCatalog (.empty ['I'])).Owned [] overtaken ∧
      ((ofCatalog (.empty ['I'])).run overtaken).1[3]? = some (.installed false) := by
  have hfew : overtaken.countP Step.takes < UInt64.size - 1 := by decide
  have howned : (ofCatalog (.empty ['I'])).Owned [] overtaken := by decide
  have h := (greatest_ticket_stands _ _ hfew howned).2.1 (overtaken.take 3) _ [] rfl
  exact ⟨hfew, howned, h.2 ⟨1⟩ (.empty ['H']) (by simp [Step.offers])⟩

end PromptLine.Shelf
