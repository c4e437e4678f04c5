import Mathlib.Data.List.Forall2
import PromptLine.Proofs.Gemini.Exchange
import PromptLine.Proofs.Gemini.Wire

namespace PromptLine

namespace Shelf

variable {shelf : Shelf} {l : Listing}

theorem catalog_refresh (h : (shelf.refresh l).1 = true) :
    (shelf.refresh l).2.catalog = l.catalog := by
  simp only [refresh, land, install] at h ⊢
  split at h
  · next hadmits => rw [if_pos hadmits]
  · cases h

end Shelf

namespace Gemini

def pageAt (b : Backend) (i : Nat) : Except CallError Page := readReply Page.ofJson? (b.answer i)

def pageOf (b : Backend) (i : Nat) (r : Request) : Except CallError Page :=
  if b.takes r then pageAt b i else .error .network

def modelsAt (b : Backend) (i : Nat) : List Resource :=
  match pageAt b i with
  | .ok page => page.models
  | .error _ => []

/-- The token of the request of the given number where the first has `token`: each of the others
has that of the answer before it. -/
def carried (token : Option Text) (b : Backend) : Nat → Option Text
  | 0 => token
  | i + 1 =>
      match pageAt b i with
      | .ok page => page.nextToken
      | .error _ => none

variable {b after : Backend} {r : Request} {token : Option Text} {page : Page}

@[simp] theorem pageAt_asked (i : Nat) : pageAt (b.asked r) i = pageAt b (i + 1) := by
  rw [pageAt, Backend.answer_asked, pageAt]

@[simp] theorem pageOf_asked (i : Nat) (r' : Request) :
    pageOf (b.asked r) i r' = pageOf b (i + 1) r' := by
  rw [pageOf, Backend.takes_asked, pageAt_asked, pageOf]

theorem pageOf_eq_ok_iff {i : Nat} :
    pageOf b i r = .ok page ↔ b.takes r = true ∧ pageAt b i = .ok page := by
  rw [pageOf]
  split
  · next h => simp [h]
  · next h => simp [h]

theorem pageOf_of_not_taken {i : Nat} (h : b.takes r = false) : pageOf b i r = .error .network :=
  if_neg (Bool.eq_false_iff.mp h)

@[simp] theorem modelsAt_asked (i : Nat) : modelsAt (b.asked r) i = modelsAt b (i + 1) := by
  rw [modelsAt, pageAt_asked, modelsAt]

theorem carried_asked {t : Text} (hpage : pageOf b 0 r = .ok page) (ht : page.nextToken = some t)
    (i : Nat) : carried (some t) (b.asked r) i = carried token b (i + 1) := by
  obtain ⟨_, hpage⟩ := pageOf_eq_ok_iff.mp hpage
  cases i with
  | zero => simp [carried, hpage, ht]
  | succ i => simp [carried]

namespace Client

theorem nextToken?_eq_some {t : Text} (h : nextToken? token page = some t) :
    page.nextToken = some t := by
  rw [nextToken?] at h
  split at h
  · cases h
  · next t' ht =>
    split at h
    · cases h
    · rw [ht, h]

structure Fetched (ask : Option Text → Request) (limit : Nat) (token : Option Text) (b : Backend)
    (result : Except CallError (List Resource)) (after : Backend) (n : Nat) : Prop where
  pos : 0 < n
  le : n ≤ limit
  requests : after.requests =
    b.requests ++ (List.range n).flatMap fun i => b.sentAt i (ask (carried token b i))
  stops : ∀ i page, i < n → pageOf b i (ask (carried token b i)) = .ok page →
    (i + 1 = n ↔ nextToken? (carried token b i) page = none ∨ i + 1 = limit)
  fails : ∀ i e, i < n → pageOf b i (ask (carried token b i)) = .error e →
    i + 1 = n ∧ result = .error e
  models : (∀ i < n, ∃ page, pageOf b i (ask (carried token b i)) = .ok page) →
    result = .ok ((List.range n).flatMap (modelsAt b))

namespace Fetched

variable {ask : Option Text → Request} {limit : Nat}

theorem single (hafter : after.requests = b.requests ++ b.sentAt 0 (ask token))
    (hlast : ∀ page, pageOf b 0 (ask token) = .ok page →
      nextToken? token page = none ∨ limit = 0) :
    Fetched ask (limit + 1) token b ((pageOf b 0 (ask token)).map Page.models) after 1 where
  pos := Nat.one_pos
  le := Nat.le_add_left 1 limit
  requests := hafter.trans (congrArg (b.requests ++ ·) (List.append_nil _).symm)
  stops := by
    intro i page hi hpage
    obtain rfl : i = 0 := by omega
    have hlast' : nextToken? (carried token b 0) page = none ∨ 0 + 1 = limit + 1 :=
      (hlast page hpage).imp_right fun hl => by omega
    exact iff_of_true rfl hlast'
  fails := by
    intro i e hi he
    obtain rfl : i = 0 := by omega
    rw [carried] at he
    rw [he]
    exact ⟨rfl, rfl⟩
  models := by
    intro hall
    obtain ⟨page, hpage⟩ := hall 0 Nat.one_pos
    rw [carried] at hpage
    obtain ⟨_, hanswer⟩ := pageOf_eq_ok_iff.mp hpage
    simp [hpage, modelsAt, hanswer, Except.map]

theorem next {t : Text} {result : Except CallError (List Resource)} {n : Nat}
    (h : pageOf b 0 (ask token) = .ok page) (ht : nextToken? token page = some t)
    (hrest : Fetched ask limit (some t) (b.asked (ask token)) result after n) :
    Fetched ask (limit + 1) token b (result.map (page.models ++ ·)) after (n + 1) := by
  have hcarried (i : Nat) : carried (some t) (b.asked (ask token)) i = carried token b (i + 1) :=
    carried_asked h (nextToken?_eq_some ht) i
  have hlater (i : Nat) :
      pageOf (b.asked (ask token)) i (ask (carried (some t) (b.asked (ask token)) i)) =
        pageOf b (i + 1) (ask (carried token b (i + 1))) := by
    rw [pageOf_asked, hcarried]
  refine ⟨Nat.succ_pos n, Nat.succ_le_succ hrest.le, ?_, ?_, ?_, ?_⟩
  · rw [hrest.requests, Backend.requests_asked, List.append_assoc, List.range_succ_eq_map,
      List.flatMap_cons, List.flatMap_map]
    simp only [hcarried, Backend.sentAt_asked]
    rfl
  · intro i page' hi hpage
    cases i with
    | zero =>
      rw [carried, h] at hpage
      obtain rfl := Except.ok.inj hpage
      have hpos := hrest.pos
      have hle := hrest.le
      simp only [carried, ht, reduceCtorEq, false_or]
      omega
    | succ i =>
      have hstop := hrest.stops i page' (by omega) (by rw [hlater, hpage])
      rw [hcarried] at hstop
      rw [Nat.add_right_cancel_iff, Nat.add_right_cancel_iff]
      exact hstop
  · intro i e hi he
    cases i with
    | zero =>
      rw [carried, h] at he
      cases he
    | succ i =>
      obtain ⟨hn, hresult⟩ := hrest.fails i e (by omega) (by rw [hlater, he])
      exact ⟨by omega, by rw [hresult]; rfl⟩
  · intro hall
    have hmodels := hrest.models fun i hi => by
      rw [hlater]
      exact hall (i + 1) (by omega)
    have hshift : modelsAt (b.asked (ask token)) = modelsAt b ∘ Nat.succ := funext modelsAt_asked
    obtain ⟨_, hpage⟩ := pageOf_eq_ok_iff.mp h
    have hfirst : modelsAt b 0 = page.models := by rw [modelsAt, hpage]
    rw [hmodels, hshift, List.range_succ_eq_map, List.flatMap_cons, List.flatMap_map, hfirst]
    rfl

end Fetched

section

variable {c : Client} {key : Text} {target : Url.Target}

def pageRequest (c : Client) (key : Text) (target : Url.Target) (token : Option Text) : Request :=
  ⟨.get, c.address "models".toList, (target.withForm (c.pageQuery token)).render, key, c.userAgent,
    none⟩

theorem exchange_page (hkey : c.Sends key)
    (haddress : Url.Target.ofAddress? (c.address "models".toList) = some target)
    (token : Option Text) :
    exchange (c.request? key .get "models".toList (c.pageQuery token) none) =
      Backend.send (pageRequest c key target token) :=
  hkey.exchange_eq haddress .get _ none

theorem fetchPages_succ (hkey : c.Sends key)
    (haddress : Url.Target.ofAddress? (c.address "models".toList) = some target) (limit : Nat)
    (token : Option Text) (b : Backend) :
    let r := pageRequest c key target token
    c.fetchPages key (limit + 1) token b =
      match pageOf b 0 r with
      | .error e => (.error e, (Backend.send r b).2)
      | .ok page =>
          match nextToken? token page with
          | none => (.ok page.models, b.asked r)
          | some t =>
              let rest := c.fetchPages key limit (some t) (b.asked r)
              (rest.1.map (page.models ++ ·), rest.2) := by
  intro r
  simp only [fetchPages, bind, StateT.bind, exchange_page hkey haddress]
  cases htaken : b.takes r with
  | false =>
    rw [pageOf_of_not_taken htaken, Backend.send_of_not_taken htaken]
    rfl
  | true =>
    rw [Backend.send_eq htaken, pageOf, if_pos htaken, pageAt]
    dsimp only
    cases readReply Page.ofJson? (b.answer 0) with
    | error e => rfl
    | ok page =>
      dsimp only
      cases nextToken? token page with
      | none => rfl
      | some t =>
        simp only [StateT.bind]
        generalize c.fetchPages key limit (some t) (b.asked r) = rest
        obtain ⟨result, after⟩ := rest
        cases result with
        | error e => rfl
        | ok models => rfl

theorem Sends.fetchPages_fetched_one {limit : Nat} (hkey : c.Sends key)
    (haddress : Url.Target.ofAddress? (c.address "models".toList) = some target)
    (hlast : ∀ page, pageOf b 0 (pageRequest c key target token) = .ok page →
      nextToken? token page = none ∨ limit = 0) :
    Fetched (pageRequest c key target) (limit + 1) token b
      (c.fetchPages key (limit + 1) token b).1 (c.fetchPages key (limit + 1) token b).2 1 := by
  rw [fetchPages_succ hkey haddress]
  cases hpage : pageOf b 0 (pageRequest c key target token) with
  | error e =>
    have hone := Fetched.single (Backend.requests_send _ b) hlast
    rwa [hpage] at hone
  | ok page =>
    have hafter : (b.asked (pageRequest c key target token)).requests =
        b.requests ++ b.sentAt 0 (pageRequest c key target token) := rfl
    have hone := Fetched.single hafter hlast
    rw [hpage] at hone
    cases hnext : nextToken? token page with
    | none =>
      simp only [hnext]
      exact hone
    | some t =>
      obtain rfl : limit = 0 := (hlast page hpage).resolve_left (by simp [hnext])
      have hrest : c.fetchPages key 0 (some t) (b.asked (pageRequest c key target token)) =
          (.ok [], b.asked (pageRequest c key target token)) := rfl
      simp only [hnext, hrest, Except.map, List.append_nil]
      exact hone

theorem Sends.fetchPages_fetched (hkey : c.Sends key)
    (haddress : Url.Target.ofAddress? (c.address "models".toList) = some target) (limit : Nat)
    (token : Option Text) (b : Backend) :
    ∃ n, Fetched (pageRequest c key target) (limit + 1) token b
      (c.fetchPages key (limit + 1) token b).1 (c.fetchPages key (limit + 1) token b).2 n := by
  induction limit generalizing token b with
  | zero => exact ⟨1, hkey.fetchPages_fetched_one haddress fun _ _ => .inr rfl⟩
  | succ limit ih =>
    cases hpage : pageOf b 0 (pageRequest c key target token) with
    | error e =>
      refine ⟨1, hkey.fetchPages_fetched_one haddress fun page h => ?_⟩
      rw [hpage] at h
      cases h
    | ok page =>
      cases hnext : nextToken? token page with
      | none =>
        refine ⟨1, hkey.fetchPages_fetched_one haddress fun page' h => .inl ?_⟩
        rw [hpage] at h
        rw [← Except.ok.inj h, hnext]
      | some t =>
        obtain ⟨n, hrest⟩ := ih (some t) (b.asked (pageRequest c key target token))
        rw [fetchPages_succ hkey haddress, hpage]
        simp only [hnext]
        exact ⟨n + 1, hrest.next hpage hnext⟩

theorem fetchModels_of_key (hkey : c.key? = some key) :
    c.fetchModels b = ((c.fetchPages key maxPages none b).1.map (·.map Resource.entry),
      (c.fetchPages key maxPages none b).2) := by
  simp only [fetchModels, hkey, bind, StateT.bind]
  generalize c.fetchPages key maxPages none b = run
  obtain ⟨result, after⟩ := run
  cases result with
  | error e => rfl
  | ok models => rfl

theorem catalog_listing_of_ok {entries : List Entry} (h : (c.fetchModels b).1 = .ok entries) :
    (c.listing b).1.catalog = .ofEntries provider entries := by
  simp only [listing, bind, StateT.bind]
  generalize c.fetchModels b = run at h
  obtain ⟨result, after⟩ := run
  obtain rfl : result = .ok entries := h
  rfl

end

structure Names (model : Resource) (e : Entry) : Prop where
  name : model.name = "models/".toList ++ e.name ∨
    model.name = e.name ∧ ¬ "models/".toList <+: model.name
  displayName : e.displayName = model.displayName
  actions : e.actions = model.methods

theorem names_entry (model : Resource) : Names model model.entry := by
  refine ⟨?_, rfl, rfl⟩
  cases hstrip : Text.stripStart? Resource.collection model.name with
  | some rest =>
    refine .inl ?_
    have hname : model.entry.name = rest := by simp [Resource.entry, Text.dropStart, hstrip]
    rw [hname]
    exact Text.stripStart?_eq_some_iff.mp hstrip
  | none =>
    refine .inr ⟨by simp [Resource.entry, Text.dropStart, hstrip], ?_⟩
    rintro ⟨rest, hrest⟩
    have hsome := Text.stripStart?_eq_some_iff.mpr hrest.symm
    cases hsome.symm.trans hstrip

theorem Names.unique {model : Resource} {e e' : Entry} (h : Names model e) (h' : Names model e') :
    e = e' := by
  have hname : e.name = e'.name := by
    rcases h.name with hn | ⟨hn, hplain⟩
    · rcases h'.name with hn' | ⟨_, hplain⟩
      · exact List.append_cancel_left (hn.symm.trans hn')
      · exact absurd ⟨e.name, hn.symm⟩ hplain
    · rcases h'.name with hn' | ⟨hn', _⟩
      · exact absurd ⟨e'.name, hn'.symm⟩ hplain
      · exact hn.symm.trans hn'
  obtain ⟨name, displayName, actions⟩ := e
  obtain ⟨name', displayName', actions'⟩ := e'
  obtain rfl : displayName = displayName' := h.displayName.trans h'.displayName.symm
  obtain rfl : actions = actions' := h.actions.trans h'.actions.symm
  obtain rfl : name = name' := hname
  rfl

end Client

end Gemini

end PromptLine
