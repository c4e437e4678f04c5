import PromptLine.Proofs.Catalog.Construction
import PromptLine.Proofs.Gemini.Keys

namespace PromptLine

namespace Gemini

variable {m : Resource} {e : Entry}

namespace Resource

theorem collection_append_entry (h : collection <+: m.name) :
    collection ++ m.entry.name = m.name := by
  rcases (Client.names_entry m).name with hname | ⟨_, hplain⟩
  · exact hname.symm
  · exact absurd h hplain

theorem entry_of_not_collection (h : ¬ collection <+: m.name) : m.entry.name = m.name := by
  rcases (Client.names_entry m).name with hname | ⟨hname, _⟩
  · exact absurd ⟨_, hname.symm⟩ h
  · exact hname.symm

theorem exists_of_mem_ofEntries {provider : Text} {models : List Resource}
    (h : e ∈ (Catalog.ofEntries provider (models.map entry)).entries) :
    ∃ m, models.find? (·.entry.name = e.name) = some m ∧ m.entry = e := by
  have hget := Catalog.get?_eq_some_iff.mpr ⟨h, rfl⟩
  rw [Catalog.get?_ofEntries, List.find?_map, Option.map_eq_some_iff] at hget
  exact hget

end Resource

namespace Client

variable {c : Client} {key action : Text} {b : Backend} {target : Url.Target}

theorem exists_of_exchange {request : Option Request} {reply : Nat × Utf8.Bytes}
    (h : (exchange request b).1 = some reply) : ∃ r, request = some r := by
  cases request with
  | none => cases h
  | some r => exact ⟨r, rfl⟩

theorem fetchPages_of_unanswered {limit : Nat} {token : Option Text}
    (h : (exchange (c.request? key .get "models".toList (c.pageQuery token) none) b).1 = none) :
    (c.fetchPages key (limit + 1) token b).1 = .error .network := by
  simp only [fetchPages, bind, StateT.bind]
  generalize exchange _ b = run at h
  obtain ⟨reply, after⟩ := run
  obtain rfl : reply = none := h
  rfl

theorem reached_of_fetchModels {entries : List Entry} (h : (c.fetchModels b).1 = .ok entries) :
    ∃ key target, c.Sends key ∧
      Url.Target.ofAddress? (c.address "models".toList) = some target := by
  cases hkey : c.key? with
  | none =>
    rw [fetchModels_of_keyless hkey] at h
    cases h
  | some key =>
    cases hreply : (exchange (c.request? key .get "models".toList (c.pageQuery none) none) b).1 with
    | none =>
      have hfailed : (c.fetchPages key maxPages none b).1 = .error .network :=
        fetchPages_of_unanswered hreply
      rw [fetchModels_of_key hkey, hfailed] at h
      cases h
    | some reply =>
      obtain ⟨r, hr⟩ := exists_of_exchange hreply
      obtain ⟨hheader, target, haddress⟩ := exists_of_request?_eq_some hr
      exact ⟨key, target, ⟨hkey, hheader⟩, haddress⟩

theorem pages_of_fetchModels {entries : List Entry} (hkey : c.Sends key)
    (haddress : Url.Target.ofAddress? (c.address "models".toList) = some target)
    (h : (c.fetchModels b).1 = .ok entries) :
    let ask i := c.pageRequest key target (carried none b i)
    ∃ n, (c.fetchModels b).2.requests =
        b.requests ++ (List.range n).flatMap (fun i => b.sentAt i (ask i)) ∧
      (∀ i < n, ∃ page, pageOf b i (ask i) = .ok page) ∧
      entries = ((List.range n).flatMap (modelsAt b)).map Resource.entry := by
  intro ask
  obtain ⟨n, hfetched⟩ := hkey.fetchPages_fetched haddress 99 none b
  have hmodels := fetchModels_of_key (b := b) hkey.key?_eq
  have hpages : ∀ i < n, ∃ page, pageOf b i (ask i) = .ok page := by
    intro i hi
    cases hpage : pageOf b i (ask i) with
    | ok page => exact ⟨page, rfl⟩
    | error e =>
      have hfailed : (c.fetchPages key maxPages none b).1 = .error e :=
        (hfetched.fails i e hi hpage).2
      rw [hmodels, hfailed] at h
      cases h
  have hall : (c.fetchPages key maxPages none b).1 = .ok ((List.range n).flatMap (modelsAt b)) :=
    hfetched.models hpages
  refine ⟨n, ?_, hpages, ?_⟩
  · rw [hmodels]
    exact hfetched.requests
  · rw [hmodels, hall] at h
    exact (Except.ok.inj h).symm

structure CallsOn (c : Client) (key resource action : Text) (r : Request) : Prop where
  verb : r.verb = .post
  address : r.address = c.address (resource ++ ':' :: action)
  key : r.key = key
  target : ∃ t, Url.Target.ofAddress? (c.address (resource ++ ':' :: action)) = some t ∧
    r.target = t.render
  path : ∀ path, Url.PlainAddress c.baseUrl path → Url.WholePath (resource ++ ':' :: action) →
    r.target = Text.dropEndWhile (· == '/') path ++ '/' ::
      (Url.percent Url.pathSet resource ++ ':' :: action)

theorem callsOn_post {resource : Text} (body : Json)
    (haction : ∀ x ∈ action, isModelChar x = true)
    (haddress : Url.Target.ofAddress? (c.address (resource ++ ':' :: action)) = some target) :
    CallsOn c key resource action ⟨.post, c.address (resource ++ ':' :: action), target.render, key,
      c.userAgent, some body⟩ := by
  refine ⟨rfl, rfl, rfl, ⟨target, haddress, rfl⟩, fun path hbase hwhole => ?_⟩
  have hplain : Url.percent Url.pathSet action = action :=
    Url.percent_of_none fun x hx => pathSet_of_isModelChar (haction x hx)
  rw [address, hbase.dropEndSlashes.ofAddress?_whole hwhole] at haddress
  obtain rfl := Option.some.inj haddress
  rw [Url.percent_append, Url.percent_cons rfl, hplain]
  rfl

theorem exists_address_methodPath
    (h : Url.Target.ofAddress? (c.address "models".toList) = some target) (model action : Text) :
    ∃ target, Url.Target.ofAddress? (c.address (methodPath model action)) = some target := by
  have hbehind : c.address (methodPath model action) =
      c.address "models".toList ++ '/' :: (model ++ ':' :: action) := by
    have hcollection : Resource.collection = "models".toList ++ ['/'] := rfl
    rw [methodPath, hcollection, address, address]
    simp only [List.append_assoc, List.cons_append, List.nil_append]
  rw [hbehind]
  exact Url.Target.exists_ofAddress?_append h _

structure Reaches (c : Client) (key name resource : Text) : Prop where
  generates : ∀ query : Text, ∃ r, CallsOn c key resource "generateContent".toList r ∧
    ∀ b, (c.generateContent name query b).2 = (Backend.send r b).2
  counts : ∀ query : Text, ∃ r, CallsOn c key resource "countTokens".toList r ∧
    ∀ b, (c.countTokens name query b).2 = (Backend.send r b).2

theorem exists_post_callsOn {α : Type} (hkey : c.Sends key)
    (hlist : Url.Target.ofAddress? (c.address "models".toList) = some target)
    (haction : ∀ x ∈ action, isModelChar x = true) (name : Text) (body : Json)
    (read? : Json → Option α) : ∃ r,
      CallsOn c key (Resource.collection ++ name) action r ∧
        ∀ b, (c.post (methodPath name action) body read? b).2 = (Backend.send r b).2 := by
  obtain ⟨target', haddress⟩ := exists_address_methodPath hlist name action
  refine ⟨_, callsOn_post body haction haddress, fun b => ?_⟩
  rw [hkey.post_eq haddress body read?]
  rfl

theorem reaches_collection (hkey : c.Sends key)
    (hlist : Url.Target.ofAddress? (c.address "models".toList) = some target) (name : Text) :
    c.Reaches key name (Resource.collection ++ name) where
  generates query := by
    simp only [generateContent_snd]
    exact exists_post_callsOn hkey hlist (List.all_eq_true.mp (by decide)) name _ _
  counts query := exists_post_callsOn hkey hlist (List.all_eq_true.mp (by decide)) name _ _

theorem listed_model_is_called_by_its_resource {c : Client} {b : Backend} {entries : List Entry}
    (hlisted : (c.fetchModels b).1 = .ok entries) (shelf : Shelf)
    (hinstalled : (shelf.refresh (c.listing b).1).1 = true) :
    ∃ (key : Text) (ask : Nat → Request) (n : Nat), c.key? = some key ∧
      (c.fetchModels b).2.requests =
        b.requests ++ (List.range n).flatMap (fun i => b.sentAt i (ask i)) ∧
      (b.Direct → (c.fetchModels b).2.requests.length = b.requests.length + n) ∧
      (∀ i < n, ∃ page, pageOf b i (ask i) = .ok page) ∧
      ∀ e ∈ (shelf.refresh (c.listing b).1).2.catalog.entries, ∃ m,
        ((List.range n).flatMap (modelsAt b)).find? (·.entry.name = e.name) = some m ∧
        m.entry = e ∧
        (Resource.collection <+: m.name → c.Reaches key e.name m.name) ∧
        (¬ Resource.collection <+: m.name →
          c.Reaches key e.name (Resource.collection ++ m.name)) := by
  obtain ⟨key, target, hkey, haddress⟩ := reached_of_fetchModels hlisted
  obtain ⟨n, hrequests, hpages, hentries⟩ := pages_of_fetchModels hkey haddress hlisted
  refine ⟨key, _, n, hkey.key?_eq, hrequests, fun hdirect => ?_, hpages, fun e he => ?_⟩
  · have htaken : ∀ r ∈ (List.range n).map fun i => c.pageRequest key target (carried none b i),
        b.takes r = true := by
      intro r hr
      obtain ⟨i, hi, rfl⟩ := List.mem_map.mp hr
      obtain ⟨page, hpage⟩ := hpages i (List.mem_range.mp hi)
      exact (pageOf_eq_ok_iff.mp hpage).1
    rw [hrequests, hdirect.flatMap_sentAt, List.filter_eq_self.mpr htaken, List.length_append,
      List.length_map, List.length_range]
  · rw [Shelf.catalog_refresh hinstalled, catalog_listing_of_ok hlisted, hentries] at he
    obtain ⟨m, hfirst, rfl⟩ := Resource.exists_of_mem_ofEntries he
    have hreaches := reaches_collection hkey haddress m.entry.name
    refine ⟨m, hfirst, rfl, fun hprefix => ?_, fun hplain => ?_⟩
    · rwa [Resource.collection_append_entry hprefix] at hreaches
    · rwa [Resource.entry_of_not_collection hplain] at hreaches ⊢

def listingOf (name : Text) : Backend :=
  .scripted [] (.answer 200 (Utf8.encode ("\x7b\"models\":[\x7b\"name\":\"".toList ++ name ++
    "\"\x7d]\x7d".toList)) none)

theorem direct_listingOf (name : Text) : (listingOf name).Direct := by
  intro reply hreply
  rw [List.mem_singleton.mp hreply]
  rfl

theorem nested_resource_is_called :
    let b := listingOf "models/models/a b".toList
    (slashedClient.fetchModels b).1 = .ok [⟨"models/a b".toList, none, []⟩] ∧
    ∃ r, (slashedClient.generateContent "models/a b".toList [] brokenBackend).2.requests = [r] ∧
      r.target = "/v1/models/models/a%20b:generateContent".toList := by
  intro b
  obtain ⟨hlisted, hone⟩ : (slashedClient.fetchModels b).1 =
      .ok [⟨"models/a b".toList, none, []⟩] ∧
      (slashedClient.fetchModels b).2.requests.length = 1 := by decide +kernel
  have hinstalled : ((Shelf.ofProvider provider).refresh (slashedClient.listing b).1).1 = true :=
    rfl
  obtain ⟨key, _, n, _, _, hrequests, _, hentries⟩ :=
    listed_model_is_called_by_its_resource hlisted (.ofProvider provider) hinstalled
  obtain rfl : n = 1 := by
    have hcount := hrequests (direct_listingOf _)
    rw [hone] at hcount
    exact (Nat.zero_add n).symm.trans hcount.symm
  rw [Shelf.catalog_refresh hinstalled, catalog_listing_of_ok hlisted] at hentries
  obtain ⟨m, hfirst, _, hreaches, _⟩ := hentries ⟨"models/a b".toList, none, []⟩ (by decide)
  obtain rfl : ⟨"models/models/a b".toList, none, []⟩ = m :=
    Option.some.inj (Eq.trans (by decide +kernel) hfirst)
  obtain ⟨r, hcalls, hr⟩ := (hreaches ⟨_, rfl⟩).generates []
  have htarget : r.target = "/v1/models/models/a%20b:generateContent".toList := by
    rw [hcalls.path _ plainAddress_slashed (by decide)]
    decide
  have htaken : brokenBackend.takes r = true := by
    rw [Backend.takes, hcalls.address, htarget]
    decide +kernel
  refine ⟨hlisted, r, ?_, htarget⟩
  rw [hr, Backend.requests_send, direct_broken.sentAt_eq htaken]
  rfl

/-- A model outside of the collection is listed, but no call reaches it. -/
theorem tuned_model_is_called_elsewhere :
    let b := listingOf "tunedModels/x".toList
    (slashedClient.fetchModels b).1 = .ok [⟨"tunedModels/x".toList, none, []⟩] ∧
    modelsAt b 0 = [⟨"tunedModels/x".toList, none, []⟩] ∧
    ∃ r, (slashedClient.generateContent "tunedModels/x".toList [] brokenBackend).2.requests = [r] ∧
      r.target = "/v1/models/tunedModels/x:generateContent".toList ∧
      ¬ CallsOn slashedClient "k".toList "tunedModels/x".toList "generateContent".toList r := by
  have hkey : slashedClient.Sends "k".toList := ⟨rfl, rfl⟩
  have hlist : Url.Target.ofAddress? (slashedClient.address "models".toList) =
      some ⟨"/v1/models".toList, none⟩ := by decide
  obtain ⟨r, hcalls, hr⟩ := (reaches_collection hkey hlist "tunedModels/x".toList).generates []
  have htarget : r.target = "/v1/models/tunedModels/x:generateContent".toList := by
    rw [hcalls.path _ plainAddress_slashed (by decide)]
    decide
  have htaken : brokenBackend.takes r = true := by
    rw [Backend.takes, hcalls.address, htarget]
    decide +kernel
  refine ⟨by decide +kernel, by decide +kernel, r, ?_, htarget, fun hcalled => ?_⟩
  · rw [hr, Backend.requests_send, direct_broken.sentAt_eq htaken]
    rfl
  · rw [hcalled.path _ plainAddress_slashed (by decide)] at htarget
    revert htarget
    decide

end Client

end Gemini

end PromptLine
