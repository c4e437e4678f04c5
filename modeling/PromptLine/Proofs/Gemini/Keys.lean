import PromptLine.Proofs.Gemini.Calls
import PromptLine.Proofs.Gemini.Listing

namespace PromptLine

namespace Backend

variable {α β : Type} {key : Option Text} {m : StateM Backend α} {b : Backend}

def Keyed (key : Option Text) (m : StateM Backend α) : Prop :=
  ∀ b, ∃ calls : List Request, (m b).2 = calls.foldl asked b ∧ ∀ r ∈ calls, some r.key = key

theorem key_of_mem_scanl {moves : List Move} {r r' : Request}
    (h : r' ∈ moves.scanl Request.moved r) : r'.key = r.key := by
  induction moves generalizing r with
  | nil =>
    rw [List.scanl_nil, List.mem_singleton] at h
    rw [h]
  | cons m moves ih =>
    rw [List.scanl_cons, List.mem_cons] at h
    rcases h with rfl | h
    · rfl
    · rw [ih h, Request.moved]
      split
      · rfl
      · rfl

theorem key_of_mem_sentAt {i : Nat} {r r' : Request} (h : r' ∈ b.sentAt i r) : r'.key = r.key := by
  rw [sentAt] at h
  split at h
  · exact key_of_mem_scanl h
  · cases h

theorem requests_foldl_asked (calls : List Request) (b : Backend) : ∃ sent,
    (calls.foldl asked b).requests = b.requests ++ sent ∧
      ∀ r ∈ sent, ∃ call ∈ calls, r.key = call.key := by
  induction calls generalizing b with
  | nil => exact ⟨[], by simp, List.forall_mem_nil _⟩
  | cons call calls ih =>
    obtain ⟨sent, hsent, hkeys⟩ := ih (b.asked call)
    refine ⟨b.sentAt 0 call ++ sent, ?_, fun r hr => ?_⟩
    · rw [List.foldl_cons, hsent, requests_asked, List.append_assoc]
    · rcases List.mem_append.mp hr with hr | hr
      · exact ⟨call, List.mem_cons_self, key_of_mem_sentAt hr⟩
      · obtain ⟨call', hcall', hkey⟩ := hkeys r hr
        exact ⟨call', List.mem_cons_of_mem _ hcall', hkey⟩

theorem takes_foldl_asked (calls : List Request) (b : Backend) :
    (calls.foldl asked b).takes = b.takes := by
  induction calls generalizing b with
  | nil => rfl
  | cons call calls ih =>
    rw [List.foldl_cons, ih]
    exact funext takes_asked

namespace Keyed

theorem pure (a : α) : Keyed key (Pure.pure a : StateM Backend α) := by
  intro b
  exact ⟨[], rfl, List.forall_mem_nil _⟩

theorem bind {f : α → StateM Backend β} (hm : Keyed key m) (hf : ∀ a, Keyed key (f a)) :
    Keyed key (m >>= f) := by
  intro b
  obtain ⟨sent, hafter, hsent⟩ := hm b
  obtain ⟨more, hafter', hmore⟩ := hf (m b).1 (m b).2
  refine ⟨sent ++ more, ?_, ?_⟩
  · rw [List.foldl_append, ← hafter, ← hafter']
    rfl
  · intro r hr
    rcases List.mem_append.mp hr with hr | hr
    · exact hsent r hr
    · exact hmore r hr

theorem map {f : α → β} (hm : Keyed key m) : Keyed key (f <$> m) := hm

theorem send {r : Request} (h : some r.key = key) : Keyed key (Backend.send r) := by
  intro b
  cases htaken : b.takes r with
  | true =>
    refine ⟨[r], ?_, List.forall_mem_singleton.mpr h⟩
    rw [send_eq htaken]
    rfl
  | false =>
    refine ⟨[], ?_, List.forall_mem_nil _⟩
    rw [send_of_not_taken htaken]
    rfl

theorem requests (h : Keyed key m) (b : Backend) :
    ∃ sent, (m b).2.requests = b.requests ++ sent ∧ ∀ r ∈ sent, some r.key = key := by
  obtain ⟨calls, hafter, hcalls⟩ := h b
  obtain ⟨sent, hsent, hkeys⟩ := requests_foldl_asked calls b
  refine ⟨sent, by rw [hafter, hsent], fun r hr => ?_⟩
  obtain ⟨call, hcall, hkey⟩ := hkeys r hr
  rw [hkey]
  exact hcalls call hcall

theorem takes (h : Keyed key m) (b : Backend) : (m b).2.takes = b.takes := by
  obtain ⟨calls, hafter, _⟩ := h b
  rw [hafter, takes_foldl_asked]

theorem eq_of_none (h : Keyed none m) (b : Backend) : (m b).2 = b := by
  obtain ⟨sent, hafter, hsent⟩ := h b
  cases sent with
  | nil => exact hafter
  | cons r sent => cases hsent r List.mem_cons_self

end Keyed

end Backend

open Backend (Keyed)

namespace Gemini.Client

variable {c : Client} {key : Text}

theorem keyed_exchange (h : c.key? = some key) (verb : Verb) (path : Text)
    (query : List (Text × Text)) (body : Option Json) :
    Keyed c.key? (exchange (c.request? key verb path query body)) := by
  rw [request?]
  cases Url.Target.ofAddress? (c.address path) with
  | none => exact .pure none
  | some target =>
    by_cases hheader : isHeaderText key = true
    · simp only [hheader, if_true]
      exact .send h.symm
    · simp only [hheader, Bool.false_eq_true, if_false]
      exact .pure none

def pagesBehind (c : Client) (key : Text) (pages : Nat) (token : Option Text)
    (reply : Option (Nat × Utf8.Bytes)) : StateM Backend (Except CallError (List Resource)) :=
  match readReply Page.ofJson? reply with
  | .error e => pure (.error e)
  | .ok page =>
      match nextToken? token page with
      | none => pure (.ok page.models)
      | some t => do
          match ← c.fetchPages key pages (some t) with
          | .error e => pure (.error e)
          | .ok models => pure (.ok (page.models ++ models))

theorem fetchPages_eq_bind (pages : Nat) (token : Option Text) :
    c.fetchPages key (pages + 1) token =
      exchange (c.request? key .get "models".toList (c.pageQuery token) none) >>=
        c.pagesBehind key pages token := rfl

theorem keyed_pagesBehind {pages : Nat} (h : ∀ token, Keyed c.key? (c.fetchPages key pages token))
    (token : Option Text) (reply : Option (Nat × Utf8.Bytes)) :
    Keyed c.key? (c.pagesBehind key pages token reply) := by
  rw [pagesBehind]
  cases readReply Page.ofJson? reply with
  | error e => exact .pure _
  | ok page =>
    dsimp only
    cases nextToken? token page with
    | none => exact .pure _
    | some t =>
      refine (h (some t)).bind fun rest => ?_
      cases rest with
      | error e => exact .pure _
      | ok models => exact .pure _

theorem keyed_fetchPages (h : c.key? = some key) (pages : Nat) (token : Option Text) :
    Keyed c.key? (c.fetchPages key pages token) := by
  induction pages generalizing token with
  | zero => exact .pure _
  | succ pages ih =>
    rw [fetchPages_eq_bind]
    exact (keyed_exchange h _ _ _ _).bind fun reply => keyed_pagesBehind ih token reply

theorem keyed_fetchModels (c : Client) : Keyed c.key? c.fetchModels := by
  rw [fetchModels]
  split
  · exact .pure _
  · next key hkey =>
    refine (keyed_fetchPages hkey maxPages none).bind fun result => ?_
    cases result with
    | error e => exact .pure _
    | ok models => exact .pure _

theorem keyed_listing (c : Client) : Keyed c.key? c.listing := by
  refine c.keyed_fetchModels.bind fun result => ?_
  cases result with
  | error e => exact .pure _
  | ok entries => exact .pure _

theorem keyed_post {α : Type} (c : Client) (path : Text) (body : Json) (read? : Json → Option α) :
    Keyed c.key? (c.post path body read?) := by
  rw [post]
  split
  · exact .pure _
  · next key hkey => exact (keyed_exchange hkey _ _ _ _).bind fun reply => .pure _

theorem keyed_generateContent (c : Client) (model query : Text) :
    Keyed c.key? (c.generateContent model query) := by
  refine (c.keyed_post _ _ _).bind fun result => ?_
  cases result with
  | error e => exact .pure _
  | ok g =>
    dsimp only
    cases g.text with
    | error reason => exact .pure _
    | ok text => exact .pure _

theorem keyed_countTokens (c : Client) (model query : Text) :
    Keyed c.key? (c.countTokens model query) :=
  c.keyed_post _ _ _

theorem keyed_generating (c : Client) (cmd : Command) : Keyed c.key? (c.generating cmd) := by
  refine (c.keyed_generateContent _ _).bind fun result => ?_
  cases result with
  | error e => exact .pure _
  | ok text => exact .pure _

theorem keyed_counting (c : Client) (cmd : Command) : Keyed c.key? (c.counting cmd) := by
  refine (c.keyed_countTokens _ _).bind fun result => ?_
  cases result with
  | error e => exact .pure _
  | ok n => exact .pure _

theorem keyed_execute (c : Client) (cmd : Command) : Keyed c.key? (c.registry.execute cmd) := by
  by_cases hserved : Served cmd
  · by_cases hcount : cmd.method = "countTokens".toList
    · simp only [Registry.execute, lookup?_counting hserved hcount]
      exact c.keyed_counting cmd
    · simp only [Registry.execute, lookup?_generating hserved hcount]
      exact c.keyed_generating cmd
  · intro b
    exact ⟨[], execute_of_not_served hserved b, List.forall_mem_nil _⟩

theorem keyed_run (c : Client) (s : Session) : Keyed c.key? (s.run c.registry.execute) := by
  cases hparse : Command.parse s.text with
  | error e => exact fun b => ⟨[], Session.run_of_error hparse b, List.forall_mem_nil _⟩
  | ok cmd =>
    rw [Session.run_of_parse hparse]
    exact (c.keyed_execute cmd).map

theorem fetchModels_asks {b : Backend} {target : Url.Target} (hkey : c.Holds key)
    (haddress : Url.Target.ofAddress? (c.address "models".toList) = some target)
    (htaken : b.takes (c.pageRequest key target none) = true) :
    ∃ r more, (c.fetchModels b).2.requests = b.requests ++ r :: more ∧ r.key = key := by
  have hsend : Backend.send (pageRequest c key target none) b =
      (b.answer 0, b.asked (pageRequest c key target none)) := Backend.send_eq htaken
  have hbehind := keyed_pagesBehind (keyed_fetchPages hkey.key?_eq 99) none (b.answer 0)
  obtain ⟨sent, hsent, _⟩ := hbehind.requests (b.asked (pageRequest c key target none))
  obtain ⟨more, hmore, _⟩ := Backend.exists_sentAt_eq htaken 0
  refine ⟨pageRequest c key target none, more ++ sent, ?_, rfl⟩
  rw [fetchModels_of_key hkey.key?_eq]
  simp only [maxPages, fetchPages_eq_bind, exchange_page hkey.sends haddress, bind, StateT.bind,
    hsend]
  rw [hsent, Backend.requests_asked, hmore, List.append_assoc]
  rfl

section

variable (h : c.key? = none)
include h

theorem fetchModels_of_keyless : c.fetchModels = pure (.error .missingApiKey) := by
  simp only [fetchModels, h]

theorem post_of_keyless {α : Type} (path : Text) (body : Json) (read? : Json → Option α) :
    c.post path body read? = pure (.error .missingApiKey) := by
  simp only [post, h]

theorem generateContent_of_keyless (model query : Text) :
    c.generateContent model query = pure (.error .missingApiKey) := by
  simp only [generateContent, post_of_keyless h]
  rfl

theorem countTokens_of_keyless (model query : Text) :
    c.countTokens model query = pure (.error .missingApiKey) :=
  post_of_keyless h _ _ _

theorem execute_of_keyless {cmd : Command} (hserved : Served cmd) :
    c.registry.execute cmd = pure (.error (.backend CallError.missingApiKey.message)) := by
  by_cases hcount : cmd.method = "countTokens".toList
  · simp only [Registry.execute, lookup?_counting hserved hcount, counting,
      countTokens_of_keyless h]
    rfl
  · simp only [Registry.execute, lookup?_generating hserved hcount, generating,
      generateContent_of_keyless h]
    rfl

theorem run_of_keyless {s : Session} {cmd : Command} (hparse : Command.parse s.text = .ok cmd)
    (hserved : Served cmd) :
    s.run c.registry.execute = pure (.failed (.backend CallError.missingApiKey.message)) := by
  rw [Session.run_of_parse hparse, execute_of_keyless h hserved]
  rfl

end

def unlisted : Listing := ⟨provider, .error (.fetch provider CallError.missingApiKey.message)⟩

theorem listing_of_keyless (h : c.key? = none) : c.listing = pure unlisted := by
  simp only [listing, fetchModels_of_keyless h]
  rfl

end Gemini.Client

end PromptLine
