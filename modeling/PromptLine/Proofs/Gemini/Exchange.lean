import PromptLine.Gemini.Client
import PromptLine.Proofs.Json.Record
import PromptLine.Proofs.Url.Form

namespace PromptLine

namespace Script

variable {s : Script}

def Direct (s : Script) : Prop := ∀ reply ∈ s.after :: s.replies, reply.onward? = none

def moves (s : Script) : List Move := (s.call maxMoves).1

def answer (s : Script) : Option (Nat × Utf8.Bytes) := (s.call maxMoves).2.1

def past (s : Script) : Script := (s.call maxMoves).2.2

def later : Nat → Script → Script
  | 0, s => s
  | i + 1, s => s.past.later i

theorem call_of_stays (h : s.course = .stays) (limit : Nat) :
    s.call limit = ([], s.reply.received, s.rest) := by
  cases limit with
  | zero => simp [call, h]
  | succ limit => simp [call, h]

theorem length_call_le (limit : Nat) (s : Script) : (s.call limit).1.length ≤ limit := by
  induction limit generalizing s with
  | zero => exact Nat.le_refl 0
  | succ limit ih =>
    cases h : s.course with
    | stays =>
      rw [call_of_stays h]
      exact Nat.zero_le _
    | strays =>
      simp only [call, h]
      exact Nat.zero_le _
    | leads m =>
      simp only [call, h]
      exact Nat.succ_le_succ (ih s.rest)

theorem takes_call (limit : Nat) (s : Script) : (s.call limit).2.2.takes = s.takes := by
  induction limit generalizing s with
  | zero => rfl
  | succ limit ih =>
    cases h : s.course with
    | stays =>
      rw [call_of_stays h]
      rfl
    | strays =>
      simp only [call, h]
      rfl
    | leads m =>
      simp only [call, h]
      exact ih s.rest

namespace Direct

theorem course_eq (h : s.Direct) : s.course = .stays := by
  have hreply : s.reply ∈ s.after :: s.replies := by
    rw [reply]
    cases s.replies with
    | nil => exact List.mem_cons_self
    | cons reply replies => exact List.mem_cons_of_mem _ List.mem_cons_self
  rw [course, h _ hreply]

theorem rest (h : s.Direct) : s.rest.Direct := by
  intro reply hreply
  rcases List.mem_cons.mp hreply with rfl | hreply
  · exact h _ List.mem_cons_self
  · exact h _ (List.mem_cons_of_mem _ (List.mem_of_mem_tail hreply))

theorem call_eq (h : s.Direct) (limit : Nat) : s.call limit = ([], s.reply.received, s.rest) :=
  call_of_stays h.course_eq limit

theorem later (h : s.Direct) (i : Nat) : (s.later i).Direct := by
  induction i generalizing s with
  | zero => exact h
  | succ i ih =>
    refine ih ?_
    rw [past, h.call_eq]
    exact h.rest

end Direct

end Script

namespace Backend

variable {b : Backend} {r : Request}

def Direct (b : Backend) : Prop := b.script.Direct

def answer (b : Backend) (i : Nat) : Option (Nat × Utf8.Bytes) := (b.script.later i).answer

/-- The requests of the call of the given number from now on, where its own is the given one. -/
def sentAt (b : Backend) (i : Nat) (r : Request) : List Request :=
  if b.takes r then (b.script.later i).moves.scanl Request.moved r else []

def asked (b : Backend) (r : Request) : Backend := ⟨b.script.past, b.requests ++ b.sentAt 0 r⟩

@[simp] theorem requests_asked : (b.asked r).requests = b.requests ++ b.sentAt 0 r := rfl

@[simp] theorem answer_asked (i : Nat) : (b.asked r).answer i = b.answer (i + 1) := rfl

theorem takes_script_asked : (b.asked r).script.takes = b.script.takes :=
  Script.takes_call _ b.script

@[simp] theorem takes_asked (r' : Request) : (b.asked r).takes r' = b.takes r' := by
  rw [takes, takes_script_asked, takes]

@[simp] theorem sentAt_asked (i : Nat) (r' : Request) :
    (b.asked r).sentAt i r' = b.sentAt (i + 1) r' := by
  rw [sentAt, takes_asked, sentAt]
  rfl

theorem send_eq (h : b.takes r = true) : send r b = (b.answer 0, b.asked r) := by
  rw [asked, sentAt, if_pos h]
  exact if_pos h

theorem send_of_not_taken (h : b.takes r = false) : send r b = (none, b) :=
  if_neg (Bool.eq_false_iff.mp h)

@[simp] theorem sentAt_of_not_taken (h : b.takes r = false) (i : Nat) : b.sentAt i r = [] :=
  if_neg (Bool.eq_false_iff.mp h)

theorem requests_send (r : Request) (b : Backend) :
    (send r b).2.requests = b.requests ++ b.sentAt 0 r := by
  cases htaken : b.takes r with
  | true => rw [send_eq htaken, requests_asked]
  | false => rw [send_of_not_taken htaken, sentAt_of_not_taken htaken, List.append_nil]

theorem exists_sentAt_eq (h : b.takes r = true) (i : Nat) :
    ∃ more, b.sentAt i r = r :: more ∧ more.length ≤ 10 := by
  have hle := Script.length_call_le Script.maxMoves (b.script.later i)
  rw [sentAt, if_pos h]
  cases hmoves : (b.script.later i).moves with
  | nil => exact ⟨[], rfl, Nat.zero_le _⟩
  | cons m moves =>
    refine ⟨moves.scanl Request.moved (r.moved m), List.scanl_cons, ?_⟩
    rw [Script.moves] at hmoves
    rw [hmoves, List.length_cons] at hle
    rwa [List.length_scanl]

example :
    let b := scripted [.answer 307 [] (some "http://g/x".toList),
      .answer 302 [] (some "http://g".toList)] .broken
    (send ⟨.post, "http://h/y".toList, "/y".toList, ['k'], none, some .null⟩ b).2.requests.map
      (fun r => (r.verb, r.target)) =
        [(.post, "/y".toList), (.post, "/x".toList), (.get, "/".toList)] := by
  decide +kernel

theorem Direct.sentAt_eq (h : b.Direct) (htaken : b.takes r = true) (i : Nat) :
    b.sentAt i r = [r] := by
  rw [sentAt, if_pos htaken, Script.moves, (Script.Direct.later h i).call_eq]
  rfl

theorem Direct.flatMap_sentAt (h : b.Direct) (ask : Nat → Request) (calls : List Nat) :
    (calls.flatMap fun i => b.sentAt i (ask i)) = (calls.map ask).filter b.takes := by
  induction calls with
  | nil => rfl
  | cons i calls ih =>
    rw [List.flatMap_cons, List.map_cons, ih]
    cases htaken : b.takes (ask i) with
    | true =>
      rw [h.sentAt_eq htaken, List.filter_cons_of_pos htaken]
      rfl
    | false =>
      rw [sentAt_of_not_taken htaken, List.filter_cons_of_neg (Bool.eq_false_iff.mp htaken)]
      rfl

end Backend

namespace Request

def path (r : Request) : Text :=
  match Text.cut? '?' r.target with
  | some (path, _) => path
  | none => r.target

def pairs (r : Request) : List (Text × Text) :=
  match Text.cut? '?' r.target with
  | some (_, query) => Url.formPairs query
  | none => []

end Request

namespace Gemini

def Says (reply : Option (Nat × Utf8.Bytes)) (v : Json) : Prop :=
  ∃ status body, reply = some (status, body) ∧ 200 ≤ status ∧ status < 300 ∧
    Json.read? (Utf8.decodeLossy body) = some v

theorem readReply_ok_iff {α : Type} {read? : Json → Option α} {R : Json → α → Prop}
    (hread : ∀ v a, read? v = some a ↔ R v a) {a : α} {reply : Option (Nat × Utf8.Bytes)} :
    readReply read? reply = .ok a ↔ ∃ v, Says reply v ∧ R v a := by
  constructor
  · intro h
    cases reply with
    | none => cases h
    | some reply =>
      obtain ⟨status, body⟩ := reply
      by_cases hstatus : 200 ≤ status ∧ status < 300
      · simp only [readReply, if_pos hstatus] at h
        split at h
        · next a' hbody =>
          obtain ⟨v, hv, ha⟩ := Option.bind_eq_some_iff.mp hbody
          rw [Except.ok.inj h] at ha
          exact ⟨v, ⟨status, body, rfl, hstatus.1, hstatus.2, hv⟩, (hread v a).mp ha⟩
        · cases h
      · simp only [readReply, if_neg hstatus] at h
        split at h
        · cases h
        · cases h
  · rintro ⟨v, ⟨status, body, rfl, hlow, hhigh, hv⟩, ha⟩
    simp only [readReply, if_pos (And.intro hlow hhigh), hv, Option.bind_some, (hread v a).mpr ha]

namespace Client

variable {c : Client} {key path : Text} {target : Url.Target}

structure Holds (c : Client) (key : Text) : Prop where
  apiKey : c.apiKey = some key
  ne_nil : key ≠ []
  printable : ∀ x ∈ key, 0x20 ≤ x.toNat ∧ x.toNat ≤ 0x7e

theorem Holds.key?_eq (h : c.Holds key) : c.key? = some key := by
  simp [key?, h.apiKey, h.ne_nil]

theorem Holds.isHeaderText (h : c.Holds key) : isHeaderText key = true := by
  rw [Gemini.isHeaderText, List.all_eq_true]
  intro x hx
  obtain ⟨hlow, hhigh⟩ := h.printable x hx
  have hne : x.toNat ≠ 0x7f := by omega
  simp [hlow, hne]

structure Sends (c : Client) (key : Text) : Prop where
  key?_eq : c.key? = some key
  printable : isHeaderText key = true

theorem Holds.sends (h : c.Holds key) : c.Sends key := ⟨h.key?_eq, h.isHeaderText⟩

theorem exists_of_request?_eq_some {verb : Verb} {query : List (Text × Text)} {body : Option Json}
    {r : Request} (h : c.request? key verb path query body = some r) :
    isHeaderText key = true ∧ ∃ target, Url.Target.ofAddress? (c.address path) = some target := by
  rw [request?] at h
  split at h
  · cases h
  · next target haddress =>
    split at h
    · next hheader => exact ⟨hheader, target, haddress⟩
    · cases h

namespace Sends

variable {b : Backend}

theorem request?_eq (h : c.Sends key)
    (haddress : Url.Target.ofAddress? (c.address path) = some target) (verb : Verb)
    (query : List (Text × Text)) (body : Option Json) :
    c.request? key verb path query body =
      some ⟨verb, c.address path, (if query.isEmpty then target else target.withForm query).render,
        key, c.userAgent, body⟩ := by
  simp only [request?, haddress, h.printable, if_true]

theorem exchange_eq (h : c.Sends key)
    (haddress : Url.Target.ofAddress? (c.address path) = some target) (verb : Verb)
    (query : List (Text × Text)) (body : Option Json) :
    exchange (c.request? key verb path query body) =
      Backend.send ⟨verb, c.address path,
        (if query.isEmpty then target else target.withForm query).render, key, c.userAgent,
        body⟩ := by
  rw [h.request?_eq haddress]
  rfl

theorem post_eq {α : Type} (h : c.Sends key)
    (haddress : Url.Target.ofAddress? (c.address path) = some target) (body : Json)
    (read? : Json → Option α) (b : Backend) :
    c.post path body read? b =
      (Backend.send ⟨.post, c.address path, target.render, key, c.userAgent, some body⟩ b).map
        (readReply read?) id := by
  simp only [post, h.key?_eq, h.exchange_eq haddress]
  rfl

end Sends

end Client

end Gemini

end PromptLine
