import PromptLine.Proofs.Gemini.Keys
import PromptLine.Proofs.Shell.Program

namespace PromptLine.Shell

open Backend (Keyed)
open Gemini (CallError Client Served)
open Gemini.Client (unlisted)

/-- A shelf with the refreshes of it that run in the background: the ticket of each, and what it has
been answered as soon as it has been. -/
structure Board where
  shelf : Shelf
  spawned : List (Ticket × Option Listing)

inductive Operation where
  | fetchModels
  | listModels
  | refresh
  | spawn
  | hear (index : Nat)
  | land (index : Nat)
  | generate (model query : Text)
  | count (model query : Text)
  | execute (cmd : Command)
  | run (s : Session)
  | program (h : Host) (args : List Text)

inductive Result where
  | models (r : Except CallError (List Entry))
  | listing (l : Listing)
  | installed (accepted : Bool)
  | ticket (t : Ticket)
  | idle
  | text (r : Except CallError Text)
  | count (r : Except CallError Nat)
  | answer (a : Answer)
  | outcome (o : Outcome)
  | ending (e : Option Ending)

namespace Board

def start (initial : Catalog) : Board := ⟨.ofCatalog initial, []⟩

def step (w : Board) (c : Client) : Operation → StateM Backend (Result × Board)
  | .fetchModels => do return (.models (← c.fetchModels), w)
  | .listModels => do return (.listing (← c.listing), w)
  | .refresh => do
      let (accepted, shelf) := w.shelf.refresh (← c.listing)
      return (.installed accepted, { w with shelf := shelf })
  | .spawn =>
      let (t, shelf) := w.shelf.begin
      return (.ticket t, ⟨shelf, w.spawned ++ [(t, none)]⟩)
  | .hear i =>
      match w.spawned[i]? with
      | some (t, none) => do
          let l ← c.listing
          return (.listing l, { w with spawned := w.spawned.set i (t, some l) })
      | _ => return (.idle, w)
  | .land i =>
      match w.spawned[i]? with
      | some (t, some l) =>
          let (accepted, shelf) := w.shelf.land t l
          return (.installed accepted, ⟨shelf, w.spawned.eraseIdx i⟩)
      | _ => return (.idle, w)
  | .generate model query => do return (.text (← c.generateContent model query), w)
  | .count model query => do return (.count (← c.countTokens model query), w)
  | .execute cmd => do return (.answer (← c.registry.execute cmd), w)
  | .run s => do return (.outcome (← s.run c.registry.execute), w)
  | .program h args => do return (.ending (← program? h args), w)

def steps (w : Board) (c : Client) : List Operation → StateM Backend (List Result × Board)
  | [] => pure ([], w)
  | op :: rest => do
      let (r, w) ← w.step c op
      let (rs, w) ← w.steps c rest
      return (r :: rs, w)

end Board

def Operation.Uses (c : Client) : Operation → Prop
  | .program h args =>
      ∀ task config, Connects h args task config → (Client.ofConfig config).key? = c.key?
  | _ => True

section Keyed

variable {h : Host} {args : List Text} {key : Option Text}

theorem keyed_liveCatalog (c : Config) : Keyed (Client.ofConfig c).key? (liveCatalog c) := by
  rw [liveCatalog]
  split
  · exact (Client.ofConfig c).keyed_listing.bind fun _ => .pure _
  · exact .pure _

theorem keyed_models (json : Bool) (c : Config) :
    Keyed (Client.ofConfig c).key? (models json c) := by
  refine (Client.ofConfig c).keyed_fetchModels.bind fun result => ?_
  cases result with
  | error e => exact .pure _
  | ok entries => cases json <;> exact .pure _

theorem keyed_run (command : Text) (c : Config) :
    Keyed (Client.ofConfig c).key? (run command c) :=
  ((Client.ofConfig c).keyed_run _).bind fun _ => .pure _

theorem keyed_perform {file : Option Text} (task : Task)
    (hkey : ∀ c, configure h file = .ok c → (Client.ofConfig c).key? = key) :
    Keyed key (perform h file task) := by
  cases task with
  | check command => exact .pure _
  | complete text cursor catalog json =>
    rw [perform]
    cases hc : configure h file with
    | error ending => exact .pure _
    | ok c =>
      obtain rfl := hkey c hc
      cases catalog with
      | none => exact (keyed_liveCatalog c).bind fun _ => .pure _
      | some path =>
        dsimp only
        cases readCatalog h.files c.provider path <;> exact .pure _
  | models json =>
    rw [perform]
    cases hc : configure h file with
    | error ending => exact .pure _
    | ok c =>
      obtain rfl := hkey c hc
      exact keyed_models json c
  | run command =>
    rw [perform]
    cases hc : configure h file with
    | error ending => exact .pure _
    | ok c =>
      obtain rfl := hkey c hc
      exact keyed_run command c

theorem keyed_program? (hkey : ∀ task c, Connects h args task c → (Client.ofConfig c).key? = key) :
    Keyed key (program? h args) := by
  rw [program?]
  cases hargs : Invocation.ofArguments args with
  | error e => cases e <;> exact .pure _
  | ok i =>
    have hperform : Keyed key (perform h.withDotenv i.file i.task) :=
      keyed_perform i.task fun c hc => hkey i.task c ⟨i.file, hargs, hc⟩
    exact hperform.bind fun _ => .pure _

end Keyed

namespace Board

variable {c : Client} {op : Operation} {ops : List Operation}

theorem keyed_step (w : Board) (huses : op.Uses c) : Keyed c.key? (w.step c op) := by
  cases op with
  | fetchModels => exact c.keyed_fetchModels.bind fun _ => .pure _
  | listModels => exact c.keyed_listing.bind fun _ => .pure _
  | refresh => exact c.keyed_listing.bind fun _ => .pure _
  | spawn => exact .pure _
  | hear i =>
    rw [step]
    split
    · exact c.keyed_listing.bind fun _ => .pure _
    · exact .pure _
  | land i =>
    rw [step]
    split
    · exact .pure _
    · exact .pure _
  | generate model query => exact (c.keyed_generateContent model query).bind fun _ => .pure _
  | count model query => exact (c.keyed_countTokens model query).bind fun _ => .pure _
  | execute cmd => exact (c.keyed_execute cmd).bind fun _ => .pure _
  | run s => exact (c.keyed_run s).bind fun _ => .pure _
  | program h args => exact (keyed_program? huses).bind fun _ => .pure _

theorem keyed_steps (w : Board) (huses : ∀ op ∈ ops, op.Uses c) :
    Keyed c.key? (w.steps c ops) := by
  induction ops generalizing w with
  | nil => exact .pure _
  | cons op ops ih =>
    obtain ⟨hop, hops⟩ := List.forall_mem_cons.mp huses
    refine (w.keyed_step hop).bind fun (_, w') => ?_
    exact (ih w' hops).bind fun _ => .pure _

end Board

section Keyless

variable {c : Config} {h : Host} {args : List Text} {b : Backend}

theorem hasApiKey_iff : c.hasApiKey = true ↔ ∃ key, (Client.ofConfig c).key? = some key := by
  rw [Config.hasApiKey, Client.key?, Client.ofConfig]
  cases c.apiKey with
  | none => simp
  | some key => simp [Option.filter]

variable (hkey : (Client.ofConfig c).key? = none)
include hkey

theorem liveCatalog_of_keyless : liveCatalog c = pure (.empty c.provider) := by
  have hno : ¬ c.hasApiKey = true := by
    rw [hasApiKey_iff, hkey]
    nofun
  simp only [liveCatalog, hno, Bool.false_eq_true, if_false]
  rfl

theorem models_of_keyless (json : Bool) : models json c =
    pure (.reported ("Failed to list models for ".toList ++ c.provider)
      [CallError.missingApiKey.message]) := by
  simp only [models, Client.fetchModels_of_keyless hkey]
  rfl

theorem run_of_keyless {command : Text} {cmd : Command} (hparse : Command.parse command = .ok cmd)
    (hserved : Served cmd) :
    run command c = pure (.failed ("Error: ".toList ++ CallError.missingApiKey.message)) := by
  simp only [run]
  rw [Client.run_of_keyless hkey hparse hserved]
  rfl

end Keyless

namespace Board

variable {c : Client} {op : Operation} {ops : List Operation} {w w' : Board} {r : Result}

def Denied (w w' : Board) (r : Result) : Operation → Prop
  | .fetchModels => r = .models (.error .missingApiKey) ∧ w' = w
  | .listModels => r = .listing unlisted ∧ w' = w
  | .refresh => r = .installed (w.shelf.refresh unlisted).1 ∧
      w' = { w with shelf := (w.shelf.refresh unlisted).2 }
  | .spawn => r = .ticket w.shelf.begin.1 ∧
      w' = ⟨w.shelf.begin.2, w.spawned ++ [(w.shelf.begin.1, none)]⟩
  | .hear i => (∃ t, w.spawned[i]? = some (t, none) ∧ r = .listing unlisted ∧
        w' = { w with spawned := w.spawned.set i (t, some unlisted) }) ∨
      (∀ t, w.spawned[i]? ≠ some (t, none)) ∧ r = .idle ∧ w' = w
  | .land i => (∃ t, w.spawned[i]? = some (t, some unlisted) ∧
        r = .installed (w.shelf.install t (.empty Gemini.provider)).1 ∧
        w' = ⟨(w.shelf.install t (.empty Gemini.provider)).2, w.spawned.eraseIdx i⟩) ∨
      (∀ t l, w.spawned[i]? ≠ some (t, some l)) ∧ r = .idle ∧ w' = w
  | .generate _ _ => r = .text (.error .missingApiKey) ∧ w' = w
  | .count _ _ => r = .count (.error .missingApiKey) ∧ w' = w
  | .execute cmd =>
      (Served cmd → r = .answer (.error (.backend CallError.missingApiKey.message))) ∧ w' = w
  | .run s => (∀ cmd, Command.parse s.text = .ok cmd → Served cmd →
      r = .outcome (.failed (.backend CallError.missingApiKey.message))) ∧ w' = w
  | .program h args =>
      (∀ text cursor json config, Connects h args (.complete text cursor none json) config →
        r = .ending (some (complete text cursor json (.empty Gemini.provider) config))) ∧
      (∀ json config, Connects h args (.models json) config →
        r = .ending (some (.reported ("Failed to list models for Gemini".toList)
          [CallError.missingApiKey.message]))) ∧
      (∀ command config cmd, Connects h args (.run command) config →
        Command.parse command = .ok cmd → Served cmd →
        r = .ending (some (.failed ("Error: ".toList ++ CallError.missingApiKey.message)))) ∧ w' = w

def Unlisted (w : Board) : Prop := ∀ t l, (t, some l) ∈ w.spawned → l = unlisted

theorem denied_step (hkey : c.key? = none) (huses : op.Uses c) (hw : w.Unlisted) (b : Backend) :
    ∃ r w', w.step c op b = ((r, w'), b) ∧ Denied w w' r op := by
  cases op with
  | fetchModels =>
    refine ⟨_, _, ?_, rfl, rfl⟩
    simp only [step, Client.fetchModels_of_keyless hkey]
    rfl
  | listModels =>
    refine ⟨_, _, ?_, rfl, rfl⟩
    simp only [step, Client.listing_of_keyless hkey]
    rfl
  | refresh =>
    refine ⟨_, _, ?_, rfl, rfl⟩
    simp only [step, Client.listing_of_keyless hkey]
    rfl
  | spawn => exact ⟨_, _, rfl, rfl, rfl⟩
  | hear i =>
    have hidle (hs : ∀ t, w.spawned[i]? ≠ some (t, none))
        (hstep : w.step c (.hear i) b = ((.idle, w), b)) :
        ∃ r w', w.step c (.hear i) b = ((r, w'), b) ∧ Denied w w' r (.hear i) :=
      ⟨_, _, hstep, .inr ⟨hs, rfl, rfl⟩⟩
    rcases hs : w.spawned[i]? with _ | ⟨t, _ | l⟩
    · exact hidle (by simp [hs]) (by simp only [step, hs]; rfl)
    · refine ⟨_, _, ?_, .inl ⟨t, hs, rfl, rfl⟩⟩
      simp only [step, hs, Client.listing_of_keyless hkey]
      rfl
    · exact hidle (by simp [hs]) (by simp only [step, hs]; rfl)
  | land i =>
    have hidle (hs : ∀ t l, w.spawned[i]? ≠ some (t, some l))
        (hstep : w.step c (.land i) b = ((.idle, w), b)) :
        ∃ r w', w.step c (.land i) b = ((r, w'), b) ∧ Denied w w' r (.land i) :=
      ⟨_, _, hstep, .inr ⟨hs, rfl, rfl⟩⟩
    rcases hs : w.spawned[i]? with _ | ⟨t, _ | l⟩
    · exact hidle (by simp [hs]) (by simp only [step, hs]; rfl)
    · exact hidle (by simp [hs]) (by simp only [step, hs]; rfl)
    · obtain rfl := hw t l (List.mem_of_getElem? hs)
      refine ⟨_, _, ?_, .inl ⟨t, hs, rfl, rfl⟩⟩
      simp only [step, hs]
      rfl
  | generate model query =>
    refine ⟨_, _, ?_, rfl, rfl⟩
    simp only [step, Client.generateContent_of_keyless hkey]
    rfl
  | count model query =>
    refine ⟨_, _, ?_, rfl, rfl⟩
    simp only [step, Client.countTokens_of_keyless hkey]
    rfl
  | execute cmd =>
    have hafter : (c.registry.execute cmd b).2 = b := (hkey ▸ c.keyed_execute cmd).eq_of_none b
    refine ⟨.answer (c.registry.execute cmd b).1, w, congrArg (Prod.mk _) hafter, ?_, rfl⟩
    intro hserved
    rw [Client.execute_of_keyless hkey hserved]
    rfl
  | run s =>
    have hafter : (s.run c.registry.execute b).2 = b := (hkey ▸ c.keyed_run s).eq_of_none b
    refine ⟨.outcome (s.run c.registry.execute b).1, w, congrArg (Prod.mk _) hafter, ?_, rfl⟩
    intro cmd hparse hserved
    rw [Client.run_of_keyless hkey hparse hserved]
    rfl
  | program h args =>
    have hafter : (program? h args b).2 = b :=
      (keyed_program? fun task config hrun => (huses task config hrun).trans hkey).eq_of_none b
    refine ⟨.ending (program? h args b).1, w, congrArg (Prod.mk _) hafter, ?_, ?_, ?_, rfl⟩
    · intro text cursor json config hrun
      rw [hrun.program?_complete_live, liveCatalog_of_keyless ((huses _ _ hrun).trans hkey),
        hrun.provider_eq]
      rfl
    · intro json config hrun
      rw [hrun.program?_models, models_of_keyless ((huses _ _ hrun).trans hkey), hrun.provider_eq]
      rfl
    · intro command config cmd hrun hparse hserved
      rw [hrun.program?_run, run_of_keyless ((huses _ _ hrun).trans hkey) hparse hserved]
      rfl

inductive Moves (w : Board) : Board → Prop
  | stay : w.Moves w
  | refresh : w.Moves { w with shelf := (w.shelf.refresh unlisted).2 }
  | spawn : w.Moves ⟨w.shelf.begin.2, w.spawned ++ [(w.shelf.begin.1, none)]⟩
  | hear {i : Nat} {t : Ticket} : w.spawned[i]? = some (t, none) →
      w.Moves { w with spawned := w.spawned.set i (t, some unlisted) }
  | land {i : Nat} {t : Ticket} : w.spawned[i]? = some (t, some unlisted) →
      w.Moves ⟨(w.shelf.install t (.empty Gemini.provider)).2, w.spawned.eraseIdx i⟩

theorem Denied.moves (h : Denied w w' r op) : w.Moves w' := by
  cases op with
  | refresh =>
    obtain ⟨_, rfl⟩ := h
    exact .refresh
  | spawn =>
    obtain ⟨_, rfl⟩ := h
    exact .spawn
  | hear i =>
    obtain ⟨t, ht, _, rfl⟩ | ⟨_, _, rfl⟩ := h
    · exact .hear ht
    · exact .stay
  | land i =>
    obtain ⟨t, ht, _, rfl⟩ | ⟨_, _, rfl⟩ := h
    · exact .land ht
    · exact .stay
  | program h' args =>
    obtain ⟨_, _, _, rfl⟩ := h
    exact .stay
  | _ =>
    obtain ⟨_, rfl⟩ := h
    exact .stay

theorem Moves.unlisted (h : w.Moves w') (hw : w.Unlisted) : w'.Unlisted := by
  cases h with
  | stay => exact hw
  | refresh => exact hw
  | spawn =>
    intro t l ht
    rcases List.mem_append.mp ht with ht | ht
    · exact hw t l ht
    · simp at ht
  | hear =>
    intro t l ht
    rcases List.mem_or_eq_of_mem_set ht with ht | ht
    · exact hw t l ht
    · cases ht
      rfl
  | land =>
    intro t l ht
    exact hw t l (List.mem_of_mem_eraseIdx ht)

structure Fresh (w : Board) (count : Nat) : Prop where
  next_le : w.shelf.next.toNat ≤ count + 1
  installed_lt : w.shelf.installed < w.shelf.next
  spawned_lt : ∀ p ∈ w.spawned, p.1.number < w.shelf.next

namespace Fresh

variable {count : Nat}

theorem succ_eq (h : w.Fresh count) (hfew : count + 1 < UInt64.size - 1) :
    (w.shelf.next + 1).toNat = w.shelf.next.toNat + 1 := by
  have hle := h.next_le
  have hroom : w.shelf.next.toNat + 1 < UInt64.size := by omega
  rw [UInt64.toNat_add, UInt64.toNat_one, Nat.mod_eq_of_lt hroom]

theorem next_lt (h : w.Fresh count) (hfew : count + 1 < UInt64.size - 1) :
    w.shelf.next < w.shelf.next + 1 := by
  rw [UInt64.lt_iff_toNat_lt, h.succ_eq hfew]
  omega

theorem refresh_eq (h : w.Fresh count) (l : Listing) :
    w.shelf.refresh l = (true, ⟨w.shelf.next + 1, w.shelf.next, l.catalog⟩) := by
  simp [Shelf.refresh, Shelf.land, Shelf.begin, Shelf.install, Shelf.admits, h.installed_lt]

theorem moves (h : w.Fresh count) (hfew : count + 1 < UInt64.size - 1) (hmoves : w.Moves w') :
    w'.Fresh (count + 1) := by
  have hnext := h.next_lt hfew
  have hstay : w.shelf.next.toNat ≤ count + 1 + 1 := Nat.le_succ_of_le h.next_le
  have hle : (w.shelf.next + 1).toNat ≤ count + 1 + 1 := by
    rw [h.succ_eq hfew]
    exact Nat.succ_le_succ h.next_le
  cases hmoves with
  | stay => exact ⟨hstay, h.installed_lt, h.spawned_lt⟩
  | refresh =>
    rw [h.refresh_eq]
    exact ⟨hle, hnext, fun p hp => UInt64.lt_trans (h.spawned_lt p hp) hnext⟩
  | spawn =>
    refine ⟨hle, UInt64.lt_trans h.installed_lt hnext, fun p hp => ?_⟩
    rcases List.mem_append.mp hp with hp | hp
    · exact UInt64.lt_trans (h.spawned_lt p hp) hnext
    · rw [List.mem_singleton.mp hp]
      exact hnext
  | @hear i t ht =>
    refine ⟨hstay, h.installed_lt, fun p hp => ?_⟩
    rcases List.mem_or_eq_of_mem_set hp with hp | rfl
    · exact h.spawned_lt p hp
    · exact h.spawned_lt (t, none) (List.mem_of_getElem? ht)
  | @land i t ht =>
    have hspawned : ∀ p ∈ w.spawned.eraseIdx i, p.1.number < w.shelf.next :=
      fun p hp => h.spawned_lt p (List.mem_of_mem_eraseIdx hp)
    rw [Shelf.install]
    split
    · exact ⟨hstay, h.spawned_lt _ (List.mem_of_getElem? ht), hspawned⟩
    · exact ⟨hstay, h.installed_lt, hspawned⟩

end Fresh

theorem steps_cons (w : Board) (c : Client) (op : Operation) (ops : List Operation) (b : Backend) :
    (w.steps c (op :: ops) b).1.2 =
      ((w.step c op b).1.2.steps c ops (w.step c op b).2).1.2 := rfl

theorem unlisted_start (initial : Catalog) : (start initial).Unlisted := by
  intro t l h
  cases h

theorem fresh_start (initial : Catalog) : (start initial).Fresh 0 where
  next_le := Nat.le_refl 1
  installed_lt := show (0 : UInt64) < 1 by decide
  spawned_lt := nofun

theorem denied_steps (hkey : c.key? = none) (huses : ∀ op ∈ ops, op.Uses c) (hw : w.Unlisted)
    (b : Backend) :
    (w.steps c ops b).1.2.Unlisted ∧ ∀ count, w.Fresh count →
      count + ops.length < UInt64.size - 1 → (w.steps c ops b).1.2.Fresh (count + ops.length) := by
  induction ops generalizing w b with
  | nil => exact ⟨hw, fun count hfresh _ => hfresh⟩
  | cons op ops ih =>
    obtain ⟨hop, hops⟩ := List.forall_mem_cons.mp huses
    obtain ⟨r, w', hstep, hdenied⟩ := denied_step hkey hop hw b
    obtain ⟨hunlisted, hfresh⟩ := ih hops (hdenied.moves.unlisted hw) b
    rw [steps_cons, hstep]
    -- what has been answered stays so at any length; only the tickets need numbers to be left
    refine ⟨hunlisted, fun count hcount hfew => ?_⟩
    rw [List.length_cons] at hfew ⊢
    have hnext := hfresh (count + 1) (hcount.moves (by omega) hdenied.moves) (by omega)
    rwa [Nat.add_assoc, Nat.add_comm 1] at hnext

end Board

theorem requests_carry_the_key (c : Client) (initial : Catalog) (done : List Operation)
    (huses : ∀ op ∈ done, op.Uses c) (b : Backend) :
    (c.apiKey = none ∨ c.apiKey = some [] →
      let past := (Board.start initial).steps c done b
      past.2 = b ∧ ∀ op : Operation, op.Uses c →
        ∃ r w', past.1.2.step c op b = ((r, w'), b) ∧ Board.Denied past.1.2 w' r op ∧
          (op = .refresh → done.length < UInt64.size - 1 →
            r = .installed true ∧ w'.shelf.catalog = .empty Gemini.provider)) ∧
    (∀ key, c.Holds key →
      let past := (Board.start initial).steps c done b
      (∃ sent, past.2.requests = b.requests ++ sent ∧ ∀ r ∈ sent, r.key = key) ∧
      ∀ target, Url.Target.ofAddress? (c.address "models".toList) = some target →
        b.takes (c.pageRequest key target none) = true →
          ∃ r more, (past.1.2.step c .fetchModels past.2).2.requests =
            past.2.requests ++ r :: more ∧ r.key = key) ∧
    ∀ config : Config, config.hasApiKey = true ↔
      ∃ key, (Client.ofConfig config).key? = some key := by
  have hkeyed := (Board.start initial).keyed_steps huses
  refine ⟨fun hkeyless => ?_, fun key hkey => ?_, fun config => hasApiKey_iff⟩
  · have hnone : c.key? = none := by
      rcases hkeyless with h | h
      · simp [Client.key?, h]
      · simp [Client.key?, h]
    intro past
    have hpast : past.2 = b := (hnone ▸ hkeyed).eq_of_none b
    obtain ⟨hunlisted, hfresh⟩ := Board.denied_steps hnone huses (Board.unlisted_start initial) b
    refine ⟨hpast, fun op hop => ?_⟩
    obtain ⟨r, w', hstep, hdenied⟩ := Board.denied_step hnone hop hunlisted b
    refine ⟨r, w', hstep, hdenied, ?_⟩
    rintro rfl hfew
    obtain ⟨rfl, rfl⟩ := hdenied
    rw [(hfresh 0 (Board.fresh_start initial) (by omega)).refresh_eq]
    exact ⟨rfl, rfl⟩
  · intro past
    obtain ⟨sent, hrequests, hsent⟩ := hkeyed.requests b
    refine ⟨⟨sent, hrequests, fun r hr => ?_⟩, fun target haddress htaken => ?_⟩
    · have hsame := hsent r hr
      rw [hkey.key?_eq] at hsame
      exact Option.some.inj hsame
    · have hstill : past.2.takes (c.pageRequest key target none) = true := by
        rw [hkeyed.takes b, htaken]
      exact Client.fetchModels_asks hkey haddress hstill

def bareHost : Host := ⟨fun _ => .error .notFound, 0, [("HOME".toList, "/h".toList)], none⟩

def bareClient : Client := { Client.ofConfig .default with apiKey := some [] }

def bareOperations : List Operation :=
  [.spawn, .hear 0, .program bareHost ["complete".toList, "Gemini.".toList]]

def listedCatalog : Catalog := .ofEntries Gemini.provider [⟨['m'], none, []⟩]

theorem keyless_refresh_empties_the_shelf : ∃ w',
    let past := (Board.start listedCatalog).steps bareClient bareOperations
      Gemini.Client.brokenBackend
    past.2 = Gemini.Client.brokenBackend ∧
      past.1.2.step bareClient .refresh Gemini.Client.brokenBackend =
        ((.installed true, w'), Gemini.Client.brokenBackend) ∧
      w'.shelf.catalog = .empty Gemini.provider := by
  have hprogram : (Operation.program bareHost ["complete".toList, "Gemini.".toList]).Uses
      bareClient := by
    rintro task config ⟨file, hargs, hconfig⟩
    have hcomplete : Invocation.ofArguments ["complete".toList, "Gemini.".toList] =
        .ok ⟨none, .complete "Gemini.".toList none none false⟩ := by decide +kernel
    have hdefault : configure bareHost.withDotenv none = .ok .default := by decide +kernel
    cases hcomplete.symm.trans hargs
    cases hdefault.symm.trans hconfig
    rfl
  have huses : ∀ op ∈ bareOperations, op.Uses bareClient := by
    intro op hop
    simp only [bareOperations, List.mem_cons, List.not_mem_nil, or_false] at hop
    rcases hop with rfl | rfl | rfl
    · trivial
    · trivial
    · exact hprogram
  obtain ⟨hkeyless, _⟩ := requests_carry_the_key bareClient listedCatalog bareOperations huses
    Gemini.Client.brokenBackend
  obtain ⟨hpast, hnext⟩ := hkeyless (.inr rfl)
  obtain ⟨r, w', hstep, _, hrefresh⟩ := hnext .refresh trivial
  obtain ⟨rfl, hcatalog⟩ := hrefresh rfl (by decide)
  exact ⟨w', hpast, hstep, hcatalog⟩

end PromptLine.Shell
