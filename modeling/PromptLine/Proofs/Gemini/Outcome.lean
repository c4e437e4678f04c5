import PromptLine.Proofs.Gemini.Calls
import PromptLine.Proofs.Gemini.Wire

namespace PromptLine

theorem Truncation.truncate_nil (budget : Nat) : Truncation.truncate budget [] = [] :=
  if_pos (Nat.zero_le budget)

namespace Gemini

variable {reply : Option (Nat × Utf8.Bytes)} {v : Json}

def Reports (body : Utf8.Bytes) (message : Text) : Prop :=
  let document := Json.read? (Utf8.decodeLossy body)
  (∃ v r, document = some v ∧ IsRefusal v r ∧ message = r.message) ∨
    (∀ v, document = some v → ¬ ∃ r, IsRefusal v r) ∧ message = Utf8.decodeLossy body

theorem readReply_refused {α : Type} (read? : Json → Option α) {status : Nat} {body : Utf8.Bytes}
    (h : ¬ (200 ≤ status ∧ status < 300)) :
    ∃ e, readReply read? (some (status, body)) = .error e ∧ Reports body e.message := by
  simp only [readReply, if_neg h]
  cases hr : (Json.read? (Utf8.decodeLossy body)).bind Refusal.ofJson? with
  | none =>
    refine ⟨_, rfl, .inr ⟨fun v hv => ?_, rfl⟩⟩
    rintro ⟨r, hrefusal⟩
    have hnone := Option.bind_eq_none_iff.mp hr v hv
    rw [isRefusal_iff.mpr hrefusal] at hnone
    cases hnone
  | some r =>
    obtain ⟨v, hv, hvr⟩ := Option.bind_eq_some_iff.mp hr
    exact ⟨_, rfl, .inl ⟨v, r, hv, isRefusal_iff.mp hvr, rfl⟩⟩

theorem IsChoice.parts_eq_nil {choice : Choice} {fields : Json.Fields} (h : IsChoice v choice)
    (hfields : Json.fields? false (["content", "finishReason"].map String.toList) v = some fields)
    (hnull : ∀ content ∈ fields.value? "content".toList, content = .null) : choice.parts = [] := by
  obtain ⟨_, content, hfields', hcontent, hparts, _⟩ := h
  obtain rfl := Option.some.inj (hfields.symm.trans hfields')
  cases content with
  | none => exact hparts
  | some parts =>
    obtain ⟨w, hw, hne, _⟩ := hcontent
    exact absurd (hnull w hw) hne

namespace Generation

variable {g : Generation}

def Blocked (g : Generation) : Prop :=
  g.blockReason ≠ none ∨ ∃ choice ∈ g.choices.head?, choice.finishReason = some "SAFETY".toList

def said (g : Generation) : Text :=
  match g.choices.head? with
  | none => []
  | some choice => (choice.parts.filterMap id).flatten

def Silent (v : Json) : Prop :=
  ∃ fields, Json.fields? false (["candidates", "promptFeedback"].map String.toList) v = some fields ∧
    ∀ w ∈ fields.value? "candidates".toList, ∃ items, w = .array items ∧
      ∀ item ∈ items.head?, ∃ inner,
        Json.fields? false (["content", "finishReason"].map String.toList) item = some inner ∧
        ∀ content ∈ inner.value? "content".toList, content = .null

theorem text_of_not_blocked (h : ¬ g.Blocked) : g.text = .ok g.said := by
  obtain ⟨choices, reason⟩ := g
  simp only [Blocked, not_or, ne_eq, not_not] at h
  obtain ⟨rfl, hsafe⟩ := h
  cases choices with
  | nil => rfl
  | cons choice choices =>
    have hfinish : choice.finishReason ≠ some "SAFETY".toList := fun hf => hsafe ⟨choice, rfl, hf⟩
    exact if_neg hfinish

theorem text_of_blocked (h : g.Blocked) : g.text =
    .error (g.blockReason.getD "response blocked due to safety concerns".toList) := by
  obtain ⟨choices, reason⟩ := g
  cases reason with
  | some reason => rfl
  | none =>
    obtain ⟨choice, hchoice, hfinish⟩ := h.resolve_left (not_not.mpr rfl)
    cases choices with
    | nil => cases hchoice
    | cons first choices =>
      cases hchoice
      exact if_pos hfinish

theorem said_of_silent (hg : IsGeneration v g) (hsilent : Silent v) : g.said = [] := by
  obtain ⟨choices, reason⟩ := g
  obtain ⟨fields, hfields, hchoices⟩ := hsilent
  obtain ⟨_, _, hfields', hlist, _, _⟩ := hg
  obtain rfl := Option.some.inj (hfields.symm.trans hfields')
  rcases hlist with ⟨_, rfl⟩ | ⟨items, hvalue, hlist⟩
  · rfl
  · obtain ⟨_, hitems, hfirst⟩ := hchoices _ hvalue
    obtain rfl := Json.array.inj hitems
    -- Only the first choice speaks, and it is read from the first item.
    cases hlist with
    | nil => rfl
    | cons hchoice _ =>
      obtain ⟨inner, hinner, hcontent⟩ := hfirst _ rfl
      have hparts := hchoice.parts_eq_nil hinner hcontent
      simp only [said, List.head?_cons, hparts]
      rfl

end Generation

theorem generation_ok_iff {g : Generation} :
    readReply Generation.ofJson? reply = .ok g ↔ ∃ v, Says reply v ∧ IsGeneration v g :=
  readReply_ok_iff fun _ _ => isGeneration_iff

theorem tokenCountOfJson?_eq_some_iff {n : Nat} : tokenCountOfJson? v = some n ↔
    ∃ fields digits, Json.fields? false ["totalTokens".toList] v = some fields ∧
      fields.value? "totalTokens".toList = some (.number digits) ∧ Decimal.Writes digits n ∧
      n < UInt64.size := by
  have hbound : countBound = UInt64.size := rfl
  simp only [tokenCountOfJson?, Json.Fields.required?, Option.bind_eq_bind,
    Option.bind_eq_some_iff, Json.nat?_eq_some_iff, hbound]
  constructor
  · rintro ⟨fields, hfields, _, hvalue, digits, rfl, hdigits, hn⟩
    exact ⟨fields, digits, hfields, hvalue, hdigits, hn⟩
  · rintro ⟨fields, digits, hfields, hvalue, hdigits, hn⟩
    exact ⟨fields, hfields, _, hvalue, digits, rfl, hdigits, hn⟩

def ending {α : Type} (say : α → Except CallError Text) (read : Except CallError α) : Outcome :=
  match read.bind say with
  | .ok text => .output text
  | .error e => .failed (.backend e.message)

section

variable {α : Type} {say : α → Except CallError Text} {read : Except CallError α}

theorem ending_eq_output_iff {t : Text} :
    ending say read = .output t ↔ ∃ a, read = .ok a ∧ say a = .ok t := by
  cases read with
  | error e => simp [ending, Except.bind]
  | ok a =>
    cases hsay : say a with
    | error e => simp [ending, Except.bind, hsay]
    | ok text => simp [ending, Except.bind, hsay]

theorem failed_of_ending (h : ∀ t, ending say read ≠ .output t) :
    ∃ message, ending say read = .failed (.backend message) := by
  cases hread : read.bind say with
  | error e => exact ⟨e.message, by rw [ending, hread]⟩
  | ok t => exact absurd (by rw [ending, hread]) (h t)

theorem refused_ending {read? : Json → Option α} {status : Nat} {body : Utf8.Bytes}
    (h : ¬ (200 ≤ status ∧ status < 300)) :
    ∃ message, ending say (readReply read? (some (status, body))) = .failed (.backend message) ∧
      Reports body message := by
  obtain ⟨e, he, hreports⟩ := readReply_refused read? h
  rw [he]
  exact ⟨e.message, rfl, hreports⟩

end

structure Generates (budget : Nat) (reply : Option (Nat × Utf8.Bytes)) (o : Outcome) : Prop where
  output : ∀ t, o = .output t ↔ ∃ v g, Says reply v ∧ IsGeneration v g ∧ ¬ g.Blocked ∧
    t = Truncation.truncate budget g.said
  silent : ∀ v g, Says reply v → IsGeneration v g → ¬ g.Blocked → Generation.Silent v →
    o = .output []
  withheld : ∀ v g, Says reply v → IsGeneration v g → g.Blocked →
    o = .failed (.backend ("Prompt blocked: ".toList ++
      g.blockReason.getD "response blocked due to safety concerns".toList))

structure Counts (reply : Option (Nat × Utf8.Bytes)) (o : Outcome) : Prop where
  output : ∀ t, o = .output t ↔ ∃ v fields digits n, Says reply v ∧
    Json.fields? false ["totalTokens".toList] v = some fields ∧
    fields.value? "totalTokens".toList = some (.number digits) ∧ Decimal.Writes digits n ∧
    n < UInt64.size ∧ t = Nat.toDigits 10 n

structure Settled (c : Client) (method : Text) (reply : Option (Nat × Utf8.Bytes)) (o : Outcome) :
    Prop where
  generates : method ≠ "countTokens".toList → Generates c.maxOutputBytes reply o
  counts : method = "countTokens".toList → Counts reply o
  failed : (∀ t, o ≠ .output t) → ∃ message, o = .failed (.backend message)
  refused : ∀ status body, reply = some (status, body) → ¬ (200 ≤ status ∧ status < 300) →
    ∃ message, o = .failed (.backend message) ∧ Reports body message

namespace Client

variable {c : Client} {key : Text} {cmd : Command} {b : Backend} {s : Session}

def answerAt (c : Client) (suffix : Text) (b : Backend) : Option (Nat × Utf8.Bytes) :=
  match Url.Target.ofAddress? (c.address suffix) with
  | none => none
  | some target =>
      if b.script.takes (c.address suffix) target.render then b.answer 0 else none

theorem exists_post {α : Type} (hkey : c.Sends key) (suffix : Text) (body : Json)
    (read? : Json → Option α) (b : Backend) : ∃ after,
      c.post suffix body read? b = (readReply read? (c.answerAt suffix b), after) := by
  cases haddress : Url.Target.ofAddress? (c.address suffix) with
  | none =>
    simp only [post, hkey.key?_eq, request?, haddress, answerAt]
    exact ⟨b, rfl⟩
  | some target =>
    obtain ⟨r, hpost, haddressed, htarget⟩ : ∃ r : Request,
        c.post suffix body read? b = (Backend.send r b).map (readReply read?) id ∧
          r.address = c.address suffix ∧ r.target = target.render :=
      ⟨_, hkey.post_eq haddress body read? b, rfl, rfl⟩
    rw [hpost, answerAt, haddress]
    have htaken : b.script.takes (c.address suffix) target.render = b.takes r := by
      rw [Backend.takes, haddressed, htarget]
    simp only [htaken]
    cases htaken' : b.takes r with
    | true =>
      rw [Backend.send_eq htaken', if_pos rfl]
      exact ⟨_, rfl⟩
    | false =>
      rw [Backend.send_of_not_taken htaken', if_neg Bool.false_ne_true]
      exact ⟨b, rfl⟩

def answerTo (c : Client) (cmd : Command) (b : Backend) : Option (Nat × Utf8.Bytes) :=
  c.answerAt (methodPath cmd.model (action cmd.method)) b

def saying (c : Client) (g : Generation) : Except CallError Text :=
  match g.text with
  | .ok text => .ok (Truncation.truncate c.maxOutputBytes text)
  | .error reason => .error (.blocked reason)

theorem saying_eq_ok_iff {g : Generation} {t : Text} : c.saying g = .ok t ↔
    ¬ g.Blocked ∧ t = Truncation.truncate c.maxOutputBytes g.said := by
  by_cases hg : g.Blocked
  · simp [saying, Generation.text_of_blocked hg, hg]
  · simp [saying, Generation.text_of_not_blocked hg, hg, eq_comm]

theorem saying_of_blocked {g : Generation} (hg : g.Blocked) : c.saying g =
    .error (.blocked (g.blockReason.getD "response blocked due to safety concerns".toList)) := by
  rw [saying, Generation.text_of_blocked hg]

theorem generating_fst (hkey : c.Sends key) (cmd : Command) (b : Backend) :
    .ofAnswer (c.generating cmd b).1 = ending c.saying (readReply Generation.ofJson?
      (c.answerAt (methodPath cmd.model "generateContent".toList) b)) := by
  obtain ⟨after, hpost⟩ := exists_post hkey (methodPath cmd.model "generateContent".toList)
    (contents [("role".toList, .ofText "user".toList)] cmd.query) Generation.ofJson? b
  simp only [generating, generateContent, bind, StateT.bind, hpost]
  cases readReply Generation.ofJson? _ with
  | error e => rfl
  | ok g =>
    simp only [ending, Except.bind, saying]
    cases g.text with
    | error reason => rfl
    | ok text => rfl

theorem counting_fst (hkey : c.Sends key) (cmd : Command) (b : Backend) :
    .ofAnswer (c.counting cmd b).1 = ending (fun n => .ok (Decimal.render n))
      (readReply tokenCountOfJson? (c.answerAt (methodPath cmd.model "countTokens".toList) b)) := by
  obtain ⟨after, hpost⟩ := exists_post hkey (methodPath cmd.model "countTokens".toList)
    (contents [] cmd.query) tokenCountOfJson? b
  simp only [counting, countTokens, bind, StateT.bind, hpost]
  cases readReply tokenCountOfJson? _ with
  | error e => rfl
  | ok n => rfl

theorem run_generating (hkey : c.Sends key) (hparse : Command.parse s.text = .ok cmd)
    (hserved : Served cmd) (hmethod : cmd.method ≠ "countTokens".toList) (b : Backend) :
    (s.run c.registry.execute b).1 =
      ending c.saying (readReply Generation.ofJson? (c.answerTo cmd b)) := by
  rw [Session.run_of_parse hparse, answerTo, action, if_neg hmethod, ← generating_fst hkey]
  simp only [Registry.execute, lookup?_generating hserved hmethod]
  rfl

theorem run_counting (hkey : c.Sends key) (hparse : Command.parse s.text = .ok cmd)
    (hserved : Served cmd) (hmethod : cmd.method = "countTokens".toList) (b : Backend) :
    (s.run c.registry.execute b).1 =
      ending (fun n => .ok (Decimal.render n)) (readReply tokenCountOfJson? (c.answerTo cmd b)) := by
  rw [Session.run_of_parse hparse, answerTo, action, if_pos hmethod, ← counting_fst hkey]
  simp only [Registry.execute, lookup?_counting hserved hmethod]
  rfl

theorem generates_ending : Generates c.maxOutputBytes reply
    (ending c.saying (readReply Generation.ofJson? reply)) where
  output t := by
    simp only [ending_eq_output_iff, generation_ok_iff, saying_eq_ok_iff]
    constructor
    · rintro ⟨g, ⟨v, hv, hg⟩, ht⟩
      exact ⟨v, g, hv, hg, ht⟩
    · rintro ⟨v, g, hv, hg, ht⟩
      exact ⟨g, ⟨v, hv, hg⟩, ht⟩
  silent v g hv hg hfree hsilent := by
    refine ending_eq_output_iff.mpr ⟨g, generation_ok_iff.mpr ⟨v, hv, hg⟩,
      saying_eq_ok_iff.mpr ⟨hfree, ?_⟩⟩
    rw [Generation.said_of_silent hg hsilent, Truncation.truncate_nil]
  withheld v g hv hg hblocked := by
    rw [generation_ok_iff.mpr ⟨v, hv, hg⟩, ending, Except.bind, saying_of_blocked hblocked]
    rfl

theorem counts_ending : Counts reply
    (ending (fun n => .ok (Decimal.render n)) (readReply tokenCountOfJson? reply)) where
  output t := by
    simp only [ending_eq_output_iff, readReply_ok_iff fun _ _ => tokenCountOfJson?_eq_some_iff]
    constructor
    · rintro ⟨n, ⟨v, hv, fields, digits, hfields, hvalue, hdigits, hn⟩, ht⟩
      exact ⟨v, fields, digits, n, hv, hfields, hvalue, hdigits, hn, (Except.ok.inj ht).symm⟩
    · rintro ⟨v, fields, digits, n, hv, hfields, hvalue, hdigits, hn, rfl⟩
      exact ⟨n, ⟨v, hv, fields, digits, hfields, hvalue, hdigits, hn⟩, rfl⟩

theorem settled_run (hkey : c.Sends key) (hparse : Command.parse s.text = .ok cmd)
    (hserved : Served cmd) (b : Backend) :
    Settled c cmd.method (c.answerTo cmd b) (s.run c.registry.execute b).1 := by
  by_cases hmethod : cmd.method = "countTokens".toList
  · rw [run_counting hkey hparse hserved hmethod]
    exact ⟨absurd hmethod, fun _ => counts_ending, failed_of_ending,
      fun _ _ hreply => hreply ▸ refused_ending⟩
  · rw [run_generating hkey hparse hserved hmethod]
    exact ⟨fun _ => generates_ending, fun h => absurd h hmethod, failed_of_ending,
      fun _ _ hreply => hreply ▸ refused_ending⟩

theorem answer_settles_outcome {c : Client} {key : Text} (hkey : c.Sends key) :
    (∀ (s : Session) (b : Backend) cmd, Command.parse s.text = .ok cmd → Served cmd →
      Settled c cmd.method (c.answerTo cmd b) (s.run c.registry.execute b).1) ∧
    ∀ (s s' : Session) (b b' : Backend) cmd cmd' v v' g g',
      Command.parse s.text = .ok cmd → Command.parse s'.text = .ok cmd' →
      Served cmd → Served cmd' → cmd.method ≠ "countTokens".toList →
      cmd'.method ≠ "countTokens".toList → Says (c.answerTo cmd b) v → Says (c.answerTo cmd' b') v' →
      IsGeneration v g → IsGeneration v' g' → g.Blocked → g'.Blocked →
      g.blockReason = g'.blockReason →
      (s.run c.registry.execute b).1 = (s'.run c.registry.execute b').1 := by
  refine ⟨fun s b cmd hparse hserved => settled_run hkey hparse hserved b, ?_⟩
  -- Either run ends with a message made of nothing but the reason.
  intro s s' b b' cmd cmd' v v' g g' hparse hparse' hserved hserved' hmethod hmethod' hv hv' hg hg'
    hblocked hblocked' hreason
  rw [((settled_run hkey hparse hserved b).generates hmethod).withheld v g hv hg hblocked,
    ((settled_run hkey hparse' hserved' b').generates hmethod').withheld v' g' hv' hg' hblocked',
    hreason]

def answering (status : Nat) (body : Text) : Backend :=
  .scripted [.answer status (Utf8.encode body) none] .broken

def countingSession : Session := ⟨⟨[]⟩, "Gemini.m.countTokens('')".toList, 0⟩

def countingCommand : Command := ⟨"Gemini".toList, ['m'], "countTokens".toList, []⟩

def countedBody : Text := "\x7b\"totalTokens\":18446744073709551615\x7d".toList

def generatedBody : Text :=
  "\x7b\"candidates\":[\x7b\"content\":\x7b\"parts\":[\x7b\"text\":\"Hé\"\x7d,".toList ++
    "\x7b\"data\":1\x7d,\x7b\"text\":\"llo\"\x7d]\x7d,\"finishReason\":\"STOP\"\x7d]\x7d".toList

def generated : Generation :=
  ⟨[⟨[some "Hé".toList, none, some "llo".toList], some "STOP".toList⟩], none⟩

def stoppedBody (text : Text) : Text :=
  "\x7b\"candidates\":[\x7b\"content\":\x7b\"parts\":[\x7b\"text\":\"".toList ++ text ++
    "\"\x7d]\x7d,\"finishReason\":\"SAFETY\"\x7d]\x7d".toList

def stopped (text : Text) : Generation := ⟨[⟨[some text], some "SAFETY".toList⟩], none⟩

def refusedBody : Text :=
  "\x7b\"error\":\x7b\"code\":404,\"message\":\"no such model\"\x7d\x7d".toList

def narrowClient : Client := { slashedClient with maxOutputBytes := 4 }

theorem not_blocked_generated : ¬ generated.Blocked := by
  rintro (h | ⟨choice, hchoice, hreason⟩)
  · exact h rfl
  · cases hchoice
    revert hreason
    decide

theorem message_of_reports {message : Text} (h : Reports (Utf8.encode refusedBody) message) :
    message = "no such model".toList := by
  have hread : (Json.read? (Utf8.decodeLossy (Utf8.encode refusedBody))).bind Refusal.ofJson? =
      some ⟨some 404, "no such model".toList, none⟩ := by decide +kernel
  obtain ⟨v, hv, hrefusal⟩ := Option.bind_eq_some_iff.mp hread
  rcases h with ⟨_, r, hv', hr, rfl⟩ | ⟨hnone, _⟩
  · obtain rfl := Option.some.inj (hv.symm.trans hv')
    rw [Option.some.inj ((isRefusal_iff.mpr hr).symm.trans hrefusal)]
  · exact absurd ⟨_, isRefusal_iff.mp hrefusal⟩ (hnone v hv)

theorem stopped_texts_end_alike :
    (countingSession.run slashedClient.registry.execute (answering 299 countedBody)).1 =
      .output "18446744073709551615".toList ∧
    (quotedSession.run slashedClient.registry.execute (answering 200 generatedBody)).1 =
      .output "Héllo".toList ∧
    (quotedSession.run narrowClient.registry.execute (answering 200 generatedBody)).1 =
      .output "Hél\n[... output truncated, 2 bytes omitted]".toList ∧
    (quotedSession.run slashedClient.registry.execute (answering 404 refusedBody)).1 =
      .failed (.backend "no such model".toList) ∧
    (quotedSession.run slashedClient.registry.execute (answering 200 (stoppedBody ['a']))).1 =
      (quotedSession.run slashedClient.registry.execute (answering 200 (stoppedBody ['b']))).1 := by
  have hcount : Command.parse countingSession.text = .ok countingCommand := by decide +kernel
  have hmethod : quotedCommand.method ≠ "countTokens".toList := by decide
  have hgenerated : readReply Generation.ofJson? (slashedClient.answerTo quotedCommand
      (answering 200 generatedBody)) = .ok generated := by decide +kernel
  have ha : readReply Generation.ofJson? (slashedClient.answerTo quotedCommand
      (answering 200 (stoppedBody ['a']))) = .ok (stopped ['a']) := by decide +kernel
  have hb : readReply Generation.ofJson? (slashedClient.answerTo quotedCommand
      (answering 200 (stoppedBody ['b']))) = .ok (stopped ['b']) := by decide +kernel
  obtain ⟨hsettled, halike⟩ := answer_settles_outcome (c := slashedClient) ⟨rfl, rfl⟩
  obtain ⟨hnarrow, _⟩ := answer_settles_outcome (c := narrowClient) ⟨rfl, rfl⟩
  obtain ⟨v, hsays, hsaid⟩ := generation_ok_iff.mp hgenerated
  obtain ⟨w, hsaysA, hstoppedA⟩ := generation_ok_iff.mp ha
  obtain ⟨w', hsaysB, hstoppedB⟩ := generation_ok_iff.mp hb
  refine ⟨?_, ?_, ?_, ?_, ?_⟩
  · have hcounts := (hsettled _ (answering 299 countedBody) _ hcount
      ⟨rfl, .inr (.inr rfl)⟩).counts rfl
    have hcounted : Says (slashedClient.answerTo countingCommand (answering 299 countedBody))
        (.object [("totalTokens".toList, .ofNat 18446744073709551615)]) :=
      ⟨299, Utf8.encode countedBody, by decide +kernel, by decide, by decide, rfl⟩
    exact (hcounts.output _).mpr ⟨_, _, _, _, hcounted, rfl, rfl, Decimal.writes_render _, by decide,
      by decide +kernel⟩
  · have hgenerates := (hsettled _ (answering 200 generatedBody) _ parse_quoted
      served_quoted).generates hmethod
    exact (hgenerates.output _).mpr ⟨v, _, hsays, hsaid, not_blocked_generated, by decide +kernel⟩
  · have hgenerates := (hnarrow _ (answering 200 generatedBody) _ parse_quoted
      served_quoted).generates hmethod
    exact (hgenerates.output _).mpr ⟨v, _, hsays, hsaid, not_blocked_generated, by decide +kernel⟩
  · obtain ⟨message, houtcome, hreports⟩ := (hsettled _ (answering 404 refusedBody) _ parse_quoted
      served_quoted).refused 404 (Utf8.encode refusedBody) (by decide +kernel) (by decide)
    rw [houtcome, message_of_reports hreports]
  · exact halike _ _ _ _ _ _ w w' _ _ parse_quoted parse_quoted served_quoted served_quoted hmethod
      hmethod hsaysA hsaysB hstoppedA hstoppedB (.inr ⟨_, rfl, rfl⟩) (.inr ⟨_, rfl, rfl⟩) rfl

end Client

end Gemini

end PromptLine
