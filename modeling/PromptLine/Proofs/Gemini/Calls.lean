import PromptLine.Gemini.Handlers
import PromptLine.Proofs.Execution.Registry
import PromptLine.Proofs.Gemini.Exchange
import PromptLine.Proofs.Json.Spelling
import PromptLine.Proofs.Session.Running
import PromptLine.Proofs.Url.Address

namespace PromptLine

theorem IsWord.pathSet {x : Char} (h : IsWord x) : Url.pathSet x = false := by
  obtain ⟨hlow, hhigh⟩ := h.toNat_bounds
  have hmarks : [' ', '"', '#', '<', '>', '?', '^', Char.ofNat 0x60, '{', '}'].all
      (!isWordChar ·) = true := by decide
  rw [Url.pathSet, Bool.or_eq_false_iff]
  constructor
  · simp only [Url.isControlOrNonAscii, Bool.or_eq_false_iff, decide_eq_false_iff_not]
    omega
  · rw [Bool.eq_false_iff, ne_eq, List.contains_iff_mem]
    intro hx
    have hno := List.all_eq_true.mp hmarks x hx
    rw [isWordChar_iff.mpr h] at hno
    cases hno

theorem pathSet_of_isModelChar {x : Char} (h : isModelChar x = true) : Url.pathSet x = false := by
  rcases isModelChar_iff.mp h with hword | rfl | rfl
  · exact hword.pathSet
  · decide
  · decide

open Url (PlainAddress PlainPath)

namespace Gemini

namespace Prompt

def partOfJson? (v : Json) : Option Text := do
  let fields ← Json.fields? true ["text".toList] v
  fields.required? "text".toList Json.text?

def contentOfJson? (v : Json) : Option (List Text) := do
  let fields ← Json.fields? true (["role", "parts"].map String.toList) v
  fields.required? "parts".toList (Json.list? partOfJson?)

def ofJson? (v : Json) : Option (List (List Text)) := do
  let fields ← Json.fields? true ["contents".toList] v
  fields.required? "contents".toList (Json.list? contentOfJson?)

end Prompt

def Served (cmd : Command) : Prop :=
  cmd.provider = "Gemini".toList ∧ (cmd.method = "generateContent".toList ∨
    cmd.method = "generateText".toList ∨ cmd.method = "countTokens".toList)

def action (method : Text) : Text :=
  if method = "countTokens".toList then "countTokens".toList else "generateContent".toList

def role (method : Text) : List (Text × Json) :=
  if method = "countTokens".toList then [] else [("role".toList, .ofText "user".toList)]

namespace Prompt

end Prompt

namespace Client

variable {c : Client} {key path : Text} {cmd : Command} {b : Backend} {s : Session}

theorem post_eq {α : Type} {suffix : Text} (hkey : c.Holds key)
    (hbase : PlainAddress c.baseUrl path) (hsuffix : PlainPath suffix) (body : Json)
    (read? : Json → Option α) (b : Backend) :
    c.post suffix body read? b = (Backend.send ⟨.post, c.address suffix,
      Text.dropEndWhile (· == '/') path ++ '/' :: suffix, key, c.userAgent, some body⟩ b).map
        (readReply read?) id := by
  have haddress : Url.Target.ofAddress? (c.address suffix) =
      some ⟨Text.dropEndWhile (· == '/') path ++ '/' :: suffix, none⟩ := by
    rw [address, hbase.dropEndSlashes.ofAddress?_whole hsuffix.whole, hsuffix.percent_eq]
  exact hkey.sends.post_eq haddress body read? b

theorem generateContent_snd (model query : Text) : (c.generateContent model query b).2 =
    (c.post (methodPath model "generateContent".toList)
      (contents [("role".toList, .ofText "user".toList)] query) Generation.ofJson? b).2 := by
  simp only [generateContent, bind, StateT.bind]
  generalize c.post _ _ Generation.ofJson? b = run
  obtain ⟨result, after⟩ := run
  cases result with
  | error e => rfl
  | ok g =>
    dsimp only
    cases g.text with
    | error reason => rfl
    | ok text => rfl

theorem lookup?_registry (provider method : Text) : c.registry.lookup? provider method =
    if provider = "Gemini".toList then
      if method = "countTokens".toList then some c.counting
      else if method = "generateText".toList ∨ method = "generateContent".toList then
        some c.generating
      else none
    else none := by
  have hkey (m : Text) :
      (Gemini.provider, m) = (provider, method) ↔ provider = "Gemini".toList ∧ method = m := by
    rw [Prod.mk.injEq, eq_comm, eq_comm (a := m)]
    rfl
  simp only [registry, registerOn, Registry.lookup?_register, Slot.key, Registry.lookup?_empty,
    hkey]
  by_cases hp : provider = "Gemini".toList
  · simp only [hp, true_and, if_true]
    by_cases ht : method = "generateText".toList
    · simp only [ht, true_or, if_true]
    · simp only [ht, false_or, if_false]
  · simp only [hp, false_and, if_false]

theorem lookup?_counting (hserved : Served cmd) (hmethod : cmd.method = "countTokens".toList) :
    c.registry.lookup? cmd.provider cmd.method = some c.counting := by
  rw [lookup?_registry, if_pos hserved.1, if_pos hmethod]

theorem lookup?_generating (hserved : Served cmd) (hmethod : cmd.method ≠ "countTokens".toList) :
    c.registry.lookup? cmd.provider cmd.method = some c.generating := by
  have hgenerate : cmd.method = "generateText".toList ∨ cmd.method = "generateContent".toList :=
    (hserved.2.imp_right fun h => h.resolve_right hmethod).symm
  rw [lookup?_registry, if_pos hserved.1, if_neg hmethod, if_pos hgenerate]

theorem execute_of_not_served (h : ¬ Served cmd) (b : Backend) :
    (c.registry.execute cmd b).2 = b := by
  have hnone : c.registry.lookup? cmd.provider cmd.method = none := by
    rw [lookup?_registry]
    by_cases hp : cmd.provider = "Gemini".toList
    · have hm : ¬ (cmd.method = "generateContent".toList ∨ cmd.method = "generateText".toList ∨
          cmd.method = "countTokens".toList) := fun hm => h ⟨hp, hm⟩
      simp only [not_or] at hm
      obtain ⟨hcontent, htext, hcount⟩ := hm
      rw [if_pos hp, if_neg hcount, if_neg (not_or.mpr ⟨htext, hcontent⟩)]
    · rw [if_neg hp]
  simp only [Registry.execute, hnone]
  rfl

def call (c : Client) (key path : Text) (cmd : Command) : Request :=
  ⟨.post, c.address (methodPath cmd.model (action cmd.method)),
    Text.dropEndWhile (· == '/') path ++ '/' :: methodPath cmd.model (action cmd.method), key,
    c.userAgent, some (contents (role cmd.method) cmd.query)⟩

def slashedClient : Client := ⟨"http://h/v1//".toList, some "k".toList, 1, 100, none⟩

theorem plainAddress_slashed : PlainAddress slashedClient.baseUrl "/v1//".toList where
  origin := by
    refine ⟨[], "http:".toList, "//".toList, ['h'], List.forall_mem_nil _, .inl (by decide),
      List.all_eq_true.mp (by decide), List.cons_ne_nil _ _, ?_, rfl⟩
    exact List.forall_mem_singleton.mpr ⟨by decide, by decide⟩
  rooted := .inr ⟨_, rfl⟩
  plain := by decide

def quotedSession : Session :=
  ⟨⟨[]⟩, " Gemini.a..b.generateText ( 'say \"x\"\n' )".toList, 0⟩

def quotedCommand : Command :=
  ⟨"Gemini".toList, "a..b".toList, "generateText".toList, "say \"x\"\n".toList⟩

theorem parse_quoted : Command.parse quotedSession.text = .ok quotedCommand := by decide +kernel

theorem served_quoted : Served quotedCommand := ⟨rfl, .inr (.inl rfl)⟩

def brokenBackend : Backend := .scripted [] .broken

theorem direct_broken : brokenBackend.Direct := by
  intro reply hreply
  rw [List.mem_singleton.mp hreply]
  rfl

end Client

end Gemini

end PromptLine
