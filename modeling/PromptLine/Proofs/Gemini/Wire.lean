import PromptLine.Gemini.Wire
import PromptLine.Proofs.Json.Record

namespace PromptLine.Gemini

open Json (IsText IsNat text?_eq_some_iff nat?_eq_some_iff)

variable {v : Json}

def IsRefusal (v : Json) (r : Refusal) : Prop :=
  ∃ outer, Json.fields? false ["error".toList] v = some outer ∧ outer.Required "error".toList
    (fun v r => ∃ fields,
      Json.fields? false (["code", "message", "status"].map String.toList) v = some fields ∧
        fields.Optional "code".toList (IsNat UInt16.size) r.code ∧
        fields.Required "message".toList IsText r.message ∧
        fields.Optional "status".toList IsText r.status) r

theorem isRefusal_iff {r : Refusal} : Refusal.ofJson? v = some r ↔ IsRefusal v r := by
  simp only [Refusal.ofJson?, IsRefusal, Option.bind_eq_bind, Option.bind_eq_some_iff]
  refine exists_congr fun outer => and_congr_right fun _ =>
    Json.Fields.required?_eq_some_iff fun v r => ?_
  simp only [Option.bind_eq_some_iff, Json.Fields.optional?_eq_some_iff fun _ _ => nat?_eq_some_iff,
    Json.Fields.optional?_eq_some_iff fun _ _ => text?_eq_some_iff,
    Json.Fields.required?_eq_some_iff fun _ _ => text?_eq_some_iff]
  constructor
  · rintro ⟨fields, hfields, code, hcode, message, hmessage, status, hstatus, hr⟩
    obtain rfl := Option.some.inj hr
    exact ⟨fields, hfields, hcode, hmessage, hstatus⟩
  · rintro ⟨fields, hfields, hcode, hmessage, hstatus⟩
    exact ⟨fields, hfields, _, hcode, _, hmessage, _, hstatus, rfl⟩

def IsPart (v : Json) (text : Option Text) : Prop :=
  ∃ fields, Json.fields? false ["text".toList] v = some fields ∧
    fields.Optional "text".toList IsText text

theorem isPart_iff {text : Option Text} : Choice.partOfJson? v = some text ↔ IsPart v text := by
  simp only [Choice.partOfJson?, IsPart, Option.bind_eq_bind, Option.bind_eq_some_iff,
    Json.Fields.optional?_eq_some_iff fun _ _ => text?_eq_some_iff]

def IsContent (v : Json) (parts : List (Option Text)) : Prop :=
  ∃ fields, Json.fields? false ["parts".toList] v = some fields ∧
    fields.Defaulted "parts".toList IsPart parts

theorem isContent_iff {parts : List (Option Text)} :
    Choice.contentOfJson? v = some parts ↔ IsContent v parts := by
  simp only [Choice.contentOfJson?, IsContent, Option.bind_eq_bind, Option.bind_eq_some_iff,
    Json.Fields.defaulted?_eq_some_iff fun _ _ => isPart_iff]

def IsChoice (v : Json) (choice : Choice) : Prop :=
  ∃ fields content, Json.fields? false (["content", "finishReason"].map String.toList) v =
      some fields ∧
    fields.Optional "content".toList IsContent content ∧ choice.parts = content.getD [] ∧
    fields.Optional "finishReason".toList IsText choice.finishReason

theorem isChoice_iff {choice : Choice} : Choice.ofJson? v = some choice ↔ IsChoice v choice := by
  simp only [Choice.ofJson?, IsChoice, Option.bind_eq_bind, Option.bind_eq_some_iff,
    Json.Fields.optional?_eq_some_iff fun _ _ => isContent_iff,
    Json.Fields.optional?_eq_some_iff fun _ _ => text?_eq_some_iff]
  constructor
  · rintro ⟨fields, hfields, content, hcontent, reason, hreason, hchoice⟩
    obtain rfl := Option.some.inj hchoice
    exact ⟨fields, content, hfields, hcontent, rfl, hreason⟩
  · rintro ⟨fields, content, hfields, hcontent, hparts, hreason⟩
    exact ⟨fields, hfields, content, hcontent, _, hreason, by rw [← hparts]; rfl⟩

def IsFeedback (v : Json) (reason : Option Text) : Prop :=
  ∃ fields, Json.fields? false ["blockReason".toList] v = some fields ∧
    fields.Optional "blockReason".toList IsText reason

theorem isFeedback_iff {reason : Option Text} :
    Generation.feedbackOfJson? v = some reason ↔ IsFeedback v reason := by
  simp only [Generation.feedbackOfJson?, IsFeedback, Option.bind_eq_bind, Option.bind_eq_some_iff,
    Json.Fields.optional?_eq_some_iff fun _ _ => text?_eq_some_iff]

def IsGeneration (v : Json) (g : Generation) : Prop :=
  ∃ fields feedback, Json.fields? false (["candidates", "promptFeedback"].map String.toList) v =
      some fields ∧
    fields.Defaulted "candidates".toList IsChoice g.choices ∧
    fields.Optional "promptFeedback".toList IsFeedback feedback ∧ g.blockReason = feedback.bind id

theorem isGeneration_iff {g : Generation} : Generation.ofJson? v = some g ↔ IsGeneration v g := by
  simp only [Generation.ofJson?, IsGeneration, Option.bind_eq_bind, Option.bind_eq_some_iff,
    Json.Fields.defaulted?_eq_some_iff fun _ _ => isChoice_iff,
    Json.Fields.optional?_eq_some_iff fun _ _ => isFeedback_iff]
  constructor
  · rintro ⟨fields, hfields, choices, hchoices, feedback, hfeedback, hg⟩
    obtain rfl := Option.some.inj hg
    exact ⟨fields, feedback, hfields, hchoices, hfeedback, rfl⟩
  · rintro ⟨fields, feedback, hfields, hchoices, hfeedback, hreason⟩
    exact ⟨fields, hfields, _, hchoices, feedback, hfeedback, by rw [← hreason]; rfl⟩

end PromptLine.Gemini
