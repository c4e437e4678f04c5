import PromptLine.Catalog.Document
import PromptLine.Command.Document
import PromptLine.Proofs.Json.Reading

namespace PromptLine

namespace Json

theorem list?_map {α : Type} {item? : Json → Option α} {write : α → Json}
    (h : ∀ a, item? (write a) = some a) (l : List α) :
    list? item? (.array (l.map write)) = some l := by
  induction l with
  | nil => rfl
  | cons a l ih =>
    simp only [list?] at ih
    simp [list?, h, ih]

def MemberSpelled (m : Text × Json) : Prop := spell m.1 = m.1 ∧ m.2.Spelled

theorem Spelled.of_members {members : List (Text × Json)} (h : ∀ m ∈ members, MemberSpelled m) :
    (Json.object members).Spelled := by
  refine .object (fun m hm => ?_) fun m hm => (h m hm).2
  rw [← (h m hm).1]
  exact inQuotes_spell m.1

theorem memberSpelled_ofText {name : Text} (h : spell name = name) (t : Text) :
    MemberSpelled (name, ofText t) := ⟨h, spelled_ofText t⟩

theorem memberSpelled_of_mem_memberOfText? {name : Text} (h : spell name = name)
    (t : Option Text) : ∀ m ∈ memberOfText? name t, MemberSpelled m := by
  cases t with
  | none => exact fun m hm => absurd hm List.not_mem_nil
  | some t => exact List.forall_mem_singleton.mpr (memberSpelled_ofText h t)

end Json

open Json (memberSpelled_ofText memberSpelled_of_mem_memberOfText?)

namespace Command

theorem spelled_toJson (c : Command) : c.toJson.Spelled := by
  refine .of_members ?_
  simp only [List.forall_mem_cons]
  exact ⟨memberSpelled_ofText rfl _, memberSpelled_ofText rfl _, memberSpelled_ofText rfl _,
    memberSpelled_ofText rfl _, by simp⟩

theorem ofJson?_toJson (c : Command) : ofJson? c.toJson = some c := by
  have hfields : ofJson? c.toJson = (do
      let provider ← Json.text? (.ofText c.provider)
      let model ← Json.text? (.ofText c.model)
      let method ← Json.text? (.ofText c.method)
      let query ← Json.text? (.ofText c.query)
      return ⟨provider, model, method, query⟩) := rfl
  rw [hfields]
  simp only [Json.text?_ofText]
  rfl

end Command

namespace Entry

theorem spelled_toJson (e : Entry) : e.toJson.Spelled := by
  have hactions : (Json.array (e.actions.map Json.ofText)).Spelled :=
    .array (List.forall_mem_map.mpr fun action _ => Json.spelled_ofText action)
  refine .of_members ?_
  simp only [List.forall_mem_append, List.forall_mem_singleton]
  exact ⟨⟨memberSpelled_ofText rfl _, memberSpelled_of_mem_memberOfText? rfl _⟩, rfl, hactions⟩

theorem ofJson?_toJson (e : Entry) : ofJson? e.toJson = some e := by
  obtain ⟨name, displayName, actions⟩ := e
  have hactions := Json.list?_map Json.text?_ofText actions
  cases displayName with
  | none =>
    have hfields : ofJson? (toJson ⟨name, none, actions⟩) = (do
        let name ← Json.text? (.ofText name)
        let actions ← Json.list? Json.text? (.array (actions.map .ofText))
        return ⟨name, none, actions⟩) := rfl
    rw [hfields, Json.text?_ofText, hactions]
    rfl
  | some t =>
    have hfields : ofJson? (toJson ⟨name, some t, actions⟩) = (do
        let name ← Json.text? (.ofText name)
        let displayName ← (Json.text? (.ofText t)).map some
        let actions ← Json.list? Json.text? (.array (actions.map .ofText))
        return ⟨name, displayName, actions⟩) := rfl
    rw [hfields, Json.text?_ofText, Json.text?_ofText, hactions]
    rfl

theorem spelled_listToJson (entries : List Entry) : (listToJson entries).Spelled :=
  .array (List.forall_mem_map.mpr fun e _ => e.spelled_toJson)

theorem listOfJson?_listToJson (entries : List Entry) :
    listOfJson? (listToJson entries) = some entries := Json.list?_map ofJson?_toJson entries

end Entry

end PromptLine
