import PromptLine.Proofs.Json.Document
import PromptLine.Proofs.Session.Running
import PromptLine.Shell.Run

namespace PromptLine.Shell

variable {h : Host} {args : List Text} {task : Task} {c : Config} {b : Backend}

def Connects (h : Host) (args : List Text) (task : Task) (c : Config) : Prop :=
  ∃ file, Invocation.ofArguments args = .ok ⟨file, task⟩ ∧ configure h.withDotenv file = .ok c

theorem program?_eq {file : Option Text} (hargs : Invocation.ofArguments args = .ok ⟨file, task⟩)
    (h : Host) (b : Backend) :
    program? h args b = (perform h.withDotenv file task b).map some id := by
  simp only [program?, hargs]
  rfl

theorem provider_of_configure {file : Option Text} (hconfig : configure h file = .ok c) :
    c.provider = Gemini.provider := by
  simp only [configure] at hconfig
  split at hconfig
  · cases hconfig
  · split at hconfig
    · next hprovider =>
      cases hconfig
      exact hprovider
    · cases hconfig

theorem files_withDotenv (h : Host) : h.withDotenv.files = h.files := by
  unfold Host.withDotenv
  split
  · rfl
  · rfl

namespace Connects

theorem provider_eq (hrun : Connects h args task c) : c.provider = Gemini.provider := by
  obtain ⟨_, _, hconfig⟩ := hrun
  exact provider_of_configure hconfig

theorem program?_run {command : Text} (hrun : Connects h args (.run command) c) :
    program? h args b = (run command c b).map some id := by
  obtain ⟨file, hargs, hconfig⟩ := hrun
  rw [program?_eq hargs, perform, hconfig]

theorem program?_models {json : Bool} (hrun : Connects h args (.models json) c) :
    program? h args b = (models json c b).map some id := by
  obtain ⟨file, hargs, hconfig⟩ := hrun
  rw [program?_eq hargs, perform, hconfig]

theorem program?_complete_live {text : Text} {cursor : Option Nat} {json : Bool}
    (hrun : Connects h args (.complete text cursor none json) c) :
    program? h args b = (some (complete text cursor json (liveCatalog c b).1 c),
      (liveCatalog c b).2) := by
  obtain ⟨file, hargs, hconfig⟩ := hrun
  rw [program?_eq hargs, perform, hconfig]
  rfl

theorem program?_complete_saved {text path : Text} {cursor : Option Nat} {json : Bool}
    {catalog : Catalog} (hrun : Connects h args (.complete text cursor (some path) json) c)
    (hcatalog : readCatalog h.files c.provider path = .ok catalog) :
    program? h args b = (some (complete text cursor json catalog c), b) := by
  obtain ⟨file, hargs, hconfig⟩ := hrun
  rw [program?_eq hargs, perform, hconfig]
  simp only [files_withDotenv, hcatalog]
  rfl

end Connects

theorem read?_printedJson {v : Json} (hv : v.Spelled) :
    Json.read? (Ending.printedJson v).output = some v := by
  have houtput : (Ending.printedJson v).output = v.pretty ++ ['\n'] := List.append_nil _
  rw [houtput]
  exact Json.read?_pretty hv (List.forall_mem_singleton.mpr rfl)

def keyedHost : Host :=
  ⟨fun _ => .error .notFound, 1, [("HOME".toList, "/h".toList), ("GEMINI_API_KEY".toList, ['k'])],
    none⟩

end PromptLine.Shell
