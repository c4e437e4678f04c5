import PromptLine.Proofs.Catalog.Construction
import PromptLine.Proofs.Shell.Program
import PromptLine.Proofs.Text.Utf8

namespace PromptLine

namespace Shell

open Gemini (Client)

variable {c : Config} {entries : List Entry} {b after : Backend}

theorem hasApiKey_of_fetchModels (hlisted : (Client.ofConfig c).fetchModels b = (.ok entries, after)) :
    c.hasApiKey = true := by
  cases hkey : c.apiKey with
  | none =>
    have hnone : (Client.ofConfig c).key? = none := by simp [Client.key?, Client.ofConfig, hkey]
    simp only [Client.fetchModels, hnone] at hlisted
    cases hlisted
  | some key =>
    by_cases hempty : key = []
    · have hnone : (Client.ofConfig c).key? = none := by
        simp [Client.key?, Client.ofConfig, hkey, hempty]
      simp only [Client.fetchModels, hnone] at hlisted
      cases hlisted
    · simp [Config.hasApiKey, hkey, hempty]

theorem liveCatalog_eq (hlisted : (Client.ofConfig c).fetchModels b = (.ok entries, after)) :
    liveCatalog c b = (.ofEntries Gemini.provider entries, after) := by
  have hlisting : (Client.ofConfig c).listing b = (⟨Gemini.provider, .ok entries⟩, after) := by
    simp only [Client.listing, bind, StateT.bind, hlisted]
    rfl
  simp only [liveCatalog, hasApiKey_of_fetchModels hlisted, if_true, bind, StateT.bind, hlisting]
  rfl

theorem models_json (hlisted : (Client.ofConfig c).fetchModels b = (.ok entries, after)) :
    models true c b =
      (.printedJson (Entry.listToJson (Catalog.ofEntries c.provider entries).entries), after) := by
  simp only [models, bind, StateT.bind, hlisted]
  rfl

theorem readCatalog_printed {files : Files} {path : Text} (catalog : Catalog)
    (hfile : files path =
      .ok (Utf8.encode (Ending.printedJson (Entry.listToJson catalog.entries)).output)) :
    readCatalog files catalog.provider path = .ok catalog := by
  have htext : files.readText path =
      .ok (Ending.printedJson (Entry.listToJson catalog.entries)).output := by
    simp only [Files.readText, hfile, Utf8.decode?_encode]
  have hentries : (Json.read? (Ending.printedJson (Entry.listToJson catalog.entries)).output).bind
      Entry.listOfJson? = some catalog.entries := by
    rw [read?_printedJson (Entry.spelled_listToJson catalog.entries), Option.bind_some,
      Entry.listOfJson?_listToJson]
  simp only [readCatalog, htext, hentries, Catalog.ofEntries_entries]

theorem complete_congr (text : Text) (cursor : Option Nat) (json : Bool) (catalog : Catalog)
    (c c' : Config) : complete text cursor json catalog c = complete text cursor json catalog c' :=
  rfl

theorem saved_catalog_completes_alike {h h' live : Host} {args args' argsLive : List Text}
    {c c' cLive : Config} {text path : Text} {cursor : Option Nat} {json : Bool}
    {b bLive : Backend} {entries : List Entry} {printed : Ending}
    (hmodels : Connects h args (.models true) c)
    (hsaved : Connects h' args' (.complete text cursor (some path) json) c')
    (hlive : Connects live argsLive (.complete text cursor none json) cLive)
    (hlisted : ((Client.ofConfig c).fetchModels b).1 = .ok entries)
    (hlistedLive : ((Client.ofConfig cLive).fetchModels bLive).1 = .ok entries)
    (hprinted : (program? h args b).1 = some printed)
    (hfile : h'.files path = .ok (Utf8.encode printed.output)) (b' : Backend) :
    printed.code = 0 ∧
    ∃ ending, ending = complete text cursor json (.ofEntries Gemini.provider entries) cLive ∧
      (program? live argsLive bLive).1 = some ending ∧ program? h' args' b' = (some ending, b') := by
  have hlist : (Client.ofConfig c).fetchModels b =
      (.ok entries, ((Client.ofConfig c).fetchModels b).2) := Prod.ext hlisted rfl
  have hlistLive : (Client.ofConfig cLive).fetchModels bLive =
      (.ok entries, ((Client.ofConfig cLive).fetchModels bLive).2) := Prod.ext hlistedLive rfl
  rw [hmodels.program?_models, models_json hlist, hmodels.provider_eq] at hprinted
  obtain rfl := Option.some.inj hprinted
  have hcatalog := readCatalog_printed (.ofEntries Gemini.provider entries) hfile
  have hprovider : (Catalog.ofEntries Gemini.provider entries).provider = c'.provider :=
    hsaved.provider_eq.symm
  rw [hprovider] at hcatalog
  refine ⟨rfl, _, rfl, ?_, ?_⟩
  · rw [hlive.program?_complete_live, liveCatalog_eq hlistLive]
  · rw [hsaved.program?_complete_saved hcatalog, complete_congr text cursor json _ cLive c']

def twiceListed : Backend :=
  .scripted [] (.answer 200 (Utf8.encode ("\x7b\"models\":[\x7b\"name\":\"models/m\"\x7d,".toList ++
    "\x7b\"name\":\"m\",\"displayName\":\"M\",\"supportedGenerationMethods\":[\"f\"]\x7d,".toList ++
    "\x7b\"name\":\"é\\n\",\"displayName\":\"\\u0007\",".toList ++
    "\"supportedGenerationMethods\":[\"f\"]\x7d]\x7d".toList)) none)

def listedTwice : List Entry :=
  [⟨['m'], none, []⟩, ⟨['m'], some ['M'], [['f']]⟩, ⟨['é', '\n'], some [Char.ofNat 7], [['f']]⟩]

def savedHost : Host where
  files path :=
    if path = "m.json".toList then
      .ok (Utf8.encode (Ending.printedJson (Entry.listToJson
        [⟨['m'], none, []⟩, ⟨['é', '\n'], some [Char.ofNat 7], [['f']]⟩])).output)
    else .error .notFound
  depth := 0
  environment := []
  accountHome := some "/h".toList

theorem repeated_name_is_saved : ∃ ending,
    (program? keyedHost (["complete", "Gemini.", "--cursor=7"].map String.toList) twiceListed).1 =
      some ending ∧
    program? savedHost (["complete", "Gemini.", "--cursor=7", "--catalog", "m.json"].map
      String.toList) twiceListed = (some ending, twiceListed) := by
  have hmodels : Connects keyedHost (["models", "--json"].map String.toList) (.models true)
      { Config.default with apiKey := some ['k'] } := ⟨none, by decide +kernel, by decide +kernel⟩
  have hlive : Connects keyedHost (["complete", "Gemini.", "--cursor=7"].map String.toList)
      (.complete "Gemini.".toList (some 7) none false) { Config.default with apiKey := some ['k'] } :=
    ⟨none, by decide +kernel, by decide +kernel⟩
  have hsaved : Connects savedHost (["complete", "Gemini.", "--cursor=7", "--catalog",
      "m.json"].map String.toList) (.complete "Gemini.".toList (some 7) (some "m.json".toList) false)
      Config.default := ⟨none, by decide +kernel, by decide +kernel⟩
  have hlisted : ((Client.ofConfig { Config.default with apiKey := some ['k'] }).fetchModels
      twiceListed).1 = .ok listedTwice := by decide +kernel
  have hprinted : (program? keyedHost (["models", "--json"].map String.toList) twiceListed).1 =
      some (.printedJson (Entry.listToJson
        [⟨['m'], none, []⟩, ⟨['é', '\n'], some [Char.ofNat 7], [['f']]⟩])) := by decide +kernel
  obtain ⟨_, ending, _, hlive, hsaved⟩ :=
    saved_catalog_completes_alike hmodels hsaved hlive hlisted hlisted hprinted rfl twiceListed
  exact ⟨ending, hlive, hsaved⟩

end Shell

end PromptLine
