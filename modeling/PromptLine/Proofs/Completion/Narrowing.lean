import Mathlib.Data.List.Basic
import PromptLine.Proofs.Completion.Candidate
import PromptLine.Proofs.Completion.Segments
import PromptLine.Proofs.Text.Lowercase

namespace PromptLine

open Text (StartsOff EndsOff EndsInSigma)

theorem Text.prefix_of_endsOff {s t u r : Text} (h : s ++ u = t ++ r) (hs : EndsOff isBlank s)
    (hr : ∀ c ∈ r, isBlank c = true) : s <+: t := by
  rcases List.append_eq_append_iff.mp h with ⟨more, ht, _⟩ | ⟨more, rfl, hmore⟩
  · exact ⟨more, ht.symm⟩
  · cases more using List.reverseRecOn with
    | nil => simp
    | append_singleton more c =>
      have hc : isBlank c = true := hr c (by rw [hmore]; simp)
      have hoff : isBlank c = false := hs.of_append c (by simp)
      rw [hc] at hoff
      cases hoff

namespace Context

variable {t s : Text} {ctx next : Context}

theorem front_congr (hprovider : next.provider = ctx.provider) (hmodel : next.model = ctx.model) :
    next.front = ctx.front := by
  rw [front, front, hprovider, hmodel]

theorem Reads.typed_prefix (h : Reads t ctx) (hnext : Reads (t ++ s) next)
    (hstage : next.stage = ctx.stage) (hprovider : next.provider = ctx.provider)
    (hmodel : next.model = ctx.model) : ctx.typed <+: next.typed := by
  by_cases hopen : '(' ∈ t
  · rw [(h.typed_of_arguments hopen).1]
    exact List.nil_prefix
  have hstill : '(' ∉ t ++ s := by
    intro hopen'
    have harguments : next.stage = .arguments :=
      hnext.stage_eq_iff.mpr (show Stage.arguments.Fits (t ++ s) from hopen')
    have hopen'' : Stage.arguments.Fits t := h.stage_eq_iff.mp (hstage.symm.trans harguments)
    exact hopen hopen''
  obtain ⟨lead, trail, hframed, _⟩ := h.framed hopen
  obtain ⟨lead', trail', hframed', _⟩ := hnext.framed hstill
  rw [front_congr hprovider hmodel] at hframed'
  by_cases hnil : ctx.front ++ ctx.typed = []
  · rw [(List.append_eq_nil_iff.mp hnil).2]
    exact List.nil_prefix
  have hbegins : Text.trimStart (t ++ s) = ctx.front ++ ctx.typed ++ (trail ++ s) := by
    refine Text.trimStart_eq_iff.mpr ⟨lead, by simp [hframed.eq], hframed.lead_blank, ?_⟩
    exact Text.startsOff_append hframed.starts fun he => absurd he hnil
  have hsame : ctx.typed ++ (trail ++ s) = next.typed ++ trail' := by
    rw [hframed'.trimStart_eq, List.append_assoc, List.append_assoc] at hbegins
    exact (List.append_cancel_left hbegins).symm
  exact Text.prefix_of_endsOff hsame hframed.ends.of_append hframed'.trail_blank

end Context

/-- What is typed further takes a capital sigma that ends the typed segment from the end of its
word, so that the segment has another lower case than before. -/
def Context.Reopens (ctx : Context) (more : Text) : Prop :=
  EndsInSigma [] ctx.typed ∧ Text.meetsCased more = true

theorem Context.admits_iff_of_admits {ctx next : Context} {more value : Text}
    (htyped : next.typed = ctx.typed ++ more) (h : next.admits value = true) :
    ctx.admits value = true ↔ ¬ ctx.Reopens more := by
  rw [admits, htyped, List.isPrefixOf_iff_prefix] at h
  rw [admits, List.isPrefixOf_iff_prefix]
  exact Text.lower_prefix_iff h

namespace Completer

variable {k : Completer} {catalog : Catalog} {ctx next : Context} {t s : Text}

theorem values_congr (hstage : next.stage = ctx.stage) (hprovider : next.provider = ctx.provider)
    (hmodel : next.model = ctx.model) : k.values next catalog = k.values ctx catalog := by
  rw [values, values, hstage, hprovider, hmodel]

def offered (k : Completer) (t : Text) (catalog : Catalog) : List Text :=
  (k.complete t t.length catalog).candidates.map Candidate.label

theorem offered_eq : k.offered t catalog =
    ((k.values (Context.resolve t t.length) catalog).1.map Prod.fst).filter
      (Context.resolve t t.length).admits := by
  rw [offered, complete, candidates, List.map_map, List.filter_map]
  rfl

theorem typing_on_narrows (k : Completer) (catalog : Catalog)
    (hstage : (Context.resolve (t ++ s) (t ++ s).length).stage = (Context.resolve t t.length).stage)
    (hprovider : (Context.resolve (t ++ s) (t ++ s).length).provider =
      (Context.resolve t t.length).provider)
    (hmodel : (Context.resolve (t ++ s) (t ++ s).length).model =
      (Context.resolve t t.length).model) :
    ∃ more, (Context.resolve (t ++ s) (t ++ s).length).typed =
        (Context.resolve t t.length).typed ++ more ∧
      (¬ (Context.resolve t t.length).Reopens more →
        (k.offered (t ++ s) catalog).Sublist (k.offered t catalog)) ∧
      ((Context.resolve t t.length).Reopens more →
        ∀ label ∈ k.offered (t ++ s) catalog, label ∉ k.offered t catalog) := by
  have hreads := Context.reads_resolve t t.length
  have hnext := Context.reads_resolve (t ++ s) (t ++ s).length
  rw [List.take_length] at hreads hnext
  obtain ⟨more, hmore⟩ := hreads.typed_prefix hnext hstage hprovider hmodel
  refine ⟨more, hmore.symm, fun hkept => ?_, fun hreopens label hlabel hbefore => ?_⟩
  · rw [offered_eq, offered_eq, values_congr hstage hprovider hmodel]
    refine List.monotone_filter_right _ fun value hvalue => ?_
    exact (Context.admits_iff_of_admits hmore.symm hvalue).mpr hkept
  · rw [offered_eq, List.mem_filter] at hlabel hbefore
    exact (Context.admits_iff_of_admits hmore.symm hlabel.2).mp hbefore.2 hreopens

def greekCatalog : Catalog :=
  .ofEntries "G".toList [⟨"Σίσυφος".toList, none, []⟩, ⟨"ΣΊΓΜΑ".toList, none, []⟩]

theorem sigma_inside_narrows :
    (Completer.offered ⟨["G".toList]⟩ "G.σΊΣΥ".toList greekCatalog).Sublist
      (Completer.offered ⟨["G".toList]⟩ "G.σΊ".toList greekCatalog) := by
  obtain ⟨more, _, hnarrows, _⟩ := typing_on_narrows (t := "G.σΊ".toList) (s := "ΣΥ".toList)
    ⟨["G".toList]⟩ greekCatalog (by decide) (by decide) (by decide)
  refine hnarrows fun hreopens => absurd hreopens.1 ?_
  decide

/-- The provider begins with what is typed each time. Where that ends in a sigma, the lower case of
the sigma is that of the end of a word, which it is not in the provider. -/
theorem final_sigma_hides_a_provider :
    (offered ⟨["ΑΣΑ".toList]⟩ "Α".toList (.empty []) = ["ΑΣΑ".toList] ∧
      offered ⟨["ΑΣΑ".toList]⟩ "ΑΣ".toList (.empty []) = [] ∧
      offered ⟨["ΑΣΑ".toList]⟩ "ΑΣΑ".toList (.empty []) = ["ΑΣΑ".toList]) ∧
    ¬ ∀ (k : Completer) (catalog : Catalog) (t s : Text),
      (Context.resolve (t ++ s) (t ++ s).length).stage = (Context.resolve t t.length).stage →
      (Context.resolve (t ++ s) (t ++ s).length).provider =
        (Context.resolve t t.length).provider →
      (Context.resolve (t ++ s) (t ++ s).length).model = (Context.resolve t t.length).model →
      (k.offered (t ++ s) catalog).Sublist (k.offered t catalog) := by
  have hfirst : offered ⟨["ΑΣΑ".toList]⟩ "Α".toList (.empty []) = ["ΑΣΑ".toList] := by
    decide +kernel
  have hhidden : offered ⟨["ΑΣΑ".toList]⟩ "ΑΣ".toList (.empty []) = [] := by decide +kernel
  have hagain : offered ⟨["ΑΣΑ".toList]⟩ ("ΑΣ".toList ++ "Α".toList) (.empty []) =
      ["ΑΣΑ".toList] := by decide +kernel
  refine ⟨⟨hfirst, hhidden, hagain⟩, fun h => ?_⟩
  have hnarrows := h ⟨["ΑΣΑ".toList]⟩ (.empty []) "ΑΣ".toList "Α".toList (by decide) (by decide)
    (by decide)
  rw [hagain, hhidden, List.sublist_nil] at hnarrows
  cases hnarrows

end Completer

end PromptLine
