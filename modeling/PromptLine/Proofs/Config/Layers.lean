import PromptLine.Config.Loader
import PromptLine.Proofs.Text.Decimal
import PromptLine.Proofs.Text.Ends

namespace PromptLine

def First {α β : Type} (p : α → β → Prop) : List α → β → Prop
  | [], _ => False
  | a :: rest, b => p a b ∨ (∀ b', ¬ p a b') ∧ First p rest b

namespace Environment

variable {env : Environment} {name value : Text} {names : List Text}

def Sets (env : Environment) (name value : Text) : Prop :=
  env.lookup name = some value ∧ ∃ c ∈ value, isBlank c = false

theorem value?_eq_some_iff : env.value? name = some value ↔ env.Sets name value := by
  rw [value?, Option.filter_eq_some_iff, Sets]
  refine and_congr_right fun _ => ?_
  rw [Bool.not_eq_true', List.isEmpty_eq_false_iff, ne_eq, Text.trim_eq_nil_iff]
  simp only [not_forall, Bool.not_eq_true, exists_prop]

theorem value?_eq_none_iff : env.value? name = none ↔ ∀ v, ¬ env.Sets name v := by
  simp only [Option.eq_none_iff_forall_ne_some, ne_eq, value?_eq_some_iff]

theorem findSome?_eq_some_iff :
    names.findSome? env.value? = some value ↔ First env.Sets names value := by
  induction names with
  | nil => simp [First]
  | cons name rest ih =>
    rw [List.findSome?_cons, First, ← value?_eq_none_iff, ← value?_eq_some_iff, ← ih]
    cases env.value? name with
    | none => simp
    | some v => simp

theorem findSome?_eq_none_iff :
    names.findSome? env.value? = none ↔ ∀ v, ¬ First env.Sets names v := by
  simp only [Option.eq_none_iff_forall_ne_some, ne_eq, findSome?_eq_some_iff]

end Environment

inductive Setting where
  | provider
  | apiKey
  | baseUrl
  | pageSize
  | maxOutputBytes
  | requestTimeout
  deriving DecidableEq, Repr

namespace Setting

inductive Value where
  | text (t : Text)
  | number (n : Nat)
  deriving DecidableEq, Repr

def bound? : Setting → Option Nat
  | .provider => none
  | .apiKey => none
  | .baseUrl => none
  | .pageSize => some UInt32.size
  | .maxOutputBytes => some UInt64.size
  | .requestTimeout => some UInt64.size

def key : Setting → Text
  | .provider => "provider".toList
  | .apiKey => "api_key".toList
  | .baseUrl => "base_url".toList
  | .pageSize => "page_size".toList
  | .maxOutputBytes => "max_output_bytes".toList
  | .requestTimeout => "request_timeout_secs".toList

def suffix : Setting → Text
  | .provider => "PROVIDER".toList
  | .apiKey => "API_KEY".toList
  | .baseUrl => "BASE_URL".toList
  | .pageSize => "PAGE_SIZE".toList
  | .maxOutputBytes => "MAX_OUTPUT_BYTES".toList
  | .requestTimeout => "REQUEST_TIMEOUT_SECS".toList

def sources (stem : Text) (s : Setting) : List Text :=
  (stem ++ '_' :: s.suffix) :: if s = .apiKey then ["GEMINI_API_KEY".toList] else []

def Reads (s : Setting) (t : Text) (v : Value) : Prop :=
  match s.bound? with
  | none => v = .text t
  | some bound => ∃ n, Decimal.WritesSigned (Text.trim t) n ∧ n < bound ∧ v = .number n

def Takes (s : Setting) (w : Toml.Value) (v : Value) : Prop :=
  match s.bound? with
  | none => ∃ t, w = .string t ∧ v = .text t
  | some bound => ∃ n : Nat, w = .integer n ∧ n < bound ∧ v = .number n

def ofLayer (l : Layer) : Setting → Option Value
  | .provider => l.provider.map .text
  | .apiKey => l.apiKey.map .text
  | .baseUrl => l.baseUrl.map .text
  | .pageSize => l.pageSize.map .number
  | .maxOutputBytes => l.maxOutputBytes.map .number
  | .requestTimeout => l.requestTimeout.map .number

def ofConfig (c : Config) : Setting → Option Value
  | .provider => some (.text c.provider)
  | .apiKey => c.apiKey.map .text
  | .baseUrl => some (.text c.baseUrl)
  | .pageSize => some (.number c.pageSize)
  | .maxOutputBytes => some (.number c.maxOutputBytes)
  | .requestTimeout => some (.number c.requestTimeout)

theorem ofLayer_empty (s : Setting) : s.ofLayer .empty = none := by
  cases s <;> rfl

theorem ofLayer_overlay (base upper : Layer) (s : Setting) :
    s.ofLayer (base.overlay upper) = (s.ofLayer upper).or (s.ofLayer base) := by
  cases s <;> exact Option.map_or

theorem ofConfig_applyTo (l : Layer) (c : Config) (s : Setting) :
    s.ofConfig (l.applyTo c) = (s.ofLayer l).or (s.ofConfig c) := by
  have hvalue {α : Type} (f : α → Value) (o : Option α) (a : α) :
      some (f (o.getD a)) = (o.map f).or (some (f a)) := by
    cases o <;> rfl
  cases s with
  | provider => exact hvalue .text _ _
  | apiKey => exact Option.map_or
  | baseUrl => exact hvalue .text _ _
  | pageSize => exact hvalue .number _ _
  | maxOutputBytes => exact hvalue .number _ _
  | requestTimeout => exact hvalue .number _ _

theorem layer_ext {l l' : Layer} (h : ∀ s : Setting, s.ofLayer l = s.ofLayer l') : l = l' := by
  have htext : Function.Injective (Option.map Value.text) :=
    Option.map_injective fun _ _ => Value.text.inj
  have hnumber : Function.Injective (Option.map Value.number) :=
    Option.map_injective fun _ _ => Value.number.inj
  cases l
  cases l'
  rw [Layer.mk.injEq]
  exact ⟨htext (h .provider), htext (h .apiKey), htext (h .baseUrl),
    hnumber (h .pageSize), hnumber (h .maxOutputBytes), hnumber (h .requestTimeout)⟩

theorem config_ext {c c' : Config} (h : ∀ s : Setting, s.ofConfig c = s.ofConfig c') : c = c' := by
  obtain ⟨provider, apiKey, baseUrl, pageSize, maxOutputBytes, requestTimeout⟩ := c
  have htext (x y : Text) (hxy : some (Value.text x) = some (.text y)) : x = y :=
    Value.text.inj (Option.some.inj hxy)
  have hnumber (m n : Nat) (hmn : some (Value.number m) = some (.number n)) : m = n :=
    Value.number.inj (Option.some.inj hmn)
  obtain rfl := htext _ _ (h .provider)
  obtain rfl := htext _ _ (h .baseUrl)
  obtain rfl := hnumber _ _ (h .pageSize)
  obtain rfl := hnumber _ _ (h .maxOutputBytes)
  obtain rfl := hnumber _ _ (h .requestTimeout)
  obtain rfl : apiKey = c'.apiKey :=
    Option.map_injective (fun _ _ => Value.text.inj) (h .apiKey)
  rfl

theorem reads_iff {s : Setting} {bound : Nat} (hs : s.bound? = some bound) {t : Text} {v : Value} :
    s.Reads t v ↔ ∃ n, Decimal.natural? bound (Text.trim t) = some n ∧ v = .number n := by
  simp only [Reads, hs, Decimal.natural?_eq_some_iff, and_assoc]

theorem Reads.unique {s : Setting} {t : Text} {v v' : Value} (h : s.Reads t v) (h' : s.Reads t v') :
    v = v' := by
  cases hb : s.bound? with
  | none =>
    simp only [Reads, hb] at h h'
    rw [h, h']
  | some bound =>
    obtain ⟨n, hn, rfl⟩ := (reads_iff hb).mp h
    obtain ⟨m, hm, rfl⟩ := (reads_iff hb).mp h'
    rw [Option.some.inj (hn.symm.trans hm)]

theorem Takes.unique {s : Setting} {w : Toml.Value} {v v' : Value} (h : s.Takes w v)
    (h' : s.Takes w v') : v = v' := by
  cases hb : s.bound? with
  | none =>
    simp only [Takes, hb] at h h'
    obtain ⟨t, rfl, rfl⟩ := h
    obtain ⟨u, hu, rfl⟩ := h'
    rw [Toml.Value.string.inj hu]
  | some bound =>
    simp only [Takes, hb] at h h'
    obtain ⟨n, rfl, _, rfl⟩ := h
    obtain ⟨m, hm, _, rfl⟩ := h'
    rw [Int.ofNat.inj (Toml.Value.integer.inj hm)]

def Gives {α : Type} (offers : α → Prop) (means : α → Value → Prop) : Option Value → Prop
  | none => ∀ a, ¬ offers a
  | some v => ∃ a, offers a ∧ means a v

theorem Gives.unique {α : Type} {offers : α → Prop} {means : α → Value → Prop}
    {o o' : Option Value} (h : Gives offers means o) (h' : Gives offers means o')
    (hone : ∀ a b, offers a → offers b → a = b)
    (hmeans : ∀ a v v', means a v → means a v' → v = v') : o = o' := by
  cases o with
  | none =>
    cases o' with
    | none => rfl
    | some v' =>
      obtain ⟨a, ha, _⟩ := h'
      exact absurd ha (h a)
  | some v =>
    obtain ⟨a, ha, hv⟩ := h
    cases o' with
    | none => exact absurd ha (h' a)
    | some v' =>
      obtain ⟨b, hb, hv'⟩ := h'
      rw [hone b a hb ha] at hv'
      rw [hmeans a v v' hv hv']

theorem gives_congr {α : Type} {offers offers' : α → Prop} {means : α → Value → Prop}
    {o : Option Value} (h : ∀ a, offers a ↔ offers' a) :
    Gives offers means o ↔ Gives offers' means o := by
  cases o <;> simp only [Gives, h]

end Setting

open Setting (Gives)

namespace Layer

variable {doc : Toml.Document} {s : Setting} {layer : Layer}

theorem textAt?_eq_some_iff (hs : s.bound? = none) {o : Option Text} :
    textAt? doc s.key = some o ↔
      Gives (fun w => doc.lookup s.key = some w) s.Takes (o.map .text) := by
  rw [textAt?]
  cases hw : doc.lookup s.key with
  | none => cases o <;> simp [Gives]
  | some w => cases w <;> cases o <;> simp [Gives, Setting.Takes, hs]

theorem natAt?_eq_some_iff {bound : Nat} (hs : s.bound? = some bound) {o : Option Nat} :
    natAt? bound doc s.key = some o ↔
      Gives (fun w => doc.lookup s.key = some w) s.Takes (o.map .number) := by
  rw [natAt?]
  cases hw : doc.lookup s.key with
  | none => cases o <;> simp [Gives]
  | some w =>
    cases w with
    | string t => cases o <;> simp [Gives, Setting.Takes, hs]
    | integer n =>
      by_cases hn : 0 ≤ n ∧ n < bound
      · obtain ⟨m, rfl⟩ := Int.eq_ofNat_of_zero_le hn.1
        have hm : m < bound := by omega
        cases o with
        | none => simp [Gives, hm]
        | some k =>
          simp [Gives, Setting.Takes, hs, hm]
          omega
      · cases o with
        | none => simp [Gives, hn]
        | some m =>
          simp only [Gives, Setting.Takes, hs, if_neg hn]
          simp
          omega

end Layer

end PromptLine
