import PromptLine.Json.Printer
import PromptLine.Json.Reader
import PromptLine.Proofs.Json.Spelling

namespace PromptLine.Json

inductive InQuotes : Text → Prop where
  | nil : InQuotes []
  | char {c : Char} {t : Text} : c ≠ '"' → c ≠ '\\' → 0x20 ≤ c.toNat → InQuotes t → InQuotes (c :: t)
  | escape {c : Char} {t : Text} : ['"', '\\', '/', 'b', 'f', 'n', 'r', 't'].contains c = true →
      InQuotes t → InQuotes ('\\' :: c :: t)
  | code {digits t : Text} : digits.length = 4 → (∀ c ∈ digits, (Hex.digit? c).isSome = true) →
      InQuotes t → InQuotes ('\\' :: 'u' :: (digits ++ t))

theorem InQuotes.append {s t : Text} (hs : InQuotes s) (ht : InQuotes t) : InQuotes (s ++ t) := by
  induction hs with
  | nil => exact ht
  | char hquote hslash hlow _ ih => exact .char hquote hslash hlow ih
  | escape hc _ ih => exact .escape hc ih
  | code hlength hhex _ ih =>
    rw [List.cons_append, List.cons_append, List.append_assoc]
    exact .code hlength hhex ih

theorem hex_padded : ∀ n < 0x20, (Hex.padded 4 n).length = 4 ∧
    ∀ c ∈ Hex.padded 4 n, (Hex.digit? c).isSome = true := by
  have hall : (List.range 0x20).all (fun n => (Hex.padded 4 n).length == 4 &&
      (Hex.padded 4 n).all fun c => (Hex.digit? c).isSome) = true := by decide
  intro n hn
  have hpadded := List.all_eq_true.mp hall n (List.mem_range.mpr hn)
  rwa [Bool.and_eq_true, beq_iff_eq, List.all_eq_true] at hpadded

theorem inQuotes_spellChar (c : Char) : InQuotes (spellChar c) := by
  rw [spellChar]
  split
  · exact .escape (by decide) .nil
  split
  · exact .escape (by decide) .nil
  split
  · exact .escape (by decide) .nil
  split
  · exact .escape (by decide) .nil
  split
  · exact .escape (by decide) .nil
  split
  · exact .escape (by decide) .nil
  split
  · exact .escape (by decide) .nil
  split
  · next h =>
    obtain ⟨hlength, hhex⟩ := hex_padded c.toNat h
    have hcode := InQuotes.code hlength hhex .nil
    rwa [List.append_nil] at hcode
  · next hquote hslash _ _ _ _ _ hlow => exact .char hquote hslash (Nat.le_of_not_lt hlow) .nil

theorem inQuotes_spell (t : Text) : InQuotes (spell t) := by
  induction t with
  | nil => exact .nil
  | cons c t ih =>
    rw [spell, List.flatMap_cons]
    exact (inQuotes_spellChar c).append ih

inductive Spelled : Json → Prop where
  | null : Spelled .null
  | bool (value : Bool) : Spelled (.bool value)
  | number {t : Text} : isNumber t = true → Spelled (.number t)
  | string {t : Text} : InQuotes t → Spelled (.string t)
  | array {items : List Json} : (∀ v ∈ items, Spelled v) → Spelled (.array items)
  | object {members : List (Text × Json)} : (∀ m ∈ members, InQuotes m.1) →
      (∀ m ∈ members, Spelled m.2) → Spelled (.object members)

theorem spelled_ofText (t : Text) : (ofText t).Spelled := .string (inQuotes_spell t)

mutual

def tokens : Json → List Token
  | .null => [.word "null".toList]
  | .bool true => [.word "true".toList]
  | .bool false => [.word "false".toList]
  | .number t => [.number t]
  | .string t => [.string t]
  | .array [] => [.openArray, .closeArray]
  | .array (item :: items) => .openArray :: tokens item ++ itemTokens items
  | .object [] => [.openObject, .closeObject]
  | .object ((key, v) :: members) =>
      [.openObject, .string key, .colon] ++ tokens v ++ memberTokens members

def itemTokens : List Json → List Token
  | [] => [.closeArray]
  | item :: items => .comma :: tokens item ++ itemTokens items

def memberTokens : List (Text × Json) → List Token
  | [] => [.closeObject]
  | (key, v) :: members => [.comma, .string key, .colon] ++ tokens v ++ memberTokens members

end

section

variable {fs : List Frame} {rest : List Token} {v : Json}

theorem build_firstItem (v : Json) : build .firstItem fs (tokens v ++ rest) =
    build .value (.array [] :: fs) (tokens v ++ rest) := by
  cases v with
  | null => rfl
  | bool value =>
    cases value with
    | false => rfl
    | true => rfl
  | number t => simp [tokens, build]
  | string t => rfl
  | array items =>
    cases items with
    | nil => rfl
    | cons item items => rfl
  | object members =>
    cases members with
    | nil => rfl
    | cons m members => rfl

theorem build_items {items : List Json} (fs : List Frame) (rest : List Token) (done : List Json)
    (last : Json)
    (h : ∀ v ∈ items, ∀ fs rest, build .value fs (tokens v ++ rest) = build (.after v) fs rest) :
    build (.after last) (.array done :: fs) (itemTokens items ++ rest) =
      build (.after (.array (done.reverse ++ last :: items))) fs rest := by
  -- A frame holds what was read in it last first, so the items done are carried turned round.
  induction items generalizing done last with
  | nil => simp [itemTokens, build]
  | cons item items ih =>
    have hitem := h item List.mem_cons_self
    have hitems := ih (last :: done) item fun v hv => h v (List.mem_cons_of_mem item hv)
    simp only [itemTokens, List.cons_append, List.append_assoc, build, hitem, hitems]
    simp

theorem build_members {members : List (Text × Json)} (fs : List Frame) (rest : List Token)
    (done : List (Text × Json)) (key : Text) (last : Json)
    (h : ∀ m ∈ members, ∀ fs rest, build .value fs (tokens m.2 ++ rest) =
      build (.after m.2) fs rest) :
    build (.after last) (.object done key :: fs) (memberTokens members ++ rest) =
      build (.after (.object (done.reverse ++ (key, last) :: members))) fs rest := by
  induction members generalizing done key last with
  | nil => simp [memberTokens, build]
  | cons m members ih =>
    obtain ⟨key', v⟩ := m
    have hvalue := h (key', v) List.mem_cons_self
    have hmembers := ih ((key, last) :: done) key' v fun m hm => h m (List.mem_cons_of_mem _ hm)
    simp only [memberTokens, List.cons_append, List.nil_append, List.append_assoc, build, hvalue,
      hmembers]
    simp

theorem build_tokens (h : v.Spelled) (fs : List Frame) (rest : List Token) :
    build .value fs (tokens v ++ rest) = build (.after v) fs rest := by
  induction h generalizing fs rest with
  | null => rfl
  | bool value =>
    cases value with
    | false => rfl
    | true => rfl
  | number ht => simp [tokens, build, ofToken?, ht]
  | string => rfl
  | @array items _ ih =>
    cases items with
    | nil => rfl
    | cons item items =>
      have hitems := build_items fs rest [] item fun v hv =>
        ih v (List.mem_cons_of_mem item hv)
      simp only [tokens, List.cons_append, List.append_assoc, build, build_firstItem,
        ih item List.mem_cons_self, hitems]
      rfl
  | @object members _ _ ih =>
    cases members with
    | nil => rfl
    | cons m members =>
      obtain ⟨key, v⟩ := m
      have hmembers := build_members fs rest [] key v fun m hm =>
        ih m (List.mem_cons_of_mem _ hm)
      simp only [tokens, List.cons_append, List.nil_append, List.append_assoc, build,
        ih (key, v) List.mem_cons_self, hmembers]
      rfl

end

namespace Token

variable {m m' : Mode} {c : Char} {t rest : Text}

theorem scan_cons {ts : List Token} (h : next m c = some (ts, m')) :
    scan m (c :: rest) = (scan m' rest).map (ts ++ ·) := by
  rw [scan, h]

theorem scan_silent (h : next m c = some ([], m')) : scan m (c :: rest) = scan m' rest := by
  rw [scan_cons h]
  simp

theorem scan_hex {digits : Text} (hhex : ∀ c ∈ digits, (Hex.digit? c).isSome = true)
    (hne : digits ≠ []) (seen : Text) :
    scan (.code digits.length seen) (digits ++ rest) =
      scan (.string (digits.reverse ++ seen)) rest := by
  induction digits generalizing seen with
  | nil => exact absurd rfl hne
  | cons c digits ih =>
    have hc := hhex c List.mem_cons_self
    cases digits with
    | nil => exact scan_silent (by simp [next, hc])
    | cons d digits =>
      have hnext : next (.code (c :: d :: digits).length seen) c =
          some ([], .code (d :: digits).length (c :: seen)) := by
        simp [next, hc]
      rw [List.cons_append, scan_silent hnext,
        ih (fun x hx => hhex x (List.mem_cons_of_mem c hx)) (List.cons_ne_nil d digits)]
      simp

theorem scan_quotes (h : InQuotes t) (seen : Text) :
    scan (.string seen) (t ++ '"' :: rest) =
      (scan .between rest).map (.string (seen.reverse ++ t) :: ·) := by
  induction h generalizing seen with
  | nil =>
    have hnext : next (.string seen) '"' = some ([.string seen.reverse], .between) := rfl
    rw [List.append_nil, List.nil_append, scan_cons hnext]
    rfl
  | @char c t hquote hslash hlow _ ih =>
    have hnext : next (.string seen) c = some ([], .string (c :: seen)) := by
      simp only [next, if_neg hquote, if_neg hslash, if_neg (Nat.not_lt.mpr hlow)]
    rw [List.cons_append, scan_silent hnext, ih]
    simp
  | @escape c t hc _ ih =>
    have hu : c ≠ 'u' := by
      rintro rfl
      exact absurd hc (by decide)
    have hslash : next (.string seen) '\\' = some ([], .escape ('\\' :: seen)) := rfl
    have hnext : next (.escape ('\\' :: seen)) c = some ([], .string (c :: '\\' :: seen)) := by
      simp only [next, if_neg hu, hc, if_true]
    rw [List.cons_append, List.cons_append, scan_silent hslash, scan_silent hnext, ih]
    simp
  | @code digits t hlength hhex _ ih =>
    have hslash : next (.string seen) '\\' = some ([], .escape ('\\' :: seen)) := rfl
    have hu : next (.escape ('\\' :: seen)) 'u' =
        some ([], .code digits.length ('u' :: '\\' :: seen)) := by
      rw [hlength]
      rfl
    have hne : digits ≠ [] := by
      rintro rfl
      cases hlength
    rw [List.cons_append, List.cons_append, List.append_assoc, scan_silent hslash, scan_silent hu,
      scan_hex hhex hne, ih]
    simp

theorem scan_run {mode : Text → Mode} {tok : Text → Token} {p : Char → Bool}
    (hend : ∀ seen, scan (mode seen) [] = some [tok seen.reverse])
    (hnext : ∀ seen c, next (mode seen) c = if p c then some ([], mode (c :: seen))
      else (first c).map fun (ts, m) => (tok seen.reverse :: ts, m))
    (ht : ∀ c ∈ t, p c = true) (hrest : ∀ c ∈ rest.head?, p c = false) (seen : Text) :
    scan (mode seen) (t ++ rest) = (scan .between rest).map (tok (seen.reverse ++ t) :: ·) := by
  induction t generalizing seen with
  | nil =>
    -- The token ends here, at the end of the text or at a character that starts the next.
    cases rest with
    | nil => simp [hend, scan, Mode.close]
    | cons c rest =>
      rw [List.nil_append, List.append_nil, scan, scan, hnext, if_neg (by simp [hrest c rfl]), next]
      cases first c with
      | none => rfl
      | some step => simp [Function.comp_def]
  | cons c t ih =>
    have hc : next (mode seen) c = some ([], mode (c :: seen)) := by
      rw [hnext, if_pos (ht c List.mem_cons_self)]
    rw [List.cons_append, scan_silent hc, ih fun x hx => ht x (List.mem_cons_of_mem c hx)]
    simp

def Closes (t : Text) : Prop := ∀ c ∈ t.head?, c.isLower = false ∧ isNumberChar c = false

theorem scan_word (ht : ∀ c ∈ t, c.isLower = true) (hrest : Closes rest) (seen : Text) :
    scan (.word seen) (t ++ rest) = (scan .between rest).map (.word (seen.reverse ++ t) :: ·) :=
  scan_run (fun _ => rfl) (fun _ _ => rfl) ht (fun c hc => (hrest c hc).1) seen

theorem scan_number (ht : ∀ c ∈ t, isNumberChar c = true) (hrest : Closes rest) (seen : Text) :
    scan (.number seen) (t ++ rest) = (scan .between rest).map (.number (seen.reverse ++ t) :: ·) :=
  scan_run (fun _ => rfl) (fun _ _ => rfl) ht (fun c hc => (hrest c hc).2) seen

theorem next_number (h : c.isDigit = true ∨ c = '-') :
    next .between c = some ([], .number [c]) := by
  have hblank : isBlank c = false ∧ c ≠ '"' := by
    rcases h with h | rfl
    · have hmarks : [' ', '\t', '\n', '\r', '"'].all (!·.isDigit) = true := by decide
      have hne (mark : Char) (hmark : mark ∈ [' ', '\t', '\n', '\r', '"']) : c ≠ mark := by
        rintro rfl
        have hno := List.all_eq_true.mp hmarks c hmark
        rw [h] at hno
        cases hno
      refine ⟨?_, hne '"' (by simp)⟩
      simp only [isBlank, Bool.or_eq_false_iff, beq_eq_false_iff_ne]
      exact ⟨⟨⟨hne ' ' (by simp), hne '\t' (by simp)⟩, hne '\n' (by simp)⟩, hne '\r' (by simp)⟩
    · decide
  rw [next, first, hblank.1, if_neg Bool.false_ne_true, if_neg hblank.2, if_pos h]

theorem isNumberChar_of_isDigits (h : isDigits t = true) : ∀ c ∈ t, isNumberChar c = true := by
  rw [isDigits, Bool.and_eq_true] at h
  intro c hc
  simp [isNumberChar, List.all_eq_true.mp h.2 c hc]

theorem isNumberChar_of_isExponent (h : isExponent t = true) : ∀ c ∈ t, isNumberChar c = true := by
  unfold isExponent at h
  split at h
  · exact List.forall_mem_cons.mpr ⟨by decide, isNumberChar_of_isDigits h⟩
  · exact List.forall_mem_cons.mpr ⟨by decide, isNumberChar_of_isDigits h⟩
  · exact isNumberChar_of_isDigits h

theorem isNumberChar_of_marked {e : Char} (h : ((e == 'e' || e == 'E') && isExponent t) = true) :
    ∀ c ∈ e :: t, isNumberChar c = true := by
  rw [Bool.and_eq_true] at h
  refine List.forall_mem_cons.mpr ⟨?_, isNumberChar_of_isExponent h.2⟩
  rw [isNumberChar, Bool.or_assoc, h.1, Bool.or_true]

theorem dropStart_minus (t : Text) :
    t = Text.dropStart ['-'] t ∨ t = '-' :: Text.dropStart ['-'] t := by
  cases h : Text.stripStart? ['-'] t with
  | none => exact .inl (by simp [Text.dropStart, h])
  | some rest =>
    right
    have ht := Text.stripStart?_eq_some_iff.mp h
    rw [Text.dropStart, h]
    exact ht

theorem exists_digit_of_isWhole (h : isWhole (t.takeWhile Char.isDigit) = true) :
    ∃ c rest, t = c :: rest ∧ c.isDigit = true := by
  cases t with
  | nil => cases h
  | cons c rest =>
    refine ⟨c, rest, rfl, ?_⟩
    cases hc : c.isDigit with
    | true => rfl
    | false =>
      rw [List.takeWhile_cons_of_neg (by simp [hc])] at h
      cases h

theorem isNumberChar_of_isNumber (h : isNumber t = true) : ∀ c ∈ t, isNumberChar c = true := by
  rw [isNumber, Bool.and_eq_true] at h
  obtain ⟨_, htail⟩ := h
  -- What is behind the whole part is nothing, a fraction with or without exponent, or an exponent.
  have hdigits : ∀ c ∈ (Text.dropStart ['-'] t).takeWhile Char.isDigit, isNumberChar c = true :=
    fun c hc => by simp [isNumberChar, List.all_eq_true.mp List.all_takeWhile c hc]
  have hrest : ∀ c ∈ (Text.dropStart ['-'] t).dropWhile Char.isDigit, isNumberChar c = true := by
    split at htail
    · next hnil => simp [hnil]
    · next fraction hfraction =>
      rw [Bool.and_eq_true] at htail
      rw [hfraction, ← List.takeWhile_append_dropWhile (p := Char.isDigit) (l := fraction)]
      refine List.forall_mem_cons.mpr ⟨by decide, List.forall_mem_append.mpr
        ⟨isNumberChar_of_isDigits htail.1, ?_⟩⟩
      have hexponent := htail.2
      split at hexponent
      · next hnil => simp [hnil]
      · next hmarked =>
        rw [hmarked]
        exact isNumberChar_of_marked hexponent
    · next hmarked =>
      rw [hmarked]
      exact isNumberChar_of_marked htail
  have hbody : ∀ c ∈ Text.dropStart ['-'] t, isNumberChar c = true := by
    rw [← List.takeWhile_append_dropWhile (p := Char.isDigit) (l := Text.dropStart ['-'] t)]
    exact List.forall_mem_append.mpr ⟨hdigits, hrest⟩
  rcases dropStart_minus t with ht | ht
  · rwa [ht]
  · rw [ht]
    exact List.forall_mem_cons.mpr ⟨by decide, hbody⟩

theorem exists_first_of_isNumber (h : isNumber t = true) :
    ∃ c rest, t = c :: rest ∧ (c.isDigit = true ∨ c = '-') := by
  rcases dropStart_minus t with ht | ht
  · rw [isNumber, Bool.and_eq_true, ← ht] at h
    obtain ⟨c, rest, hc, hdigit⟩ := exists_digit_of_isWhole h.1
    exact ⟨c, rest, hc, .inl hdigit⟩
  · exact ⟨'-', _, ht, .inr rfl⟩

theorem scan_spelled_word (hfirst : next .between c = some ([], .word [c]))
    (ht : ∀ x ∈ t, x.isLower = true) (hrest : Closes rest) :
    scan .between (c :: (t ++ rest)) = (scan .between rest).map (.word (c :: t) :: ·) := by
  rw [scan_silent hfirst, scan_word ht hrest]
  rfl

theorem scan_spelled_number (h : isNumber t = true) (hrest : Closes rest) :
    scan .between (t ++ rest) = (scan .between rest).map (.number t :: ·) := by
  obtain ⟨c, u, rfl, hc⟩ := exists_first_of_isNumber h
  have hu : ∀ x ∈ u, isNumberChar x = true := fun x hx =>
    isNumberChar_of_isNumber h x (List.mem_cons_of_mem c hx)
  rw [List.cons_append, scan_silent (next_number hc), scan_number hu hrest]
  rfl

theorem scan_spelled_string (h : InQuotes t) :
    scan .between (quoted t ++ rest) = (scan .between rest).map (.string t :: ·) := by
  have hfirst : next .between '"' = some ([], .string []) := rfl
  rw [quoted, List.cons_append, List.cons_append, scan_silent hfirst, List.append_assoc,
    List.singleton_append, scan_quotes h]
  rfl

theorem scan_mark {tok : Token} (h : next .between c = some ([tok], .between)) :
    scan .between (c :: rest) = (scan .between rest).map (tok :: ·) := scan_cons h

theorem scan_blanks (ht : ∀ c ∈ t, isBlank c = true) :
    scan .between (t ++ rest) = scan .between rest := by
  induction t with
  | nil => rfl
  | cons c t ih =>
    have hfirst : next .between c = some ([], .between) := by
      rw [next, first, if_pos (ht c List.mem_cons_self)]
    rw [List.cons_append, scan_silent hfirst]
    exact ih fun x hx => ht x (List.mem_cons_of_mem c hx)

theorem scan_newline (depth : Nat) :
    scan .between (newline depth ++ rest) = scan .between rest := by
  refine scan_blanks ?_
  rw [newline, List.forall_mem_cons]
  refine ⟨by decide, fun c hc => ?_⟩
  rw [List.eq_of_mem_replicate hc]
  decide

theorem closes_cons (h : c.isLower = false ∧ isNumberChar c = false) : Closes (c :: t) := by
  rintro x ⟨⟩
  exact h

theorem closes_of_blanks (ht : ∀ c ∈ t, isBlank c = true) : Closes t := by
  intro c hc
  have hblank := ht c (List.mem_of_mem_head? hc)
  simp only [isBlank, Bool.or_eq_true, beq_iff_eq] at hblank
  rcases hblank with ((rfl | rfl) | rfl) | rfl
  · decide
  · decide
  · decide
  · decide

end Token

open Token (Closes scan)

section

variable {v : Json} {rest : Text}

theorem closes_prettyItems (depth : Nat) (items : List Json) (rest : Text) :
    Closes (prettyItems depth items ++ rest) := by
  cases items with
  | nil => exact Token.closes_cons (by decide)
  | cons item items => exact Token.closes_cons (by decide)

theorem closes_prettyMembers (depth : Nat) (members : List (Text × Json)) (rest : Text) :
    Closes (prettyMembers depth members ++ rest) := by
  cases members with
  | nil => exact Token.closes_cons (by decide)
  | cons m members => exact Token.closes_cons (by decide)

theorem scan_prettyItems (items : List Json) (depth : Nat) (rest : Text)
    (h : ∀ v ∈ items, ∀ rest, Closes rest → scan .between (prettyAt (depth + 1) v ++ rest) =
      (scan .between rest).map (tokens v ++ ·)) :
    scan .between (prettyItems depth items ++ rest) =
      (scan .between rest).map (itemTokens items ++ ·) := by
  induction items with
  | nil =>
    rw [prettyItems, List.append_assoc, Token.scan_newline]
    exact Token.scan_mark rfl
  | cons item items ih =>
    have hitem := h item List.mem_cons_self _ (closes_prettyItems depth items rest)
    have hitems := ih fun v hv => h v (List.mem_cons_of_mem item hv)
    simp only [prettyItems, List.cons_append, List.append_assoc]
    rw [Token.scan_mark rfl, Token.scan_newline, hitem, hitems]
    simp [itemTokens, Function.comp_def]

theorem scan_prettyKey {key : Text} (hkey : InQuotes key) (t : Text) :
    scan .between (quoted key ++ ':' :: ' ' :: t) =
      (scan .between t).map ([.string key, .colon] ++ ·) := by
  have hcolon : scan .between (':' :: ' ' :: t) = (scan .between t).map (.colon :: ·) := by
    rw [Token.scan_mark rfl, Token.scan_silent rfl]
  rw [Token.scan_spelled_string hkey, hcolon]
  simp [Function.comp_def]

theorem scan_prettyMembers {members : List (Text × Json)} (depth : Nat) (rest : Text)
    (hkeys : ∀ m ∈ members, InQuotes m.1)
    (h : ∀ m ∈ members, ∀ rest, Closes rest → scan .between (prettyAt (depth + 1) m.2 ++ rest) =
      (scan .between rest).map (tokens m.2 ++ ·)) :
    scan .between (prettyMembers depth members ++ rest) =
      (scan .between rest).map (memberTokens members ++ ·) := by
  induction members with
  | nil =>
    rw [prettyMembers, List.append_assoc, Token.scan_newline]
    exact Token.scan_mark rfl
  | cons m members ih =>
    obtain ⟨key, v⟩ := m
    have hkey : InQuotes key := hkeys (key, v) List.mem_cons_self
    have hvalue := h (key, v) List.mem_cons_self _ (closes_prettyMembers depth members rest)
    have hmembers := ih (fun m hm => hkeys m (List.mem_cons_of_mem _ hm))
      fun m hm => h m (List.mem_cons_of_mem _ hm)
    simp only [prettyMembers, List.cons_append, List.nil_append, List.append_assoc]
    rw [Token.scan_mark rfl, Token.scan_newline, scan_prettyKey hkey, hvalue, hmembers]
    simp [memberTokens, Function.comp_def]

theorem scan_prettyAt (h : v.Spelled) (depth : Nat) (hrest : Closes rest) :
    scan .between (prettyAt depth v ++ rest) = (scan .between rest).map (tokens v ++ ·) := by
  induction h generalizing depth rest with
  | null => exact Token.scan_spelled_word (t := "ull".toList) rfl (List.all_eq_true.mp rfl) hrest
  | bool value =>
    cases value with
    | false => exact Token.scan_spelled_word (t := "alse".toList) rfl (List.all_eq_true.mp rfl) hrest
    | true => exact Token.scan_spelled_word (t := "rue".toList) rfl (List.all_eq_true.mp rfl) hrest
  | number ht => exact Token.scan_spelled_number ht hrest
  | string ht => exact Token.scan_spelled_string ht
  | @array items _ ih =>
    cases items with
    | nil =>
      simp only [prettyAt, List.cons_append, List.nil_append]
      rw [Token.scan_mark rfl, Token.scan_mark rfl]
      simp [tokens, Function.comp_def]
    | cons item items =>
      have hitem := ih item List.mem_cons_self (depth + 1) (closes_prettyItems depth items rest)
      have hitems := scan_prettyItems items depth rest fun v hv _ hrest =>
        ih v (List.mem_cons_of_mem item hv) (depth + 1) hrest
      simp only [prettyAt, List.cons_append, List.append_assoc]
      rw [Token.scan_mark rfl, Token.scan_newline, hitem, hitems]
      simp [tokens, Function.comp_def]
  | @object members hkeys _ ih =>
    cases members with
    | nil =>
      simp only [prettyAt, List.cons_append, List.nil_append]
      rw [Token.scan_mark rfl, Token.scan_mark rfl]
      simp [tokens, Function.comp_def]
    | cons m members =>
      obtain ⟨key, v⟩ := m
      have hkey : InQuotes key := hkeys (key, v) List.mem_cons_self
      have hvalue := ih (key, v) List.mem_cons_self (depth + 1)
        (closes_prettyMembers depth members rest)
      have hmembers := scan_prettyMembers depth rest
        (fun m hm => hkeys m (List.mem_cons_of_mem _ hm)) fun m hm _ hrest =>
          ih m (List.mem_cons_of_mem _ hm) (depth + 1) hrest
      simp only [prettyAt, List.cons_append, List.nil_append, List.append_assoc]
      rw [Token.scan_mark rfl, Token.scan_newline, scan_prettyKey hkey, hvalue, hmembers]
      simp [tokens, Function.comp_def]

theorem read?_pretty (h : v.Spelled) {blanks : Text}
    (hblanks : ∀ c ∈ blanks, Token.isBlank c = true) : read? (pretty v ++ blanks) = some v := by
  have hrest : scan .between blanks = some [] := by
    rw [← List.append_nil blanks, Token.scan_blanks hblanks]
    rfl
  have hbuild := build_tokens h [] []
  rw [List.append_nil] at hbuild
  rw [read?, pretty, scan_prettyAt h 0 (Token.closes_of_blanks hblanks), hrest, Option.map_some,
    List.append_nil, Option.bind_some, hbuild]
  rfl

end

end PromptLine.Json
