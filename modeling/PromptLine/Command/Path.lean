import PromptLine.Text.Utf8

namespace PromptLine

structure Marks where
  firstDot : Option Nat
  lastDot : Option Nat
  openParen : Option Nat
  deriving DecidableEq, Repr

def Text.head (t : Text) : Text := t.takeWhile (· != '(')

namespace Marks

def scan (t : Text) : Marks where
  firstDot := (Text.cut? '.' (Text.head t)).map fun (before, _) => Utf8.size before
  lastDot := (Text.cutLast? '.' (Text.head t)).map fun (before, _) => Utf8.size before
  openParen := (Text.cut? '(' t).map fun (before, _) => Utf8.size before

def boundaries (m : Marks) : Nat :=
  match m.firstDot, m.lastDot with
  | some first, some last => if first = last then 1 else 2
  | _, _ => 0

end Marks

structure Path where
  provider : Text
  model : Text
  method : Text
  deriving DecidableEq, Repr

namespace Path

def render (p : Path) : Text := p.provider ++ '.' :: p.model ++ '.' :: p.method

def ofText? (t : Text) : Option Path :=
  if '(' ∈ t then none
  else
    match Text.cut? '.' t with
    | none => none
    | some (provider, rest) =>
        (Text.cutLast? '.' rest).map fun (model, method) => ⟨provider, model, method⟩

theorem ofText?_eq_some_iff {t : Text} {p : Path} :
    ofText? t = some p ↔
      '(' ∉ t ∧ t = p.render ∧ '.' ∉ p.provider ∧ '.' ∉ p.method := by
  by_cases hparen : '(' ∈ t
  · simp [ofText?, hparen]
  · rw [ofText?, if_neg hparen]
    constructor
    · intro h
      cases hc : Text.cut? '.' t with
      | none => simp [hc] at h
      | some cut =>
        obtain ⟨provider, rest⟩ := cut
        obtain ⟨rfl, hp⟩ := Text.cut?_eq_some_iff.1 hc
        rw [hc] at h
        obtain ⟨⟨model, method⟩, hm, rfl⟩ := Option.map_eq_some_iff.1 h
        obtain ⟨rfl, hf⟩ := Text.cutLast?_eq_some_iff.1 hm
        exact ⟨hparen, by simp [render], hp, hf⟩
    · rintro ⟨_, rfl, hp, hf⟩
      have hc : Text.cut? '.' p.render = some (p.provider, p.model ++ '.' :: p.method) :=
        Text.cut?_eq_some_iff.2 ⟨by simp [render], hp⟩
      have hl : Text.cutLast? '.' (p.model ++ '.' :: p.method) = some (p.model, p.method) :=
        Text.cutLast?_eq_some_iff.2 ⟨rfl, hf⟩
      simp [hc, hl]

end Path

end PromptLine
