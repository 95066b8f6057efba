/-
  Patterns that leave no text of a kind.

  * `Free`: no text of a kind occurs;
  * `Clears`: a pattern that matches just where a text of a kind stands; `Clears.free`: replacing its matches leaves no
    such text when the replacements are apart from them;
  * `fixed?_clears`: the pattern for a fixed text is of this kind.
-/
import Suitewright.Proofs.Repair.Patterns
import Suitewright.Proofs.Text.Replaced

namespace Suitewright

open Text

/-! ## Patterns for texts of a kind -/

/-- No text of a kind occurs. -/
def Free (L : List Char → Prop) (source : List Char) : Prop := ∀ v, L v → ¬ v <:+: source

/-- A pattern that matches just where a text of a kind stands. What is matched may go on behind the text. -/
structure Clears (pattern : List Char → Option (List Char × List Char)) (L : List Char → Prop) : Prop where
  ne_nil : ∀ v, L v → v ≠ []
  found : ∀ v, L v → ∀ rest, pattern (v ++ rest) ≠ none
  only : ∀ cs a rest, pattern cs = some (a, rest) → ∃ v t, L v ∧ cs = v ++ t ++ rest

/-- The texts of a kind are apart from what replaces the matches of a pattern. -/
def RepelledBy (L : List Char → Prop) (pattern : List Char → Option (List Char × List Char)) : Prop :=
  ∀ v, L v → ∀ cs a rest, pattern cs = some (a, rest) → Apart v a

section
variable {pattern : List Char → Option (List Char × List Char)} {L K : List Char → Prop} {source : List Char}

theorem Clears.consumes (h : Clears pattern L) : Consumes fun _ => pattern := by
  intro _ cs a rest hmatch
  obtain ⟨v, t, hv, rfl⟩ := h.only cs a rest hmatch
  exact ⟨v ++ t, by simp [h.ne_nil v hv], rfl⟩

theorem Clears.free (h : Clears pattern L) (hapart : RepelledBy L pattern) (source : List Char) :
    Free L (replaceAll pattern source) := by
  intro v hv
  refine (replaced_replaceAll h.consumes source).free (h.ne_nil v hv) (fun {_ w rest a} => hapart v hv (w ++ rest) a rest)
    (Or.inl fun {_ cs} hnone hprefix => ?_)
  obtain ⟨rest, rfl⟩ := hprefix
  exact h.found v hv rest hnone

/-- Texts of another kind do not come about either. -/
theorem Clears.keeps_free (h : Clears pattern L) (hne : ∀ v, K v → v ≠ []) (hapart : RepelledBy K pattern)
    (hsource : Free K source) : Free K (replaceAll pattern source) := by
  intro v hv
  exact (replaced_replaceAll h.consumes source).free (hne v hv) (fun {_ w rest a} => hapart v hv (w ++ rest) a rest)
    (Or.inr (hsource v hv))

theorem Clears.eq_self (h : Clears pattern L) (hsource : Free L source) : replaceAll pattern source = source := by
  refine replaceAll_eq_self fun w hw _ => ?_
  cases hmatch : pattern w with
  | none => rfl
  | some found =>
    obtain ⟨v, t, hv, rfl⟩ := h.only w found.1 found.2 hmatch
    rw [List.append_assoc] at hw
    exact absurd ((List.prefix_append v _).isInfix.trans hw.isInfix) (hsource v hv)

end

section
variable {text replacement : List Char}

theorem fixed?_clears (hne : text ≠ []) : Clears (fixed? text replacement) (· = text) where
  ne_nil := by
    rintro _ rfl
    exact hne
  found := by
    rintro _ rfl rest h
    rw [fixed?, after?_append] at h
    cases h
  only := by
    intro cs a rest h
    obtain ⟨rest', hafter, heq⟩ := Option.map_eq_some_iff.1 h
    obtain ⟨-, rfl⟩ := Prod.mk.inj heq
    exact ⟨text, [], rfl, by rw [List.append_nil, after?_eq_some.1 hafter]⟩

theorem repelledBy_fixed? {L : List Char → Prop} (h : ∀ v, L v → Apart v replacement) :
    RepelledBy L (fixed? text replacement) := by
  intro v hv cs a rest hmatch
  obtain ⟨rest', -, heq⟩ := Option.map_eq_some_iff.1 hmatch
  obtain ⟨rfl, -⟩ := Prod.mk.inj heq
  exact h v hv

end

end Suitewright
