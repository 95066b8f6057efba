/-
  Repairs keep the cases of a suite.

  * `Line.Keeps`: changes of lines that touch no opening of a case;
  * `mendLines_openings`: no rule touches one;
  * `mendAll_openings`: after any rules in any order a suite opens the same cases, and has as many lines.
-/
import Suitewright.Proofs.Repair.Mending
import Suitewright.Proofs.Suite.Whole

namespace Suitewright

open Text

/-! ## Lines -/

section
variable {component : List Char} {l : Line} {d : List Line}

/-- A line that stays as it is, or opens a case neither before nor after. -/
def Line.Keeps (component : List Char) (l l' : Line) : Prop :=
  l' = l ∨ opensCase (l.chars component) = false ∧ opensCase (l'.chars component) = false

theorem opensCase_named (content module : List Char) : opensCase ((Line.named content module).chars component) = false :=
  rfl

theorem opensCase_default (name module : List Char) : opensCase ((Line.default name module).chars component) = false :=
  rfl

theorem opensCase_body (h : l.isBody = true) : opensCase (l.chars component) = false := by
  cases l with
  | query frame q => cases frame <;> rfl
  | render | classed => rfl
  | fixed | named | default => cases h

theorem redirect_keeps (module target : List Char) : l.Keeps component (l.redirect module target) := by
  cases l with
  | named | default => exact Or.inr ⟨rfl, rfl⟩
  | fixed | render | query | classed => exact Or.inl rfl

theorem byDefault_keeps (symbol : List Char) : l.Keeps component (l.byDefault component symbol) := by
  cases l with
  | named content module =>
    rw [Line.byDefault]
    split
    · exact Or.inr ⟨opensCase_named _ _, opensCase_default _ _⟩
    · exact Or.inl rfl
  | render spread attributes =>
    cases spread with
    | false => exact Or.inl rfl
    | true =>
      rw [Line.byDefault]
      split
      · exact Or.inr ⟨opensCase_body rfl, opensCase_body rfl⟩
      · exact Or.inl rfl
  | fixed | default | query | classed => exact Or.inl rfl

theorem onQuery_keeps (f : Query → Query) : l.Keeps component (l.onQuery f) := by
  cases l with
  | query frame q => exact Or.inr ⟨opensCase_body rfl, opensCase_body rfl⟩
  | fixed | named | default | render | classed => exact Or.inl rfl

theorem replacingClass_keeps : l.Keeps component (l.onAssertion Line.replacingClass) := by
  cases l with
  | classed n =>
    refine Or.inr ⟨opensCase_body rfl, ?_⟩
    rw [Line.onAssertion, Line.replacingClass]
    split
    · rfl
    · split
      · rfl
      · exact opensCase_body rfl
  | fixed | named | default | render | query => exact Or.inl rfl

theorem inject_keeps (a : Attribute) : l.Keeps component (l.inject a) := by
  cases l with
  | render spread attributes =>
    rw [Line.inject]
    split
    · exact Or.inl rfl
    · exact Or.inr ⟨opensCase_body rfl, opensCase_body rfl⟩
  | fixed | named | default | query | classed => exact Or.inl rfl

/-- The openings among the texts of lines. -/
def openings (component : List Char) (d : List Line) : List (List Char) :=
  (d.map (Line.chars component)).filter opensCase

theorem openings_cons_of_keeps {l' : Line} (h : l.Keeps component l') :
    openings component (l' :: d) = openings component (l :: d) := by
  rcases h with rfl | ⟨hl, hl'⟩
  · rfl
  · rw [openings, openings, List.map_cons, List.map_cons, List.filter_cons, List.filter_cons, hl, hl']
    rfl

theorem openings_cons (l : Line) {d d' : List Line} (h : openings component d' = openings component d) :
    openings component (l :: d') = openings component (l :: d) := by
  rw [openings, openings] at h
  rw [openings, openings, List.map_cons, List.map_cons, List.filter_cons, List.filter_cons, h]

theorem openings_map {f : Line → Line} (h : ∀ l : Line, l.Keeps component (f l)) :
    openings component (d.map f) = openings component d := by
  induction d with
  | nil => rfl
  | cons l d ih => rw [List.map_cons, openings_cons_of_keeps (h l), openings_cons l ih]

theorem openings_injectInto (a : Attribute) (line : Option Int) (d : List Line) :
    openings component (injectInto a line d) = openings component d := by
  rcases injectInto_cases a line d with ⟨-, h⟩ | ⟨d₁, spread, attributes, d₂, rfl, -, h⟩
  · rw [h]
  · rw [h]
    clear h
    induction d₁ with
    | nil => exact openings_cons_of_keeps (inject_keeps a)
    | cons l d₁ ih => exact openings_cons l ih

end

/-! ## Rules -/

variable {m : Component} {path : String}

theorem mend_keeps (signal : Signal) (l : Line) : l.Keeps m.displayName.toList (l.mend m path signal) := by
  cases signal with
  | quotedLiteral | malformedClosure => exact Or.inl rfl
  | unresolvedImport module => exact redirect_keeps _ _
  | namedImportMissing symbol => exact byDefault_keeps _
  | missingProp prop line => exact inject_keeps _
  | classMismatch => exact replacingClass_keeps
  | roleNotFound | textNotFound | statusOrImageRole => exact onQuery_keeps _

/-- No rule loses, adds, renames or reorders a case. -/
theorem mendLines_openings (signal : Signal) (d : List Line) :
    openings m.displayName.toList (mendLines m path d signal) = openings m.displayName.toList d := by
  cases signal with
  | missingProp prop line => exact openings_injectInto _ line d
  | _ => exact openings_map fun l => mend_keeps _ l

theorem mendLines_length (signal : Signal) (d : List Line) : (mendLines m path d signal).length = d.length := by
  cases signal with
  | missingProp prop line =>
    rw [mendLines, injectInto]
    split
    · exact List.length_modify _ _ _
    · rfl
  | _ => exact List.length_map _

theorem foldl_openings (signals : List Signal) (d : List Line) :
    openings m.displayName.toList (signals.foldl (mendLines m path) d) = openings m.displayName.toList d ∧
      (signals.foldl (mendLines m path) d).length = d.length := by
  induction signals generalizing d with
  | nil => exact ⟨rfl, rfl⟩
  | cons signal signals ih =>
    obtain ⟨hopenings, hlength⟩ := ih (mendLines m path d signal)
    rw [List.foldl_cons, hopenings, hlength, mendLines_openings, mendLines_length]
    exact ⟨rfl, rfl⟩

theorem lines_textOf {component : List Char} (hc : IsWord component) {d : List Line}
    (hd : ∀ l ∈ d, l.Formed component) : lines (Line.textOf component d) = d.map (Line.chars component) :=
  lines_joinLines (List.forall_mem_map.2 fun l hl => Line.isLine hc (hd l hl))

/-- Rules for any signals in any order give a suite that opens the cases of the component, in their order, and has as
many lines as before. -/
theorem mendAll_openings (hm : m.IsPlain) (hpath : IsPlainPath path) {signals : List Signal}
    (hs : ∀ signal ∈ signals, signal.IsPlain) :
    ∃ source, mendAll m path signals m.suite = .ok source ∧
      (lines source.toList).filter opensCase = m.buildCases.map (fun c => (TestCase.opening c.name).toList) ∧
      (lines source.toList).length = (lines m.suite.toList).length := by
  obtain ⟨d, hd, hsuite, hcases⟩ := suite_drawn hm
  obtain ⟨hmend, hformed⟩ := mendAll_textOf hm hpath hs hd hsuite
  obtain ⟨hopenings, hlength⟩ := foldl_openings signals d
  refine ⟨_, hmend, ?_, ?_⟩
  · rw [String.toList_ofList, lines_textOf hm.name hformed]
    exact hopenings.trans hcases
  · rw [String.toList_ofList, hsuite, lines_textOf hm.name hformed, lines_textOf hm.name hd, List.length_map,
      List.length_map, hlength]

/-- A button with a text, a union, a flag and an event. -/
def plainButton : Component where
  name := "Button"
  props := [⟨"label", ⟨"string"⟩, false, none⟩, ⟨"variant", ⟨"'primary' | 'link-like'"⟩, true, none⟩,
    ⟨"loading", ⟨"boolean"⟩, true, none⟩, ⟨"onClick", ⟨"() => void"⟩, false, none⟩]
  sourcePath := "src/components/Button.tsx"

/-- One signal of each kind. -/
def allSignals : List Signal :=
  [.quotedLiteral, .malformedClosure, .unresolvedImport "../Button", .namedImportMissing "Button",
    .roleNotFound "button", .missingProp "title" (some 12), .classMismatch, .textNotFound, .statusOrImageRole "status"]

theorem plainButton_plain : plainButton.IsPlain where
  name := by unfold IsWord; decide
  propName := by decide
  alternatives := by decide
  path := by unfold IsPlainPath; decide

theorem allSignals_plain : ∀ signal ∈ allSignals, signal.IsPlain := by
  simp only [allSignals, List.forall_mem_cons]
  refine ⟨trivial, trivial, ⟨by decide, by decide⟩, ⟨by decide, by decide⟩, trivial, ⟨by decide, by decide⟩, trivial,
    trivial, trivial, by simp⟩

theorem mendAll_openings_button : ∃ source, mendAll plainButton "src/Button.tsx" allSignals plainButton.suite = .ok source ∧
    (lines source.toList).filter opensCase = plainButton.buildCases.map (fun c => (TestCase.opening c.name).toList) ∧
    (lines source.toList).length = (lines plainButton.suite.toList).length :=
  mendAll_openings plainButton_plain (by unfold IsPlainPath; decide) allSignals_plain

end Suitewright
