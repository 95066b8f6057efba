/-
  The outline of a suite.

  * `Unbroken`, `Component.IsUnbroken`: texts without a line feed, and components whose names and alternatives are such;
  * `unbroken_body`: their cases are written line by line;
  * `isHeading`, `suite_outline`: the lines that open the block or a case are the one opening of the block and those of
    the cases, in order;
  * `buildCases_planned`: the cases of a component, how many they are and how the suite holds them.
-/
import Suitewright.Proofs.Suite.Foreign

namespace Suitewright

open Text

/-! ## Texts of one line -/

/-- Texts without a line feed. -/
def Unbroken (s : String) : Prop := '\n' ∉ s.toList

instance (s : String) : Decidable (Unbroken s) := inferInstanceAs (Decidable ('\n' ∉ s.toList))

section
variable {s t : String}

@[simp] theorem unbroken_append : Unbroken (s ++ t) ↔ Unbroken s ∧ Unbroken t := by
  rw [Unbroken, String.toList_append, List.mem_append, not_or]
  rfl

@[simp] theorem unbroken_braced : Unbroken (braced s) ↔ Unbroken s := by
  have hopen : Unbroken "\x7b" := by decide
  have hclose : Unbroken "\x7d" := by decide
  rw [braced, unbroken_append, unbroken_append]
  exact ⟨fun h => h.1.2, fun h => ⟨⟨hopen, h⟩, hclose⟩⟩

@[simp] theorem unbroken_quote : Unbroken (Json.quote s) := by
  rw [Unbroken, quote_toList, List.mem_cons, List.mem_append, not_or, not_or]
  exact ⟨by decide, newline_not_mem_quoteBody _, by decide⟩

end

/-! ## Cases of one line each -/

/-- Components whose names and alternatives hold no line feed. -/
structure Component.IsUnbroken (m : Component) : Prop where
  name : Unbroken m.displayName
  propName : ∀ p ∈ m.props, Unbroken p.name
  alternatives : ∀ p ∈ m.props, p.type.isUnion = true → ∀ a ∈ p.type.alternatives, Unbroken a

section
variable {m : Component}

theorem Component.IsUnbroken.free (hm : m.IsUnbroken) : m.IsFree '\n' := ⟨hm.name, hm.propName, hm.alternatives⟩

theorem unbroken_renderLine (hm : m.IsUnbroken) {t : Topic} (ht : t.IsOf m) : Unbroken (m.renderLine (m.extra t)) := by
  have hextra : Unbroken (if (m.extra t).isEmpty then "" else " " ++ m.extra t) := by
    split
    · decide
    · exact unbroken_append.2 ⟨by decide, lacks_extra (by decide) hm.free ht⟩
  simp only [Component.renderLine, Component.element, unbroken_append]
  exact ⟨⟨by decide, ⟨⟨⟨⟨by decide, hm.name⟩, by decide⟩, by decide⟩, hextra⟩, by decide⟩, by decide⟩

theorem unbroken_basicElement (hm : m.IsUnbroken) : Unbroken m.basicElement := by
  have hattributes : Unbroken (" ".intercalate (m.requiredProps.map PropSpec.inlineDefault)) :=
    lacks_basicAttributes (by decide) hm.free
  have htext : Unbroken (if (" ".intercalate (m.requiredProps.map PropSpec.inlineDefault)).isEmpty then "" else
      " " ++ " ".intercalate (m.requiredProps.map PropSpec.inlineDefault)) := by
    split
    · decide
    · exact unbroken_append.2 ⟨by decide, hattributes⟩
  simp only [Component.basicElement, unbroken_append]
  exact ⟨⟨⟨by decide, hm.name⟩, htext⟩, by decide⟩

/-- The body of a case consists of lines without a line feed. -/
theorem unbroken_body (hm : m.IsUnbroken) {t : Topic} (ht : t.IsOf m) : ∀ line ∈ m.body t, Unbroken line := by
  by_cases hrendering : t = .rendering
  · subst hrendering
    simp only [Component.body, List.forall_mem_cons, unbroken_append]
    exact ⟨⟨⟨by decide, unbroken_basicElement hm⟩, by decide⟩, by decide,
      ⟨⟨by decide, lacks_roleQuery (by decide) m⟩, by decide⟩, by simp⟩
  · rw [Component.body_eq hrendering, List.forall_mem_append, List.forall_mem_append]
    refine ⟨lacks_setup (by decide) hm.free ht, ?_, lacks_check (by decide) hm.free ht⟩
    simp only [List.forall_mem_cons]
    exact ⟨lacks_requiredLine (by decide) hm.free t, by decide, unbroken_renderLine hm ht, by decide, by simp⟩

end

/-! ## Headings -/

/-- Lines that open the block or a case. -/
def isHeading (line : List Char) : Bool := "describe(".toList.isPrefixOf line || opensCase line

/-- Lines that neither hold a line feed nor open the block. -/
def IsInside (line : List Char) : Prop := '\n' ∉ line ∧ "describe(".toList.isPrefixOf line = false

theorem isInside_caseLines {title : String} {body : List String} (h : ∀ line ∈ body, Unbroken line) :
    ∀ t ∈ caseLines title body, IsInside t := by
  rw [caseLines, List.cons_append, List.forall_mem_cons, List.forall_mem_append, List.forall_mem_singleton, List.forall_mem_map]
  refine ⟨⟨?_, by rw [opening_toList]; rfl⟩, fun line hline => ?_, by unfold IsInside; decide⟩
  · have hopening : Unbroken (TestCase.opening title) := by
      simp only [TestCase.opening, unbroken_append]
      exact ⟨⟨⟨by decide, by decide⟩, unbroken_quote⟩, by decide⟩
    exact hopening
  · have hbody : Unbroken (TestCase.bodyLine line) := by
      rw [TestCase.bodyLine]
      split
      · decide
      · exact unbroken_append.2 ⟨by decide, h line hline⟩
    refine ⟨hbody, ?_⟩
    rw [TestCase.bodyLine]
    split
    · rfl
    · rw [String.toList_append, String.toList_append]
      rfl

/-- The pieces of joined lines are the lines, and nothing after the last one. -/
theorem pieces_joinLines {ls : List (List Char)} (h : ∀ l ∈ ls, '\n' ∉ l) : pieces '\n' (joinLines ls) = ls ++ [[]] := by
  have hline : ∀ l rest : List Char, '\n' ∉ l → pieces '\n' (l ++ '\n' :: rest) = l :: pieces '\n' rest := by
    intro l rest hl
    induction l with
    | nil => simp [pieces]
    | cons c l ih =>
      rw [List.mem_cons, not_or] at hl
      have hc : (c == '\n') = false := by simpa using Ne.symm hl.1
      rw [List.cons_append, pieces, hc, ih hl.2]
      rfl
  induction ls with
  | nil => rfl
  | cons l ls ih =>
    rw [joinLines_cons, hline _ _ (h l (by simp)), ih fun l hl => h l (List.mem_cons_of_mem _ hl)]
    rfl

section
variable {m : Component}

theorem headLines_unbroken (hm : m.IsUnbroken) : ∀ t ∈ headLines m, '\n' ∉ t := by
  have himport : Unbroken m.importLine := by
    simp only [Component.importLine, unbroken_append, unbroken_braced]
    exact ⟨⟨⟨⟨by decide, ⟨by decide, hm.name⟩, by decide⟩, by decide⟩, unbroken_quote⟩, by decide⟩
  have hcomment : Unbroken (" * Test suite for the " ++ (m.displayName ++ " component.")) :=
    unbroken_append.2 ⟨by decide, unbroken_append.2 ⟨hm.name, by decide⟩⟩
  have hblock : Unbroken m.blockOpening := unbroken_append.2 ⟨unbroken_append.2 ⟨by decide, unbroken_quote⟩, by decide⟩
  rw [Unbroken, String.toList_append, String.toList_append] at hcomment
  simp only [headLines, List.forall_mem_cons]
  exact ⟨by decide, by decide, by decide, himport, by decide, by decide, hcomment, by decide, hblock, by simp⟩

theorem importLine_start (m : Component) : isHeading m.importLine.toList = false := by
  rw [Component.importLine]
  simp only [String.toList_append]
  rfl

theorem headLines_headings (m : Component) : (headLines m).filter isHeading = [m.blockOpening.toList] := by
  have hblock : isHeading m.blockOpening.toList = true := by
    rw [blockOpening_toList]
    rfl
  have hothers : ∀ t ∈ (headLines m).dropLast, isHeading t = false := by
    simp only [headLines, List.dropLast, List.forall_mem_cons]
    exact ⟨by decide, by decide, by decide, importLine_start m, by decide, by decide, rfl, by decide, by simp⟩
  have hsplit : headLines m = (headLines m).dropLast ++ [m.blockOpening.toList] := rfl
  rw [hsplit, List.filter_append, List.filter_eq_nil_iff.2 fun t ht => by simp [hothers t ht], List.filter_cons, hblock]
  rfl

/-- When the names and alternatives of a component hold no line feed, the headings of its suite are the one opening of the
block and those of the cases, in order. -/
theorem suite_outline (hm : m.IsUnbroken) : (pieces '\n' m.suite.toList).filter isHeading =
    m.blockOpening.toList :: m.buildCases.map fun c => (TestCase.opening c.name).toList := by
  have hne : m.buildCases ≠ [] := List.cons_ne_nil _ _
  have hlines : ∀ c ∈ m.buildCases, ∃ title description body, c = .make title description body ∧
      ∀ t ∈ caseLines title body, IsInside t := by
    rw [Component.buildCases_eq, List.forall_mem_map]
    intro t ht
    obtain ⟨title, description, hcase⟩ := m.exists_caseOf t
    exact ⟨title, description, m.body t, hcase, isInside_caseLines (unbroken_body hm (isOf_plan m t ht))⟩
  have hempty : IsInside [] := by unfold IsInside; decide
  obtain ⟨ls, hls, hinside, hopenings⟩ := fragments_lines hempty hne hlines
  have hall : ∀ t ∈ headLines m ++ (ls ++ ["\x7d);".toList]), '\n' ∉ t := by
    rw [List.forall_mem_append, List.forall_mem_append, List.forall_mem_singleton]
    exact ⟨headLines_unbroken hm, fun t ht => (hinside t ht).1, by decide⟩
  -- inside the block only cases are opened
  have hheadings : ls.filter isHeading = ls.filter opensCase :=
    List.filter_congr fun t ht => by rw [isHeading, (hinside t ht).2, Bool.false_or]
  have hend : (["\x7d);".toList] ++ [[]]).filter isHeading = [] := by decide
  rw [suite_lines hls, pieces_joinLines hall, List.append_assoc, List.append_assoc, List.filter_append, List.filter_append,
    headLines_headings, hheadings, hopenings, hend, List.append_nil]
  rfl

end

/-! ## Suites -/

/-- The text before the block of the cases. -/
def Component.preamble (m : Component) : String :=
  "\n".intercalate [importHeader, m.importLine, "", "/**", " * Test suite for the " ++ m.displayName ++ " component.", " */"] ++
    "\n"

theorem suite_eq (m : Component) : m.suite = m.preamble ++
    (m.blockOpening ++ "\n" ++ "\n\n".intercalate (m.buildCases.map TestCase.fragment) ++ "\n\x7d);\n") := by
  have hend : "\n\x7d);\n" = "\n" ++ "\x7d);" ++ "\n" := by decide
  show "\n".intercalate [importHeader, m.importLine, "", "/**", " * Test suite for the " ++ m.displayName ++ " component.",
    " */", m.blockOpening, "\n\n".intercalate (m.buildCases.map TestCase.fragment), "\x7d);"] ++ "\n" = _
  rw [Component.preamble, hend]
  simp only [String.intercalate_cons_cons, String.intercalate_singleton, String.append_assoc]

/-- The cases of a component are those of its plan, in order, where no type of a property is of two classes. The suite holds
them in one block with a blank line between two of them, and when the names and alternatives of the component hold no line
feed, its headings are the opening of that block and those of the cases. -/
theorem buildCases_planned (m : Component) :
    m.buildCases = m.plan.map m.caseOf ∧
      (∀ p ∈ m.props, [p.type.isBoolean, p.type.isString, p.type.isUnion].count true ≤ 1) ∧
      m.buildCases.length = 2 + (m.props.map fun p =>
          if p.type.isBoolean || p.type.isString then 1 else if p.type.isUnion then p.type.alternatives.length else 0).sum +
        m.props.countP PropSpec.isEvent * (1 + m.count disabledProp) + m.count loadingProp + m.count iconProp +
        m.count disabledProp ∧
      m.suite = m.preamble ++
        (m.blockOpening ++ "\n" ++ "\n\n".intercalate (m.buildCases.map TestCase.fragment) ++ "\n\x7d);\n") ∧
      (m.IsUnbroken → (pieces '\n' m.suite.toList).filter isHeading =
        m.blockOpening.toList :: m.buildCases.map fun c => (TestCase.opening c.name).toList) := by
  refine ⟨m.buildCases_eq, fun p _ => p.type.count_classes, ?_, suite_eq m, suite_outline⟩
  rw [m.buildCases_eq, List.length_map, m.length_plan]
  simp only [Component.length_typeTopics]

theorem toggleComponent_isUnbroken : toggleComponent.IsUnbroken := ⟨by decide, by decide, by decide⟩

theorem buildCases_planned_toggle : toggleComponent.IsUnbroken ∧ toggleComponent.buildCases.length = 9 ∧
    (pieces '\n' toggleComponent.suite.toList).filter isHeading =
      toggleComponent.blockOpening.toList :: toggleComponent.buildCases.map fun c => (TestCase.opening c.name).toList := by
  obtain ⟨-, -, hlength, -, houtline⟩ := buildCases_planned toggleComponent
  exact ⟨toggleComponent_isUnbroken, hlength.trans (by decide), houtline toggleComponent_isUnbroken⟩

end Suitewright
