/-
  The sites of a suite that was not mended yet.

  * `Component.rendered`: what a case writes between the component's name and the end of the element;
  * `fragment_parts`: a case is what stands above the element, the element and what stands below it;
  * `Component.IsLegible`: components whose names and alternatives do not disturb the reading;
  * `findSites_suite`: the suite of such a component has one site for each of its cases, in order.
-/
import Suitewright.Proofs.Repair.Places
import Suitewright.Proofs.Suite.Outline

namespace Suitewright

open Text

namespace Component

variable (m : Component)

/-! ## Cases and their elements -/

/-- What the case about a topic writes between the component's name and the end of the element. -/
def rendered : Topic → String
  | .rendering =>
    if (" ".intercalate (m.requiredProps.map PropSpec.inlineDefault)).isEmpty then ""
    else " " ++ " ".intercalate (m.requiredProps.map PropSpec.inlineDefault)
  | t => " " ++ braced "...requiredProps" ++ (if (m.extra t).isEmpty then "" else " " ++ m.extra t)

/-- The line of a case that renders the component. -/
def elementLine (t : Topic) : String := "render(<" ++ m.displayName ++ m.rendered t ++ " />);"

/-- The lines of a case before the one that renders the component. -/
def leadIn : Topic → List String
  | .rendering => []
  | t => t.setup ++ [m.requiredLine t.given, ""]

/-- The lines of a case after the one that renders the component. -/
def leadOut : Topic → List String
  | .rendering => ["", "expect(" ++ m.roleQuery ++ ").toBeInTheDocument();"]
  | t => "" :: m.check t

/-- The text of a case above its element. -/
def above (t : Topic) : List Char :=
  joinLines ((TestCase.opening (m.caseOf t).name).toList :: (m.leadIn t).map fun line => (TestCase.bodyLine line).toList) ++ bodyIndent

/-- The text of a case below its element. -/
def below (t : Topic) : List Char :=
  '\n' :: (joinLines ((m.leadOut t).map fun line => (TestCase.bodyLine line).toList) ++ TestCase.closing.toList)

variable {m}

theorem rendered_eq {t : Topic} (h : t ≠ .rendering) :
    m.rendered t = " " ++ braced "...requiredProps" ++ (if (m.extra t).isEmpty then "" else " " ++ m.extra t) := by
  cases t with
  | rendering => exact absurd rfl h
  | _ => rfl

theorem leadIn_eq {t : Topic} (h : t ≠ .rendering) : m.leadIn t = t.setup ++ [m.requiredLine t.given, ""] := by
  cases t with
  | rendering => exact absurd rfl h
  | _ => rfl

theorem leadOut_eq {t : Topic} (h : t ≠ .rendering) : m.leadOut t = "" :: m.check t := by
  cases t with
  | rendering => exact absurd rfl h
  | _ => rfl

theorem body_parts (t : Topic) : m.body t = m.leadIn t ++ m.elementLine t :: m.leadOut t := by
  have hopen : "render(<" = "render(" ++ "<" := by decide
  have hclose : " />);" = " />" ++ ");" := by decide
  by_cases ht : t = .rendering
  · subst ht
    have hline : m.elementLine .rendering = "render(" ++ m.basicElement ++ ");" := by
      rw [elementLine, hopen, hclose, rendered, basicElement]
      simp only [String.append_assoc]
    rw [hline]
    rfl
  · have hline : m.elementLine t = m.renderLine (m.extra t) := by
      rw [elementLine, hopen, hclose, rendered_eq ht, renderLine, element]
      simp only [String.append_assoc]
    rw [body_eq ht, hline, leadIn_eq ht, leadOut_eq ht]
    simp

/-- A case is what stands above its element, the element and what stands below it. -/
theorem fragment_parts (t : Topic) :
    (m.caseOf t).fragment.toList = m.above t ++ ((m.elementLine t).toList ++ m.below t) := by
  obtain ⟨title, description, hcase⟩ := m.exists_caseOf t
  have hne : (m.elementLine t).toList ≠ [] := by
    rw [elementLine, String.append_assoc, String.append_assoc, String.toList_append]
    exact List.cons_ne_nil _ _
  have hlines := make_lines title description (m.body t)
  rw [← hcase, caseLines, body_parts, List.map_append, List.map_cons, bodyLine_toList hne] at hlines
  have hname : (m.caseOf t).name = title := by rw [hcase]; rfl
  refine List.append_left_inj ['\n'] |>.1 ?_
  rw [hlines, above, below, hname, ← List.append_assoc, ← List.cons_append, joinLines_append, joinLines_append, joinLines_cons]
  simp [joinLines]

/-! ## Attributes -/

/-- Components whose names and alternatives do not disturb the reading of their suites. -/
structure IsLegible (m : Component) : Prop where
  name : IsWord m.displayName.toList
  propName : ∀ p ∈ m.props, p.name.toList ≠ [] ∧ p.name.toList.all isNameChar = true
  alternatives : ∀ p ∈ m.props, p.type.isUnion = true → ∀ a ∈ p.type.alternatives, '"' ∉ a.toList ∧ '<' ∉ a.toList
  path : '<' ∉ (Path.ofSource m.sourcePath).name.toList

theorem IsLegible.free (hm : m.IsLegible) : m.IsFree '<' :=
  ⟨not_mem_of_class hm.name.nameChars (by decide), fun p hp => not_mem_of_class (hm.propName p hp).2 (by decide),
    fun p hp hunion a ha => (hm.alternatives p hp hunion a ha).2⟩

theorem IsLegible.written (hm : m.IsLegible) {p : PropSpec} (hp : p ∈ m.props) : p.written.Sealed := by
  obtain ⟨hne, hname⟩ := hm.propName p hp
  refine PropSpec.written_sealed hne (all_firm_of_nameChar hname) fun v hv => ?_
  obtain rfl : v = p.defaultText := by
    rcases p.written_cases with ⟨hliteral, -⟩ | ⟨hliteral, -⟩
    · cases hliteral.symm.trans hv
    · exact Option.some.inj (hv.symm.trans hliteral)
  rw [PropSpec.defaultText]
  split
  · next hunion =>
    rw [TypeText.firstAlternative]
    cases halternatives : p.type.alternatives with
    | nil => exact List.not_mem_nil
    | cons a rest => exact (hm.alternatives p hp hunion a (by simp [halternatives])).1
  · exact not_mem_of_class (lookup_value (by decide : (labelTexts.all fun t => t.2.toList.all isValueChar) = true) hname)
      (by decide)

/-- What a case gives its component besides the required properties, as attributes. -/
theorem exists_extra (hm : m.IsLegible) {t : Topic} (ht : t.IsOf m) : ∃ as : List Attribute, (∀ a ∈ as, a.Sealed) ∧
    (if (m.extra t).isEmpty then "" else " " ++ m.extra t).toList = as.flatMap fun a => ' ' :: a.chars := by
  have hflag : ∀ p ∈ m.props, (Attribute.flag p.name.toList).Sealed := fun p hp =>
    ⟨(hm.propName p hp).1, all_firm_of_nameChar (hm.propName p hp).2, trivial⟩
  have hvariable : ∀ p ∈ m.props, ∀ v : List Char, v ≠ [] → v.all Char.isAlphanum = true →
      (Attribute.expr p.name.toList v).Sealed := fun p hp v hne hv =>
    Attribute.Formed.sealed ⟨(hm.propName p hp).1, (hm.propName p hp).2, Or.inr ⟨hne, hv⟩⟩
  have hhandler : ∀ p ∈ m.props, (Attribute.expr p.name.toList (handlerVariable p.name).toList).Sealed := fun p hp =>
    hvariable p hp _ (handlerVariable_alphanum p.name).1 (handlerVariable_alphanum p.name).2
  have hdisabled : (Attribute.flag disabledProp.toList).Sealed := Attribute.Formed.sealed ⟨by decide, by decide, trivial⟩
  have hloading : (Attribute.flag loadingProp.toList).Sealed := Attribute.Formed.sealed ⟨by decide, by decide, trivial⟩
  cases t with
  | rendering | keyboard => exact ⟨[], List.forall_mem_nil _, rfl⟩
  | flag p => exact ⟨_, List.forall_mem_singleton.2 (hflag p ht), extra_attribute (hflag p ht).named rfl⟩
  | text p =>
    have ha := hvariable p ht _ (textVariable_ne_nil p.name) (testVariable_alphanum p.name)
    exact ⟨_, List.forall_mem_singleton.2 ha, extra_attribute ha.named (exprAttribute_toList _ _)⟩
  | alternative p value =>
    have ha : (Attribute.ofText p.name value).Sealed := Attribute.ofText_sealed (hm.propName p ht.1).1
      (all_firm_of_nameChar (hm.propName p ht.1).2) (hm.alternatives p ht.1 ht.2.1 value ht.2.2).1
    exact ⟨_, List.forall_mem_singleton.2 ha, extra_attribute ha.named (textAttribute_toList _ _)⟩
  | invocation p =>
    obtain ⟨as, has, hflags⟩ := enabledFlag_attributes m
    refine ⟨.expr p.name.toList (handlerVariable p.name).toList :: as,
      List.forall_mem_cons.2 ⟨hhandler p ht, fun a ha => (has a ha).sealed⟩, extra_attributes (hhandler p ht).named ?_⟩
    rw [extra, String.toList_append, exprAttribute_toList, hflags]
  | blocked p =>
    refine ⟨[.expr p.name.toList (handlerVariable p.name).toList, .flag disabledProp.toList],
      by simp [hhandler p ht, hdisabled], extra_attributes (hhandler p ht).named ?_⟩
    rw [extra, String.toList_append, exprAttribute_toList]
    rfl
  | loading => exact ⟨_, List.forall_mem_singleton.2 hloading, extra_attribute hloading.named rfl⟩
  | icon =>
    have ha : (Attribute.ofText iconProp "test-icon").Sealed := Attribute.ofText_sealed (by decide) (by decide) (by decide)
    exact ⟨_, List.forall_mem_singleton.2 ha, extra_attribute ha.named (textAttribute_toList _ _)⟩
  | disabled => exact ⟨_, List.forall_mem_singleton.2 hdisabled, extra_attribute hdisabled.named rfl⟩

/-- What a case writes between the component's name and the end of the element is read as attributes. -/
theorem rendered_attributes (hm : m.IsLegible) {t : Topic} (ht : t.IsOf m) : IsAttributes (m.rendered t).toList := by
  by_cases hrendering : t = .rendering
  · subst hrendering
    have hsealed : ∀ a ∈ m.requiredProps.map PropSpec.written, a.Sealed :=
      List.forall_mem_map.2 fun p hp => hm.written (List.mem_filter.1 hp).1
    have hnames : ∀ p ∈ m.requiredProps, p.name.toList ≠ [] := fun p hp => (hm.propName p (List.mem_filter.1 hp).1).1
    rw [rendered, spaced_written hnames]
    simpa using IsAttributes.nil.append_flatMap hsealed
  · obtain ⟨as, has, hextra⟩ := exists_extra hm ht
    have hrendered : (m.rendered t).toList = spreadAttribute ++ as.flatMap fun a => ' ' :: a.chars := by
      rw [rendered_eq hrendering, String.toList_append, hextra]
      rfl
    rw [hrendered]
    exact IsAttributes.spread.append_flatMap has

/-! ## Angle brackets -/

theorem bracket_foreign : '<' ∈ foreign := by decide

theorem lacks_rendered (hm : m.IsLegible) {t : Topic} (ht : t.IsOf m) : Lacks '<' (m.rendered t) := by
  have hspaced : ∀ s : String, Lacks '<' s → Lacks '<' (if s.isEmpty then "" else " " ++ s) := by
    intro s hs
    split
    · decide
    · exact lacks_append.2 ⟨by decide, hs⟩
  by_cases hrendering : t = .rendering
  · subst hrendering
    exact hspaced _ (lacks_basicAttributes Component.bracket_foreign hm.free)
  · rw [rendered_eq hrendering]
    exact lacks_append.2 ⟨by decide, hspaced _ (lacks_extra Component.bracket_foreign hm.free ht)⟩

theorem lacks_title (hm : m.IsLegible) {t : Topic} (ht : t.IsOf m) : Lacks '<' (m.caseOf t).name := by
  have hphrase : ∀ name, Lacks '<' (triggerFor name).phrase := fun name =>
    (by decide : ∀ t ∈ clickTrigger :: eventTriggers.map (·.2), Lacks '<' t.phrase) _ (triggerFor_mem name)
  have hname := hm.free.propName
  cases t with
  | rendering => exact lacks_append.2 ⟨lacks_append.2 ⟨by decide, hm.free.name⟩, by decide⟩
  | flag p => exact lacks_append.2 ⟨lacks_append.2 ⟨by decide, hname p ht⟩, by decide⟩
  | text p => exact lacks_append.2 ⟨by decide, hname p ht⟩
  | alternative p value =>
    exact lacks_append.2 ⟨lacks_append.2 ⟨lacks_append.2 ⟨by decide, hname p ht.1⟩, by decide⟩,
      (hm.alternatives p ht.1 ht.2.1 value ht.2.2).2⟩
  | invocation p =>
    exact lacks_append.2 ⟨lacks_append.2 ⟨lacks_append.2 ⟨by decide, hname p ht⟩, by decide⟩, hphrase p.name⟩
  | blocked p => exact lacks_append.2 ⟨lacks_append.2 ⟨by decide, hname p ht⟩, by decide⟩
  | loading => exact (by decide : Lacks '<' "should show loading state")
  | icon => exact (by decide : Lacks '<' "should render with icon")
  | keyboard => exact (by decide : Lacks '<' "should be accessible via keyboard")
  | disabled => exact (by decide : Lacks '<' "should have correct aria-disabled when disabled")

theorem bracket_not_mem_lines {lines : List String} (h : ∀ line ∈ lines, Lacks '<' line) :
    '<' ∉ joinLines (lines.map fun line => (TestCase.bodyLine line).toList) := by
  rw [joinLines, List.mem_flatMap]
  rintro ⟨l, hl, hmem⟩
  obtain ⟨line, hline, rfl⟩ := List.mem_map.1 hl
  have hbody : Lacks '<' (TestCase.bodyLine line) := by
    rw [TestCase.bodyLine]
    split
    · decide
    · exact lacks_append.2 ⟨by decide, h line hline⟩
  rcases List.mem_append.1 hmem with hmem | hmem
  · exact hbody hmem
  · exact absurd hmem (by decide)

theorem bracket_not_mem_above (hm : m.IsLegible) {t : Topic} (ht : t.IsOf m) : '<' ∉ m.above t := by
  have hopening : Lacks '<' (TestCase.opening (m.caseOf t).name) := by
    simp only [TestCase.opening, lacks_append]
    exact ⟨⟨⟨by decide, by decide⟩, .quote Component.bracket_foreign (lacks_title hm ht)⟩, by decide⟩
  have hin : ∀ line ∈ m.leadIn t, Lacks '<' line := by
    by_cases hrendering : t = .rendering
    · subst hrendering
      exact List.forall_mem_nil _
    · rw [leadIn_eq hrendering, List.forall_mem_append, List.forall_mem_cons, List.forall_mem_singleton]
      exact ⟨lacks_setup Component.bracket_foreign hm.free ht, lacks_requiredLine Component.bracket_foreign hm.free t, by decide⟩
  rw [above, joinLines_cons, List.mem_append, List.mem_append, List.mem_cons, not_or, not_or, not_or]
  exact ⟨⟨hopening, by decide, bracket_not_mem_lines hin⟩, by decide⟩

theorem bracket_not_mem_below (hm : m.IsLegible) {t : Topic} (ht : t.IsOf m) : '<' ∉ m.below t := by
  have hout : ∀ line ∈ m.leadOut t, Lacks '<' line := by
    by_cases hrendering : t = .rendering
    · subst hrendering
      simp only [leadOut, List.forall_mem_cons, lacks_append]
      exact ⟨by decide, ⟨⟨by decide, lacks_roleQuery Component.bracket_foreign m⟩, by decide⟩, by simp⟩
    · rw [leadOut_eq hrendering, List.forall_mem_cons]
      exact ⟨by decide, lacks_check Component.bracket_foreign hm.free ht⟩
  rw [below, List.mem_cons, List.mem_append, not_or, not_or]
  exact ⟨by decide, bracket_not_mem_lines hout, by decide⟩

end Component

/-! ## Suites -/

section
variable {m : Component}

/-- The text of a suite before the case that follows the given ones. -/
def Component.leading (m : Component) (earlier : List Topic) : List Char :=
  (m.preamble ++ m.blockOpening ++ "\n").toList ++ earlier.flatMap fun t => (m.caseOf t).fragment.toList ++ "\n\n".toList

/-- Where the cases of a suite render the component: `before` is the text before the first of them. -/
def sitesOfCases (m : Component) (before : List Char) : List Topic → List Site
  | [] => []
  | t :: ts =>
    siteAfter (before ++ m.above t) (openerText m.displayName.toList) (m.rendered t).toList ::
      sitesOfCases m (before ++ ((m.caseOf t).fragment.toList ++ "\n\n".toList)) ts

/-- The cases after one of them, with a blank line before each. -/
def casesBehind (m : Component) (ts : List Topic) : List Char :=
  ts.flatMap fun t => "\n\n".toList ++ (m.caseOf t).fragment.toList

theorem elementLine_toList (t : Topic) : (m.elementLine t).toList =
    openerText m.displayName.toList ++ ((m.rendered t).toList ++ (" />".toList ++ ");".toList)) := by
  have hopener : openerText m.displayName.toList = "render(<".toList ++ m.displayName.toList := rfl
  have hclose : " />);".toList = " />".toList ++ ");".toList := by decide
  rw [Component.elementLine, hopener]
  simp only [String.toList_append, hclose, List.append_assoc]

/-- A case has one site. -/
theorem sitesAfter_case (hm : m.IsLegible) {t : Topic} (ht : t.IsOf m) {before u : List Char} (hu : '<' ∉ u) (rest : List Char) :
    sitesAfter m.displayName.toList before (u ++ ((m.caseOf t).fragment.toList ++ rest)) =
      siteAfter (before ++ u ++ m.above t) (openerText m.displayName.toList) (m.rendered t).toList ::
        sitesAfter m.displayName.toList (before ++ u ++ m.above t ++ openerText m.displayName.toList)
          ((m.rendered t).toList ++ (" />);".toList ++ (m.below t ++ rest))) := by
  have hclose : " />);".toList = " />".toList ++ ");".toList := by decide
  have hflat : '<' ∉ u ++ m.above t := by
    rw [List.mem_append, not_or]
    exact ⟨hu, Component.bracket_not_mem_above hm ht⟩
  have hsplit : u ++ ((m.caseOf t).fragment.toList ++ rest) = (u ++ m.above t) ++ (openerText m.displayName.toList ++
      ((m.rendered t).toList ++ (" />".toList ++ (");".toList ++ (m.below t ++ rest))))) := by
    rw [Component.fragment_parts, elementLine_toList]
    simp only [List.append_assoc]
  rw [hsplit, sitesAfter_render hm.name (Component.rendered_attributes hm ht) hflat, hclose]
  simp only [List.append_assoc]

theorem bracket_not_mem_end (hm : m.IsLegible) {t : Topic} (ht : t.IsOf m) {v : List Char} (hv : '<' ∉ v) :
    '<' ∉ (m.rendered t).toList ++ (" />);".toList ++ (m.below t ++ v)) := by
  simp only [List.mem_append, not_or]
  exact ⟨Component.lacks_rendered hm ht, by decide, Component.bracket_not_mem_below hm ht, hv⟩

/-- Each case has one site. What stands before it from the last opener on holds no angle bracket. -/
theorem sitesAfter_cases (hm : m.IsLegible) {ts : List Topic} (hts : ∀ t ∈ ts, t.IsOf m) {t : Topic} (ht : t.IsOf m)
    {before u tail : List Char} (hu : '<' ∉ u) (htail : '<' ∉ tail) :
    sitesAfter m.displayName.toList before (u ++ ((m.caseOf t).fragment.toList ++ (casesBehind m ts ++ tail))) =
      sitesOfCases m (before ++ u) (t :: ts) := by
  induction ts generalizing t before u with
  | nil =>
    rw [sitesAfter_case hm ht hu, casesBehind, List.flatMap_nil, List.nil_append, sitesAfter_flat (bracket_not_mem_end hm ht htail)]
    rfl
  | cons t' ts ih =>
    have ht' := hts t' (by simp)
    have hend : '<' ∉ (m.rendered t).toList ++ (" />);".toList ++ (m.below t ++ "\n\n".toList)) :=
      bracket_not_mem_end hm ht (by decide)
    have hsplit : (m.rendered t).toList ++ (" />);".toList ++ (m.below t ++ (casesBehind m (t' :: ts) ++ tail))) =
        ((m.rendered t).toList ++ (" />);".toList ++ (m.below t ++ "\n\n".toList))) ++
          ((m.caseOf t').fragment.toList ++ (casesBehind m ts ++ tail)) := by
      rw [casesBehind, List.flatMap_cons, ← casesBehind]
      simp only [List.append_assoc]
    have hbefore : before ++ u ++ m.above t ++ openerText m.displayName.toList ++
        ((m.rendered t).toList ++ (" />);".toList ++ (m.below t ++ "\n\n".toList))) =
          before ++ u ++ ((m.caseOf t).fragment.toList ++ "\n\n".toList) := by
      have hclose : " />);".toList = " />".toList ++ ");".toList := by decide
      rw [Component.fragment_parts, elementLine_toList, hclose]
      simp only [List.append_assoc]
    rw [sitesAfter_case hm ht hu, hsplit, ih (fun t ht => hts t (by simp [ht])) ht' hend, hbefore]
    rfl

theorem length_sitesOfCases (before : List Char) (ts : List Topic) : (sitesOfCases m before ts).length = ts.length := by
  induction ts generalizing before with
  | nil => rfl
  | cons t ts ih => rw [sitesOfCases, List.length_cons, List.length_cons, ih]

theorem sitesOfCases_get (before : List Char) (earlier : List Topic) (t : Topic) (later : List Topic) :
    (sitesOfCases m before (earlier ++ t :: later))[earlier.length]? =
      some (siteAfter (before ++ (earlier.flatMap fun t => (m.caseOf t).fragment.toList ++ "\n\n".toList) ++ m.above t)
        (openerText m.displayName.toList) (m.rendered t).toList) := by
  induction earlier generalizing before with
  | nil => simp [sitesOfCases]
  | cons t' earlier ih =>
    rw [List.cons_append, sitesOfCases, List.length_cons, List.getElem?_cons_succ, ih]
    simp only [List.flatMap_cons, List.append_assoc]

theorem lacks_heading (hm : m.IsLegible) : Lacks '<' (m.preamble ++ m.blockOpening ++ "\n") := by
  have hname := hm.free.name
  have hpath : Lacks '<' (importPath m.sourcePath) := by
    rw [Lacks, show (importPath m.sourcePath).toList = _ from append_ofList _ _, List.mem_append, not_or]
    exact ⟨by decide, fun hmem => hm.path (mem_dropSourceExtension hmem)⟩
  have himport : Lacks '<' m.importLine := by
    simp only [Component.importLine, lacks_append]
    exact ⟨⟨⟨⟨by decide, .braced Component.bracket_foreign (lacks_append.2 ⟨lacks_append.2 ⟨by decide, hname⟩, by decide⟩)⟩, by decide⟩,
      .quote Component.bracket_foreign hpath⟩, by decide⟩
  have hcomment : Lacks '<' (" * Test suite for the " ++ m.displayName ++ " component.") :=
    lacks_append.2 ⟨lacks_append.2 ⟨by decide, hname⟩, by decide⟩
  have hpreamble : Lacks '<' m.preamble := by
    refine lacks_append.2 ⟨.intercalate (by decide) ?_, by decide⟩
    simp only [List.forall_mem_cons]
    exact ⟨by decide +kernel, himport, by decide, by decide, hcomment, by decide, by simp⟩
  have hblock : Lacks '<' m.blockOpening := lacks_append.2
    ⟨lacks_append.2 ⟨by decide, .quote Component.bracket_foreign (lacks_append.2 ⟨hname, by decide⟩)⟩, by decide⟩
  exact lacks_append.2 ⟨lacks_append.2 ⟨hpreamble, hblock⟩, by decide⟩

theorem exists_plan (m : Component) : ∃ ts, m.plan = .rendering :: ts := by
  rw [Component.plan]
  simp only [List.append_assoc, List.singleton_append]
  exact ⟨_, rfl⟩

/-- The text around a part of joined parts. -/
theorem intercalate_around (sep : String) (l : List String) (s : String) (r : List String) :
    (sep.intercalate (l ++ s :: r)).toList =
      (l.flatMap fun t => t.toList ++ sep.toList) ++ (s.toList ++ r.flatMap fun t => sep.toList ++ t.toList) := by
  induction l with
  | nil =>
    rw [List.nil_append, List.flatMap_nil, List.nil_append]
    induction r generalizing s with
    | nil => simp
    | cons t r ih =>
      rw [String.intercalate_cons_cons, String.toList_append, String.toList_append, ih, List.flatMap_cons]
      simp only [List.append_assoc]
  | cons t l ih =>
    rw [List.cons_append, String.intercalate_cons_of_ne_nil (List.append_ne_nil_of_right_ne_nil l (List.cons_ne_nil s r)),
      String.toList_append, String.toList_append, ih, List.flatMap_cons]
    simp only [List.append_assoc]

/-- The text around a case of a suite. -/
theorem suite_around (earlier : List Topic) {t : Topic} {later : List Topic} (h : m.plan = earlier ++ t :: later) :
    m.suite.toList = m.leading earlier ++ ((m.caseOf t).fragment.toList ++ (casesBehind m later ++ "\n\x7d);\n".toList)) := by
  have hcases := intercalate_around "\n\n" (earlier.map fun t => (m.caseOf t).fragment) (m.caseOf t).fragment
    (later.map fun t => (m.caseOf t).fragment)
  rw [List.flatMap_map, List.flatMap_map] at hcases
  have hplan : m.buildCases.map TestCase.fragment = (earlier.map fun t => (m.caseOf t).fragment) ++
      (m.caseOf t).fragment :: later.map fun t => (m.caseOf t).fragment := by
    rw [m.buildCases_eq, h, List.map_map, List.map_append, List.map_cons]
    rfl
  rw [suite_eq, hplan, Component.leading, casesBehind]
  simp only [String.toList_append, hcases, List.append_assoc]

/-- The sites of a suite are those of its cases, in order: each one begins where the case writes its element, and its
attributes are what the case writes between the component's name and the end of the element. -/
theorem findSites_suite (hm : m.IsLegible) :
    m.buildCases = m.plan.map m.caseOf ∧
      (findSites m.suite.toList m.displayName).length = m.buildCases.length ∧
      ∀ earlier t later, m.plan = earlier ++ t :: later →
        ((m.caseOf t).fragment.toList = m.above t ++ ((m.elementLine t).toList ++ m.below t) ∧ '<' ∉ m.above t ∧
          '<' ∉ m.below t) ∧
        m.leading earlier ++ (m.above t ++ (m.elementLine t).toList) <+: m.suite.toList ∧
        (findSites m.suite.toList m.displayName)[earlier.length]? =
          some (siteAfter (m.leading earlier ++ m.above t) (openerText m.displayName.toList) (m.rendered t).toList) := by
  obtain ⟨ts, hplan⟩ := exists_plan m
  have hof := isOf_plan m
  have hsites : findSites m.suite.toList m.displayName =
      sitesOfCases m (m.preamble ++ m.blockOpening ++ "\n").toList m.plan := by
    rw [suite_around [] hplan, Component.leading, List.flatMap_nil, List.append_nil, findSites_eq_sitesAfter, hplan,
      sitesAfter_cases hm (fun t ht => hof t (by simp [hplan, ht]))
      (hof _ (by simp [hplan])) (lacks_heading hm) (by decide), List.nil_append]
  refine ⟨m.buildCases_eq, ?_, fun earlier t later hsplit => ⟨⟨Component.fragment_parts t, ?_, ?_⟩, ?_, ?_⟩⟩
  · rw [hsites, length_sitesOfCases, m.buildCases_eq, List.length_map]
  · exact Component.bracket_not_mem_above hm (hof t (by simp [hsplit]))
  · exact Component.bracket_not_mem_below hm (hof t (by simp [hsplit]))
  · rw [suite_around earlier hsplit, Component.fragment_parts]
    exact ⟨m.below t ++ (casesBehind m later ++ "\n\x7d);\n".toList), by simp only [List.append_assoc]⟩
  · rw [hsites, hsplit, sitesOfCases_get, Component.leading]

end

/-- A component with alternatives that hold what opens and closes elements. -/
def markedComponent : Component where
  name := "Marked"
  props := [⟨"tone", ⟨"'a > \x7b' | 'b/>'"⟩, false, none⟩, ⟨"onOpen", ⟨"() => void"⟩, true, none⟩]
  sourcePath := "src/Marked.tsx"

theorem findSites_suite_marked : markedComponent.IsLegible ∧
    markedComponent.plan = [.rendering] ++ .alternative ⟨"tone", ⟨"'a > \x7b' | 'b/>'"⟩, false, none⟩ "a > \x7b" ::
      markedComponent.plan.drop 2 ∧
    (findSites markedComponent.suite.toList markedComponent.displayName).length = 5 ∧
    (findSites markedComponent.suite.toList markedComponent.displayName)[1]?.map Site.attributes =
      some " \x7b...requiredProps\x7d tone=\"a > \x7b\"".toList := by
  have hm : markedComponent.IsLegible := ⟨by unfold IsWord; decide, by decide, by decide, by decide⟩
  have hplan : markedComponent.plan = [.rendering] ++ .alternative ⟨"tone", ⟨"'a > \x7b' | 'b/>'"⟩, false, none⟩ "a > \x7b" ::
      markedComponent.plan.drop 2 := by decide
  obtain ⟨hcases, hlength, hsites⟩ := findSites_suite hm
  obtain ⟨-, -, hsite⟩ := hsites _ _ _ hplan
  refine ⟨hm, hplan, ?_, ?_⟩
  · rw [hlength, hcases, List.length_map]
    decide
  · have hsite : (findSites markedComponent.suite.toList markedComponent.displayName)[1]? = some _ := hsite
    rw [hsite]
    decide

end Suitewright
