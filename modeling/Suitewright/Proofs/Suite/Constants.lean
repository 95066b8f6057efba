/-
  The constants of the cases of a suite.

  * `BindLines`: what lines declare, one after the other;
  * `Component.IsInert`: components whose names may stand in a source as they are; one lemma for each kind of line of them;
  * `Topic.constants`, `declared_caseOf`: the constants of a case;
  * `AreDistinct`, `distinct_constants`: they are different from each other and from the names that every suite has;
  * `textQueryOf`, `mend_textQuery`: the query by the text of a property, and its replacement;
  * `constants_distinct`, `constants_repeated`: all this together, and a name for which it fails.
-/
import Suitewright.Proofs.Repair.TextQueries
import Suitewright.Proofs.Suite.Entries
import Suitewright.Proofs.Suite.Reader

namespace Suitewright

open Text

/-! ## Lines -/

/-- Lines that declare names, one line after the other. -/
inductive BindLines : List String → List String → Prop where
  /-- No lines. -/
  | nil : BindLines [] []
  /-- A line and the lines after it. -/
  | cons {line : String} {lines names names' : List String} : Binds line names → BindLines lines names' →
      BindLines (line :: lines) (names ++ names')

section
variable {lines lines' names names' : List String}

theorem BindLines.append (h : BindLines lines names) (h' : BindLines lines' names') :
    BindLines (lines ++ lines') (names ++ names') := by
  induction h with
  | nil => exact h'
  | cons hline _ ih =>
    rw [List.append_assoc]
    exact .cons hline ih

theorem BindLines.silent {line : String} (h : Binds line []) (h' : BindLines lines names) :
    BindLines (line :: lines) names := .cons h h'

theorem binds_newline : Binds "\n" [] := by decide

/-- What lines declare, the text does that is made of them. -/
theorem BindLines.intercalate (h : BindLines lines names) : Binds ("\n".intercalate lines) names := by
  induction h with
  | nil => decide
  | @cons line lines names names' hline hlines ih =>
    cases lines with
    | nil =>
      cases hlines
      rw [String.intercalate_singleton, List.append_nil]
      exact hline
    | cons line' lines =>
      rw [String.intercalate_cons_cons, String.append_assoc]
      exact hline.append (binds_newline.append ih)

/-- Lines of a body are indented. -/
theorem Binds.bodyLine {line : String} (h : Binds line names) : Binds (TestCase.bodyLine line) names := by
  rw [TestCase.bodyLine]
  split
  · next hempty =>
    rw [String.isEmpty_iff] at hempty
    rwa [hempty] at h
  · exact (show Binds (indent ++ indent) [] by decide).append h

theorem BindLines.body (h : BindLines lines names) : BindLines (lines.map TestCase.bodyLine) names := by
  induction h with
  | nil => exact .nil
  | cons hline _ ih => exact .cons hline.bodyLine ih

/-- What the lines of its body declare, a case does. -/
theorem BindLines.fragment (h : BindLines lines names) (title description : String) :
    Binds (TestCase.make title description lines).fragment names := by
  have hopening : Binds (TestCase.opening title) [] :=
    .around (s := indent ++ "it(") (by decide) (binds_quote title) (by decide)
  have hclosing : BindLines [TestCase.closing] [] := .silent (by decide) .nil
  have hlines := BindLines.silent hopening (h.body.append hclosing)
  rw [List.append_nil] at hlines
  exact hlines.intercalate

end

/-! ## Parts of lines -/

/-- An attribute with an expression. -/
theorem Silent.assigned {name value : String} (hname : Silent name) (hvalue : Silent value) :
    Binds (name ++ "=" ++ braced value) [] :=
  (hname.append_binds (show Binds "=" [] by decide) (by decide)).append (binds_braced hvalue)

theorem Silent.textAttribute {name : String} (hname : Silent name) (value : String) :
    Binds (textAttribute name value) [] := by
  rw [Suitewright.textAttribute]
  split
  · exact hname.assigned (binds_quote value).silent
  · next hplain =>
    simp only [List.contains_eq_mem, Bool.or_eq_true, decide_eq_true_eq, not_or] at hplain
    have hquoted : name ++ "=\"" ++ value ++ "\"" = name ++ "=" ++ ("\"" ++ value ++ "\"") := by
      have hopen : "=\"" = "=" ++ "\"" := by decide
      rw [hopen]
      simp only [String.append_assoc]
    rw [hquoted]
    exact (hname.append_binds (show Binds "=" [] by decide) (by decide)).append (binds_plainQuote hplain.1 hplain.2)

theorem Silent.inlineDefault {p : PropSpec} (hname : Silent p.name) : Silent p.inlineDefault := by
  have hnoop : Silent noopClosure := Binds.silent (by decide)
  have hzero : Silent "0" := ⟨['0'], by decide, by decide⟩
  rw [PropSpec.inlineDefault]
  split
  · exact (hname.assigned hnoop).silent
  · split
    · exact hname
    · split
      · exact (hname.assigned hzero).silent
      · exact (hname.textAttribute _).silent

/-- The default of a property as an expression. -/
theorem silent_defaultExpression (p : PropSpec) : Silent p.defaultExpression := by
  rw [PropSpec.defaultExpression]
  split
  · exact Binds.silent (by decide)
  · split
    · exact ⟨"true".toList, by decide, by decide⟩
    · split
      · exact ⟨['0'], by decide, by decide⟩
      · exact (binds_quote _).silent

theorem Silent.requiredEntry {p : PropSpec} (hname : Silent p.name) {given : List (String × String)}
    (hgiven : ∀ g ∈ given, Silent g.2) : Silent (requiredEntry given p) := by
  have hcolon : Binds ": " [] := by decide
  rw [Suitewright.requiredEntry]
  cases hlookup : given.lookup p.name with
  | some value => exact (hname.append_binds hcolon (by decide)).append_silent (hgiven _ (mem_of_lookup hlookup))
  | none =>
    dsimp only
    rw [PropSpec.objectDefault]
    refine Binds.append_silent ?_ (silent_defaultExpression p)
    split
    · exact hname.append_binds hcolon (by decide)
    · exact (binds_quote _).append hcolon

/-! ## Components -/

/-- Components whose names may stand in a source as they are. -/
structure Component.IsInert (m : Component) : Prop where
  name : Suitewright.IsInert m.displayName
  propName : ∀ p ∈ m.props, Suitewright.IsInert p.name

theorem binds_roleQuery (m : Component) : Binds m.roleQuery [] :=
  .around (by decide) (binds_quote _) (by decide)

theorem binds_roleLine (m : Component) : Binds m.roleLine ["element"] :=
  .around (by decide) (binds_roleQuery m) (by decide)

theorem binds_classAssertion (name : String) : Binds (Component.classAssertion name) [] :=
  .around (by decide) (binds_quote _) (by decide)

theorem binds_call (name : String) : Binds (triggerFor name).call [] := by
  have htable : ∀ t ∈ clickTrigger :: eventTriggers.map (·.2),
      readSource t.method = { word := t.method.toList } ∧ t.method.toList ≠ constWord ∧
        t.argument ∈ ["", typedArgument, keyArgument] := by decide +kernel
  have harguments : ∀ a ∈ ["", typedArgument, keyArgument], Binds a [] := by decide +kernel
  obtain ⟨hread, hword, hargument⟩ := htable _ (triggerFor_mem name)
  have hmethod : Silent ("fireEvent." ++ (triggerFor name).method) :=
    (show Binds "fireEvent." [] by decide).append_silent ⟨_, hword, hread⟩
  rw [Trigger.call]
  split
  · exact hmethod.append_binds (by decide) (by decide)
  · exact ((hmethod.append_binds (show Binds "(element, " [] by decide) (by decide)).append
      (harguments _ hargument)).append (show Binds ");" [] by decide)

/-- An expectation about a variable. -/
theorem binds_expect {variable_ assertion : String} (hvariable : Silent variable_) (hassertion : Binds assertion [])
    (hsep : IsSeparated assertion) : Binds ("expect(" ++ variable_ ++ assertion) [] :=
  ((show Binds "expect(" [] by decide).append_silent hvariable).append_binds hassertion hsep

/-- The variables of a suite are words other than `const`. -/
theorem textVariable_ne_const (name : String) : (textVariable name).toList ≠ constWord := by
  rw [textVariable, append_ofList]
  exact fun h => by cases (List.cons.inj h).1

theorem handlerVariable_ne_const (name : String) : (handlerVariable name).toList ≠ constWord := by
  rw [handlerVariable, append_ofList]
  exact fun h => by cases (List.cons.inj h).1

theorem silent_textVariable (name : String) : Silent (textVariable name) :=
  (IsInert.of_alphanum (testVariable_alphanum name) (textVariable_ne_const name)).silent

theorem silent_handlerVariable (name : String) : Silent (handlerVariable name) :=
  (IsInert.of_alphanum (handlerVariable_alphanum name).2 (handlerVariable_ne_const name)).silent

/-! ## Bodies -/

/-- The constants of a case that are declared before the required properties. -/
def Topic.setupConstants : Topic → List String
  | .text p => [textVariable p.name]
  | .invocation p | .blocked p => [handlerVariable p.name]
  | _ => []

/-- The constants of a case that are declared after the component is rendered. -/
def Topic.checkConstants : Topic → List String
  | .flag _ | .alternative _ _ | .invocation _ | .blocked _ | .keyboard | .disabled => ["element"]
  | .icon => ["iconElement"]
  | .rendering | .text _ | .loading => []

/-- The constants of a case, in order. -/
def Topic.constants : Topic → List String
  | .rendering => []
  | t => t.setupConstants ++ ("requiredProps" :: t.checkConstants)

section
variable {m : Component} (hm : m.IsInert)
include hm

theorem binds_requiredLine (t : Topic) : Binds (m.requiredLine t.given) ["requiredProps"] := by
  have hgiven : ∀ g ∈ t.given, Silent g.2 := by
    cases t with
    | invocation p | blocked p =>
      rw [Topic.given, List.forall_mem_singleton]
      exact silent_handlerVariable p.name
    | rendering | flag | text | alternative | loading | icon | keyboard | disabled => exact List.forall_mem_nil _
  have hobject : Binds (m.requiredObject t.given) [] := by
    by_cases hnil : m.requiredProps = []
    · rw [requiredObject_nil hnil]
      decide
    · have hentries : Silent (", ".intercalate (m.requiredProps.map (requiredEntry t.given))) :=
        .intercalate (by decide) (by decide) (List.forall_mem_map.2 fun p hp =>
          (hm.propName p (List.mem_filter.1 hp).1).silent.requiredEntry hgiven)
      rw [requiredObject_cons hnil]
      exact binds_braced (((show Binds " " [] by decide).append_silent hentries).append
        (Binds.silent (by decide)) (by decide))
  exact .around (by decide) hobject (by decide)

/-- The opening of a tag. -/
theorem silent_tag : Silent ("<" ++ m.displayName) := (show Binds "<" [] by decide).append_silent hm.name.silent

theorem binds_renderLine {extra : String} (hextra : Silent extra) : Binds (m.renderLine extra) [] := by
  have hmore : Silent (if extra.isEmpty then "" else " " ++ extra) := by
    split
    · exact Binds.silent (by decide)
    · exact (show Binds " " [] by decide).append_silent hextra
  have hspread : Binds (braced "...requiredProps") [] := by decide
  have hprops : Binds ("<" ++ m.displayName ++ " " ++ braced "...requiredProps") [] :=
    ((silent_tag hm).append_binds (show Binds " " [] by decide) (by decide)).append hspread
  have helement : Binds (m.element extra) [] :=
    (hprops.append_silent hmore).append_binds (show Binds " />" [] by decide) (by decide)
  exact .around (by decide) helement (by decide)

theorem binds_basicLine : Binds ("render(" ++ m.basicElement ++ ");") [] := by
  have hattributes : Silent (" ".intercalate (m.requiredProps.map PropSpec.inlineDefault)) :=
    .intercalate (by decide) (by decide) (List.forall_mem_map.2 fun p hp =>
      (hm.propName p (List.mem_filter.1 hp).1).silent.inlineDefault)
  have helement : Binds m.basicElement [] := by
    rw [Component.basicElement]
    refine Silent.append_binds ?_ (show Binds " />" [] by decide) (by decide)
    split
    · rw [String.append_empty]
      exact silent_tag hm
    · exact (silent_tag hm).append ((show Binds " " [] by decide).append_silent hattributes)
        (IsSeparated.append (by decide) _)
  exact .around (by decide) helement (by decide)

theorem silent_extra {t : Topic} (ht : t.IsOf m) : Silent (m.extra t) := by
  have henabled : Binds m.enabledFlag [] := by
    rw [Component.enabledFlag]
    split
    · split
      · decide
      · decide
    · decide
  have hloading : Silent loadingProp := ⟨loadingProp.toList, by decide, by decide⟩
  have hdisabled : Silent disabledProp := ⟨disabledProp.toList, by decide, by decide⟩
  cases t with
  | flag p => exact (hm.propName p ht).silent
  | text p => exact ((hm.propName p ht).silent.assigned (silent_textVariable p.name)).silent
  | alternative p value => exact ((hm.propName p ht.1).silent.textAttribute value).silent
  | invocation p =>
    exact (((hm.propName p ht).silent.assigned (silent_handlerVariable p.name)).append henabled).silent
  | blocked p =>
    exact ((hm.propName p ht).silent.assigned (silent_handlerVariable p.name)).append_silent
      ((show Binds " " [] by decide).append_silent hdisabled)
  | rendering | keyboard => exact Binds.silent (s := "") (by decide)
  | loading => exact hloading
  | icon => exact Binds.silent (s := textAttribute iconProp "test-icon") (by decide)
  | disabled => exact hdisabled

omit hm in
theorem binds_setup (t : Topic) : BindLines t.setup t.setupConstants := by
  have hhandler : ∀ name, Binds ("const " ++ handlerVariable name ++ " = jest.fn();") [handlerVariable name] := fun name =>
    binds_constant (handlerVariable_alphanum name).1 (handlerVariable_alphanum name).2 (handlerVariable_ne_const name)
      (by decide) (by decide)
  cases t with
  | text p =>
    have hnil : (textVariable p.name).toList ≠ [] := by
      rw [textVariable, append_ofList]
      exact List.cons_ne_nil _ _
    have htext : Binds ("const " ++ textVariable p.name ++ " = ") [textVariable p.name] :=
      binds_constant hnil (testVariable_alphanum p.name) (textVariable_ne_const p.name) (by decide) (by decide)
    exact .cons (htext.around (binds_quote _) (by decide)) .nil
  | invocation p | blocked p => exact .cons (hhandler p.name) .nil
  | rendering | flag | alternative | loading | icon | keyboard | disabled => exact .nil

omit hm in
theorem binds_check (m : Component) (t : Topic) : BindLines (m.check t) t.checkConstants := by
  have hrole := binds_roleLine m
  have hempty : Binds "" [] := by decide
  cases t with
  | rendering => exact .nil
  | flag p => exact .cons hrole (.silent (binds_classAssertion _) .nil)
  | alternative p value => exact .cons hrole (.silent (binds_classAssertion _) .nil)
  | text p =>
    have hopen : Silent ("expect(screen.getByText(" ++ textVariable p.name) :=
      (show Binds "expect(screen.getByText(" [] by decide).append_silent (silent_textVariable p.name)
    exact .silent (hopen.append_binds (by decide) (by decide)) .nil
  | invocation p | blocked p =>
    exact .cons hrole (.silent (binds_call p.name) (.silent hempty (.silent
      (binds_expect (silent_handlerVariable p.name) (by decide) (by decide)) .nil)))
  | loading => exact .silent (binds_expect (Binds.silent (by decide)) (by decide) (by decide)) .nil
  | icon =>
    have hicon : Binds ("const iconElement = " ++ iconQuery ++ ";") ["iconElement"] := by decide +kernel
    exact .cons hicon (.silent (by decide) .nil)
  | keyboard => exact .cons hrole (.silent (by decide) .nil)
  | disabled => exact .cons hrole (.silent (by decide) .nil)

/-- The constants that a case declares. -/
theorem declared_caseOf {t : Topic} (ht : t.IsOf m) : declared (m.caseOf t).fragment = t.constants := by
  obtain ⟨title, description, hcase⟩ := m.exists_caseOf t
  have hempty : Binds "" [] := by decide
  have hbody : BindLines (m.body t) t.constants := by
    by_cases hrendering : t = .rendering
    · subst hrendering
      have hrole : Binds ("expect(" ++ m.roleQuery ++ ").toBeInTheDocument();") [] :=
        binds_expect (binds_roleQuery m).silent (by decide) (by decide)
      exact .silent (binds_basicLine hm) (.silent hempty (.silent hrole .nil))
    · have hconstants : t.constants = t.setupConstants ++ (["requiredProps"] ++ t.checkConstants) := by
        cases t with
        | rendering => exact absurd rfl hrendering
        | _ => rfl
      rw [Component.body_eq hrendering, hconstants]
      exact (binds_setup t).append (.cons (binds_requiredLine hm t) (.silent hempty
        (.silent (binds_renderLine hm (silent_extra hm ht)) (.silent hempty (binds_check m t)))))
  rw [hcase]
  exact (hbody.fragment title description).declared_eq

end

/-! ## Names that a case must not take -/

/-- The names that every suite imports, and the one that its runner gives. -/
def suiteGlobals : List String := ["screen", "render", "fireEvent", "jest", "React"]

/-- These and the constants that many cases share. -/
def reservedNames : List String := ["requiredProps", "element", "iconElement"] ++ suiteGlobals

theorem textVariable_starts (name : String) : "test".toList <+: (textVariable name).toList := by
  rw [textVariable, append_ofList]
  exact List.prefix_append _ _

theorem handlerVariable_starts (name : String) : "handle".toList <+: (handlerVariable name).toList := by
  rw [handlerVariable, append_ofList]
  exact List.prefix_append _ _

theorem textVariable_free (name : String) : textVariable name ∉ reservedNames := by
  have htable : ∀ r ∈ reservedNames, ¬ "test".toList <+: r.toList := by decide
  exact fun h => htable _ h (textVariable_starts name)

theorem handlerVariable_free (name : String) : handlerVariable name ∉ reservedNames := by
  have htable : ∀ r ∈ reservedNames, ¬ "handle".toList <+: r.toList := by decide
  exact fun h => htable _ h (handlerVariable_starts name)

/-- Constants that are different from each other and from the names that every suite has. -/
structure AreDistinct (names : List String) : Prop where
  nodup : names.Nodup
  free : ∀ name ∈ suiteGlobals, name ∉ names

instance (names : List String) : Decidable (AreDistinct names) :=
  decidable_of_iff (names.Nodup ∧ ∀ name ∈ suiteGlobals, name ∉ names) ⟨fun h => ⟨h.1, h.2⟩, fun h => ⟨h.1, h.2⟩⟩

theorem AreDistinct.cons {variable_ : String} {names : List String} (h : AreDistinct names)
    (hnames : ∀ name ∈ names, name ∈ reservedNames) (hvariable : variable_ ∉ reservedNames) :
    AreDistinct (variable_ :: names) where
  nodup := List.nodup_cons.2 ⟨fun hmem => hvariable (hnames _ hmem), h.nodup⟩
  free name hname hmem := by
    rcases List.mem_cons.1 hmem with rfl | hmem
    · exact hvariable (List.mem_append_right _ hname)
    · exact h.free name hname hmem

theorem distinct_constants (t : Topic) : AreDistinct t.constants := by
  have hchecked : AreDistinct ["requiredProps", "element"] := by decide
  cases t with
  | rendering => exact show AreDistinct [] by decide
  | flag | alternative | keyboard | disabled => exact hchecked
  | text p =>
    have hprops : AreDistinct ["requiredProps"] := by decide
    exact hprops.cons (by decide) (textVariable_free p.name)
  | invocation p | blocked p => exact hchecked.cons (by decide) (handlerVariable_free p.name)
  | loading => exact show AreDistinct ["requiredProps"] by decide
  | icon => exact show AreDistinct ["requiredProps", "iconElement"] by decide

/-! ## Queries by texts -/

/-- The query by the text of a property. -/
def textQueryOf (name : String) : String := "screen.getByText(" ++ textVariable name ++ ")"

theorem textQueryOf_toList (name : String) : (textQueryOf name).toList = (Query.text (textVariable name).toList).chars := by
  have hclose : ")".toList = [')'] := by decide
  show ("screen.getByText(" ++ textVariable name ++ ")").toList = _
  rw [String.toList_append, String.toList_append, Query.chars_text, hclose, List.append_assoc]

theorem exists_intercalate (sep : String) {parts : List String} {part : String} (h : part ∈ parts) :
    ∃ before after, sep.intercalate parts = before ++ part ++ after := by
  induction parts with
  | nil => cases h
  | cons s parts ih =>
    cases parts with
    | nil =>
      obtain rfl := List.mem_singleton.1 h
      exact ⟨"", "", by simp⟩
    | cons s' parts =>
      rw [String.intercalate_cons_cons]
      rcases List.mem_cons.1 h with rfl | h
      · exact ⟨"", sep ++ sep.intercalate (s' :: parts), by simp [String.append_assoc]⟩
      · obtain ⟨before, after, heq⟩ := ih h
        exact ⟨s ++ sep ++ before, after, by rw [heq]; simp only [String.append_assoc]⟩

/-- The lines of a body stand in the case. -/
theorem exists_fragment {body : List String} {line : String} (h : line ∈ body) (title description : String) :
    ∃ before after, (TestCase.make title description body).fragment = before ++ line ++ after := by
  have hbody : ∃ space, TestCase.bodyLine line = space ++ line := by
    rw [TestCase.bodyLine]
    split
    · next hempty => exact ⟨"", by rw [String.isEmpty_iff.1 hempty]; rfl⟩
    · exact ⟨_, rfl⟩
  have hmem : TestCase.bodyLine line ∈ TestCase.opening title :: (body.map TestCase.bodyLine ++ [TestCase.closing]) := by
    simp only [List.mem_cons, List.mem_append]
    exact Or.inr (Or.inl (List.mem_map_of_mem h))
  obtain ⟨space, hline⟩ := hbody
  obtain ⟨before, after, hfragment⟩ := exists_intercalate "\n" hmem
  have hsplit : before ++ TestCase.bodyLine line ++ after = before ++ space ++ line ++ after := by
    rw [hline]
    simp only [String.append_assoc]
  exact ⟨before ++ space, after, hfragment.trans hsplit⟩

/-- The case of a text asks for it. -/
theorem exists_textQuery (m : Component) (p : PropSpec) :
    ∃ before after, (m.textCase p).fragment = before ++ textQueryOf p.name ++ after := by
  have hline : "expect(screen.getByText(" ++ textVariable p.name ++ ")).toBeInTheDocument();" =
      "expect(" ++ textQueryOf p.name ++ ").toBeInTheDocument();" := by
    have hopen : "expect(screen.getByText(" = "expect(" ++ "screen.getByText(" := by decide
    have hclose : ")).toBeInTheDocument();" = ")" ++ ").toBeInTheDocument();" := by decide
    show _ = "expect(" ++ ("screen.getByText(" ++ textVariable p.name ++ ")") ++ ").toBeInTheDocument();"
    rw [hopen, hclose]
    simp only [String.append_assoc]
  obtain ⟨title, description, hcase⟩ := m.exists_caseOf (.text p)
  have hmem : "expect(" ++ textQueryOf p.name ++ ").toBeInTheDocument();" ∈ m.body (.text p) := by
    rw [← hline]
    exact List.mem_append_right _ (List.mem_append_right _ (List.mem_singleton.2 rfl))
  obtain ⟨before, after, hfragment⟩ := exists_fragment hmem title description
  refine ⟨before ++ "expect(", ").toBeInTheDocument();" ++ after, ?_⟩
  rw [show m.textCase p = _ from hcase, hfragment]
  simp only [String.append_assoc]

/-- The case of a text is one of the component's. -/
theorem textCase_mem {m : Component} {p : PropSpec} (hp : p ∈ m.props) (htype : p.type.isString = true) :
    m.textCase p ∈ m.buildCases := by
  simp only [Component.buildCases, List.mem_append, List.mem_flatMap]
  refine Or.inl (Or.inl (Or.inl (Or.inl (Or.inl (Or.inr ⟨p, hp, ?_⟩)))))
  rw [Component.propCases, htype, if_pos rfl]
  simp

theorem mend_textNotFound (source path : String) (m : Component) :
    Signal.textNotFound.mend source m path = .ok (.ofList (replaceTextQueries m source.toList)) := rfl

/-- The query of a property whose name begins with a letter is replaced wherever it stands. -/
theorem mend_textQuery {m : Component} {p : PropSpec} (hp : p ∈ m.props) (hname : p.name.toList.head?.any Char.isAlpha = true) :
    ∃ q ∈ m.props, textVariable q.name = textVariable p.name ∧ ∀ before after path : String, ∃ before' after',
      Signal.textNotFound.mend before m path = .ok before' ∧ Signal.textNotFound.mend after m path = .ok after' ∧
      Signal.textNotFound.mend (before ++ textQueryOf p.name ++ after) m path =
        .ok (before' ++ testIdQuery (className q.name) ++ after') := by
  obtain ⟨q, hq, hvariable, hprop⟩ := propOfVariable_textVariable hp
  refine ⟨q, hq, hvariable, fun before after path => ⟨_, _, rfl, rfl, ?_⟩⟩
  have hsource : (before ++ textQueryOf p.name ++ after).toList =
      before.toList ++ ((Query.text (textVariable p.name).toList).chars ++ after.toList) := by
    rw [String.toList_append, String.toList_append, textQueryOf_toList, List.append_assoc]
  rw [mend_textNotFound, hsource, replaceTextQueries_around m (testVariable_alphanum p.name)
    (isTestVariable_textVariable hname), hprop]
  refine congrArg Except.ok (String.toList_inj.1 ?_)
  simp only [String.toList_append, String.toList_ofList, List.append_assoc]

/-! ## All cases -/

theorem isIdentifier_textVariable (name : String) : IsIdentifier (textVariable name).toList := by
  refine ⟨?_, List.all_eq_true.2 fun c hc => ?_⟩
  · rw [textVariable, append_ofList]
    rfl
  · exact isIdentifierPart_of_isAlphanum (List.all_eq_true.1 (testVariable_alphanum name) c hc)

/-- The variables of a suite are identifiers of letters and digits that begin with `test` or `handle`, so that none is a
name that the suite has anyway. If the names that a component brings are inert, the constants of each case are different
from each other and from these names. When the name of a text property begins with a letter, the query of its case is
replaced by one for a test identifier wherever it stands. -/
theorem constants_distinct (m : Component) :
    (∀ name : String,
      (IsIdentifier (textVariable name).toList ∧ (textVariable name).toList.all Char.isAlphanum = true ∧
        "test".toList <+: (textVariable name).toList ∧ textVariable name ∉ reservedNames) ∧
      IsIdentifier (handlerVariable name).toList ∧ (handlerVariable name).toList.all Char.isAlphanum = true ∧
        "handle".toList <+: (handlerVariable name).toList ∧ handlerVariable name ∉ reservedNames) ∧
    (m.IsInert → ∀ c ∈ m.buildCases,
      (declared c.fragment).Nodup ∧ ∀ name ∈ suiteGlobals, name ∉ declared c.fragment) ∧
    ∀ p ∈ m.props, p.type.isString = true → p.name.toList.head?.any Char.isAlpha = true →
      (m.textCase p ∈ m.buildCases ∧ ∃ before after, (m.textCase p).fragment = before ++ textQueryOf p.name ++ after) ∧
      ∃ q ∈ m.props, textVariable q.name = textVariable p.name ∧ ∀ before after path : String, ∃ before' after',
        Signal.textNotFound.mend before m path = .ok before' ∧ Signal.textNotFound.mend after m path = .ok after' ∧
        Signal.textNotFound.mend (before ++ textQueryOf p.name ++ after) m path =
          .ok (before' ++ testIdQuery (className q.name) ++ after') := by
  refine ⟨fun name => ⟨?_, ?_⟩, fun hm c hc => ?_, fun p hp htype hname => ?_⟩
  · exact ⟨isIdentifier_textVariable name, testVariable_alphanum name, textVariable_starts name, textVariable_free name⟩
  · exact ⟨isIdentifier_handlerVariable name, (handlerVariable_alphanum name).2, handlerVariable_starts name,
      handlerVariable_free name⟩
  · rw [Component.buildCases_eq] at hc
    obtain ⟨t, ht, rfl⟩ := List.mem_map.1 hc
    rw [declared_caseOf hm (isOf_plan m t ht)]
    exact ⟨(distinct_constants t).nodup, (distinct_constants t).free⟩
  · exact ⟨⟨textCase_mem hp htype, exists_textQuery m p⟩, mend_textQuery hp hname⟩

theorem toggleComponent_inert : toggleComponent.IsInert where
  name := .of_alphanum (by decide) (by decide)
  propName := by
    have htable : ∀ name ∈ toggleComponent.props.map PropSpec.name,
        name.toList.all Char.isAlphanum = true ∧ name.toList ≠ constWord := by decide +kernel
    exact fun p hp => .of_alphanum (htable _ (List.mem_map_of_mem hp)).1 (htable _ (List.mem_map_of_mem hp)).2

theorem constants_distinct_toggle :
    (∀ c ∈ toggleComponent.buildCases, (declared c.fragment).Nodup ∧ ∀ name ∈ suiteGlobals, name ∉ declared c.fragment) ∧
    ∃ q ∈ toggleComponent.props, textVariable q.name = textVariable "label" ∧
      ∀ before after path : String, ∃ before' after',
        Signal.textNotFound.mend before toggleComponent path = .ok before' ∧
        Signal.textNotFound.mend after toggleComponent path = .ok after' ∧
        Signal.textNotFound.mend (before ++ textQueryOf "label" ++ after) toggleComponent path =
          .ok (before' ++ testIdQuery (className q.name) ++ after') :=
  ⟨(constants_distinct toggleComponent).2.1 toggleComponent_inert,
    ((constants_distinct toggleComponent).2.2 ⟨"label", ⟨"string"⟩, false, none⟩ (by decide) (by decide) (by decide)).2⟩

/-- A property whose name ends the tag that it is written into. -/
def breakoutProp : PropSpec := ⟨"a />); const element = 1; render(<A", ⟨"boolean"⟩, true, none⟩

/-- A component with such a property. -/
def breakoutComponent : Component where
  name := "Button"
  props := [breakoutProp]
  sourcePath := "src/Button.tsx"

/-- Names are written into tags as they are: a case can declare a constant twice. -/
theorem constants_repeated : ∃ c ∈ breakoutComponent.buildCases,
    declared c.fragment = ["requiredProps", "element", "element"] ∧ ¬ (declared c.fragment).Nodup := by
  have hplan : Topic.flag breakoutProp ∈ breakoutComponent.plan := by decide
  have hempty : Binds "" [] := by decide
  have hrequired : Binds (breakoutComponent.requiredLine []) ["requiredProps"] := by decide +kernel
  have hrender : Binds (breakoutComponent.renderLine breakoutProp.name) ["element"] := by decide +kernel
  have hbody : BindLines (breakoutComponent.assertionBody breakoutProp.name (Component.classAssertion breakoutProp.name))
      ["requiredProps", "element", "element"] :=
    .cons hrequired (.silent hempty (.cons hrender (.silent hempty
      (.cons (binds_roleLine _) (.silent (binds_classAssertion _) .nil)))))
  have hdeclared : declared (breakoutComponent.booleanCase breakoutProp).fragment = ["requiredProps", "element", "element"] :=
    (hbody.fragment _ _).declared_eq
  refine ⟨breakoutComponent.booleanCase breakoutProp, ?_, hdeclared, ?_⟩
  · rw [Component.buildCases_eq]
    exact List.mem_map_of_mem (f := breakoutComponent.caseOf) hplan
  · rw [hdeclared]
    decide

end Suitewright
