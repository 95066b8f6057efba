/-
  The cases of a suite, line by line.

  * `DrawnCase`: cases with a plain name and a body of drawn lines;
  * `buildCases_drawn`: all cases of a plain component are such.
-/
import Suitewright.Proofs.Suite.Lines

namespace Suitewright

open Text

/-- Texts of tame characters. -/
def IsTameText (s : String) : Prop := s.toList.all isTame = true

theorem IsTameText.append {s t : String} (hs : IsTameText s) (ht : IsTameText t) : IsTameText (s ++ t) := by
  rw [IsTameText, String.toList_append, List.all_append, hs, ht]
  rfl

/-- Cases with a tame name and a body of drawn lines. -/
def DrawnCase (component : List Char) (c : TestCase) : Prop :=
  ∃ title description body, c = .make title description body ∧ IsTameText title ∧
    ∀ line ∈ body, DrawnBody component line

/-! ## Attributes -/

/-- The attributes of an element as one text. -/
theorem extra_attributes {extra : String} {a : Attribute} {attributes : List Attribute} (ha : a.name ≠ [])
    (h : extra.toList = a.chars ++ attributes.flatMap fun b => ' ' :: b.chars) :
    (if extra.isEmpty then "" else " " ++ extra).toList = (a :: attributes).flatMap fun b => ' ' :: b.chars := by
  have hempty : ¬ extra.isEmpty = true := by
    intro hempty
    rw [String.isEmpty_iff] at hempty
    obtain ⟨r, hchars, -⟩ := a.chars_name
    rw [hempty, hchars, List.append_assoc] at h
    exact ha (List.append_eq_nil_iff.1 h.symm).1
  rw [if_neg hempty, String.toList_append, h]
  rfl

theorem extra_attribute {extra : String} {a : Attribute} (ha : a.name ≠ []) (h : extra.toList = a.chars) :
    (if extra.isEmpty then "" else " " ++ extra).toList = [a].flatMap fun b => ' ' :: b.chars :=
  extra_attributes ha (by rw [h, List.flatMap_nil, List.append_nil])

theorem join_attributes {m : Component} {ps : List PropSpec} (hm : m.IsPlain) (hps : ∀ p ∈ ps, p ∈ m.props) :
    (if (" ".intercalate (ps.map PropSpec.inlineDefault)).isEmpty then ""
      else " " ++ " ".intercalate (ps.map PropSpec.inlineDefault)).toList =
        (ps.map PropSpec.attribute).flatMap fun b => ' ' :: b.chars := by
  cases ps with
  | nil => rfl
  | cons p ps =>
    have hp := hps p (by simp)
    have hjoin : (" ".intercalate ((p :: ps).map PropSpec.inlineDefault)).toList =
        p.attribute.chars ++ (ps.map PropSpec.attribute).flatMap fun b => ' ' :: b.chars := by
      induction ps generalizing p with
      | nil => simp [attribute_chars hm hp]
      | cons q ps ih =>
        have hspace : " ".toList = [' '] := by decide
        have hq := hps q (by simp)
        have ih := ih q (fun r hr => hps r (by simp [List.mem_cons.1 hr])) hq
        rw [List.map_cons, List.map_cons, String.intercalate_cons_cons, String.toList_append, String.toList_append,
          ← List.map_cons, ih, hspace, attribute_chars hm hp]
        simp only [List.map_cons, List.flatMap_cons, List.append_assoc, List.cons_append, List.nil_append]
    rw [List.map_cons (f := PropSpec.attribute)]
    exact extra_attributes (attribute_formed hm hp).1 hjoin

/-! ## Bodies -/

variable {m : Component}

/-- Rendering the component with the required properties declared. -/
theorem drawn_rendering (hm : m.IsPlain) {given : List (String × String)}
    (hgiven : ∀ g ∈ given, g.2.toList ≠ [] ∧ g.2.toList.all isNameChar = true) {extra : String}
    {attributes : List Attribute} (h : ∀ a ∈ attributes, a.Formed)
    (hextra : (if extra.isEmpty then "" else " " ++ extra).toList = attributes.flatMap fun a => ' ' :: a.chars) :
    ∀ line ∈ [m.requiredLine given, "", m.renderLine extra, ""], DrawnBody m.displayName.toList line := by
  simp only [List.forall_mem_cons]
  exact ⟨drawn_requiredLine hm hgiven, .empty, drawn_renderLine h hextra, .empty, by simp⟩

theorem drawn_assertionBody (hm : m.IsPlain) {extra assertion : String} {attributes : List Attribute}
    (h : ∀ a ∈ attributes, a.Formed)
    (hextra : (if extra.isEmpty then "" else " " ++ extra).toList = attributes.flatMap fun a => ' ' :: a.chars)
    (hassertion : DrawnBody m.displayName.toList assertion) :
    ∀ line ∈ m.assertionBody extra assertion, DrawnBody m.displayName.toList line := by
  have hbody : m.assertionBody extra assertion =
      [m.requiredLine [], "", m.renderLine extra, ""] ++ [m.roleLine, assertion] := rfl
  rw [hbody, List.forall_mem_append]
  refine ⟨drawn_rendering hm (by simp) h hextra, ?_⟩
  simp only [List.forall_mem_cons]
  exact ⟨drawn_roleLine m, hassertion, by simp⟩

/-! ## Cases -/

theorem nameText (hm : m.IsPlain) {p : PropSpec} (hp : p ∈ m.props) : IsTameText p.name :=
  Line.all_tame_of_nameChar (hm.propName p hp).2

theorem flag_formed (hm : m.IsPlain) {p : PropSpec} (hp : p ∈ m.props) : (Attribute.flag p.name.toList).Formed :=
  ⟨(hm.propName p hp).1, (hm.propName p hp).2, trivial⟩

theorem basicCase_drawn (hm : m.IsPlain) : DrawnCase m.displayName.toList m.basicCase := by
  have hopen : IsTameText "should render " := by unfold IsTameText; decide
  have hclose : IsTameText " component" := by unfold IsTameText; decide
  refine ⟨_, _, _, rfl, (hopen.append (Line.all_tame_of_nameChar hm.name.nameChars)).append hclose, ?_⟩
  simp only [List.forall_mem_cons]
  refine ⟨?_, .empty, drawn_asserted (q := .role _) (expectedRole_alphanum _).1 (roleQuery_toList m), by simp⟩
  have hrequired : ∀ p ∈ m.requiredProps, p ∈ m.props := fun p hp => (List.mem_filter.1 hp).1
  have hattributes : ∀ a ∈ m.requiredProps.map PropSpec.attribute, a.Formed :=
    List.forall_mem_map.2 fun p hp => attribute_formed hm (hrequired p hp)
  have htext : attributesText false (m.requiredProps.map PropSpec.attribute) =
      (m.requiredProps.map PropSpec.attribute).flatMap fun b => ' ' :: b.chars := rfl
  have hend : " />);".toList = " />".toList ++ ");".toList := by decide
  refine .render false hattributes ?_
  show ("render(" ++ ("<" ++ m.displayName ++ (if (" ".intercalate (m.requiredProps.map PropSpec.inlineDefault)).isEmpty
    then "" else " " ++ " ".intercalate (m.requiredProps.map PropSpec.inlineDefault)) ++ " />") ++ ");").toList = _
  rw [htext, hend]
  simp only [String.toList_append, join_attributes hm hrequired, List.append_assoc]

theorem booleanCase_drawn (hm : m.IsPlain) {p : PropSpec} (hp : p ∈ m.props) :
    DrawnCase m.displayName.toList (m.booleanCase p) := by
  have hopen : IsTameText "should handle " := by unfold IsTameText; decide
  have hclose : IsTameText " prop" := by unfold IsTameText; decide
  have hflag := flag_formed hm hp
  exact ⟨_, _, _, rfl, (hopen.append (nameText hm hp)).append hclose, drawn_assertionBody hm (by simpa using hflag)
    (extra_attribute hflag.1 rfl) (drawn_classAssertion (nameText hm hp))⟩

theorem variable_formed (hm : m.IsPlain) {p : PropSpec} (hp : p ∈ m.props) {v : List Char} (hne : v ≠ [])
    (hv : v.all Char.isAlphanum = true) : (Attribute.expr p.name.toList v).Formed :=
  ⟨(hm.propName p hp).1, (hm.propName p hp).2, Or.inr ⟨hne, hv⟩⟩

theorem textVariable_ne_nil (name : String) : (textVariable name).toList ≠ [] := by
  rw [textVariable, append_ofList]
  exact List.cons_ne_nil _ _

theorem textCase_drawn (hm : m.IsPlain) {p : PropSpec} (hp : p ∈ m.props) :
    DrawnCase m.displayName.toList (m.textCase p) := by
  have hopen : IsTameText "should display correct " := by unfold IsTameText; decide
  have htest : IsTameText "Test " := by unfold IsTameText; decide
  have ha := variable_formed hm hp (textVariable_ne_nil p.name) (testVariable_alphanum p.name)
  have hbody : [
      "const " ++ textVariable p.name ++ " = " ++ Json.quote ("Test " ++ p.name) ++ ";", m.requiredLine [], "",
      m.renderLine (p.name ++ "=" ++ braced (textVariable p.name)), "",
      "expect(screen.getByText(" ++ textVariable p.name ++ ")).toBeInTheDocument();"] =
      ("const " ++ textVariable p.name ++ " = " ++ Json.quote ("Test " ++ p.name) ++ ";") ::
        ([m.requiredLine [], "", m.renderLine (p.name ++ "=" ++ braced (textVariable p.name)), ""] ++
          ["expect(screen.getByText(" ++ textVariable p.name ++ ")).toBeInTheDocument();"]) := rfl
  refine ⟨_, _, _, rfl, hopen.append (nameText hm hp), ?_⟩
  rw [hbody, List.forall_mem_cons, List.forall_mem_append]
  refine ⟨drawn_textDeclaration (htest.append (nameText hm hp)) p.name, drawn_rendering hm (by simp) (by simpa using ha)
    (extra_attribute ha.1 (exprAttribute_toList _ _)), ?_⟩
  simp only [List.forall_mem_cons]
  refine ⟨.query .asserted (q := .text (textVariable p.name).toList) (testVariable_alphanum p.name) ?_, by simp⟩
  have hbefore : bodyIndent ++ "expect(screen.getByText(".toList = Frame.asserted.before ++ "screen.getByText(".toList := by
    decide
  have hafter : ")).toBeInTheDocument();".toList = [')'] ++ Frame.asserted.after := by decide
  rw [String.toList_append, String.toList_append, Query.chars_text, hafter, List.append_assoc, ← List.append_assoc,
    hbefore]
  simp only [List.append_assoc]

theorem unionCase_drawn (hm : m.IsPlain) {p : PropSpec} (hp : p ∈ m.props) (hunion : p.type.isUnion = true)
    {value : String} (hvalue : value ∈ p.type.alternatives) :
    DrawnCase m.displayName.toList (m.unionCase p value) := by
  have hopen : IsTameText "should handle " := by unfold IsTameText; decide
  have has : IsTameText " as " := by unfold IsTameText; decide
  have hhyphens : IsTameText "--" := by unfold IsTameText; decide
  have hplain := hm.alternatives p hp hunion value hvalue
  have htame : IsTameText value := all_tame_of_value hplain
  have ha : (Attribute.text p.name.toList value.toList).Formed := ⟨(hm.propName p hp).1, (hm.propName p hp).2, htame⟩
  exact ⟨_, _, _, rfl, ((hopen.append (nameText hm hp)).append has).append htame, drawn_assertionBody hm
    (by simpa using ha) (extra_attribute ha.1 (textAttribute_plain hplain))
    (drawn_classAssertion (((nameText hm hp).append hhyphens).append htame))⟩

/-- The body of an event case up to its assertion. -/
theorem drawn_handlerBody (hm : m.IsPlain) {p : PropSpec} (hp : p ∈ m.props) {flags : String}
    {attributes : List Attribute} (h : ∀ a ∈ attributes, a.Formed)
    (hflags : flags.toList = attributes.flatMap fun a => ' ' :: a.chars) :
    ∀ line ∈ m.handlerBody p flags, DrawnBody m.displayName.toList line := by
  obtain ⟨hne, hhandler⟩ := handlerVariable_alphanum p.name
  have ha := variable_formed hm hp hne hhandler
  have hgiven : ∀ g ∈ [(p.name, handlerVariable p.name)], g.2.toList ≠ [] ∧ g.2.toList.all isNameChar = true := by
    intro g hg
    obtain rfl := List.mem_singleton.1 hg
    exact ⟨hne, List.all_eq_true.2 fun c hc => isNameChar_of_isAlphanum (List.all_eq_true.1 hhandler c hc)⟩
  have hextra : (p.name ++ "=" ++ braced (handlerVariable p.name) ++ flags).toList =
      (Attribute.expr p.name.toList (handlerVariable p.name).toList).chars ++
        attributes.flatMap fun a => ' ' :: a.chars := by
    rw [String.toList_append, exprAttribute_toList, hflags]
  have hbody : m.handlerBody p flags = ("const " ++ handlerVariable p.name ++ " = jest.fn();") ::
      ([m.requiredLine [(p.name, handlerVariable p.name)], "",
        m.renderLine (p.name ++ "=" ++ braced (handlerVariable p.name) ++ flags), ""] ++
          [m.roleLine, (triggerFor p.name).call, ""]) := rfl
  rw [hbody, List.forall_mem_cons, List.forall_mem_append]
  refine ⟨drawn_handlerDeclaration p.name, drawn_rendering hm hgiven (List.forall_mem_cons.2 ⟨ha, h⟩)
    (extra_attributes ha.1 hextra), ?_⟩
  simp only [List.forall_mem_cons]
  exact ⟨drawn_roleLine m, drawn_call p.name, .empty, by simp⟩

theorem disabled_name : disabledProp.toList ≠ [] ∧ disabledProp.toList.all isNameChar = true := by decide

theorem enabledFlag_attributes (m : Component) : ∃ attributes : List Attribute, (∀ a ∈ attributes, a.Formed) ∧
    m.enabledFlag.toList = attributes.flatMap fun a => ' ' :: a.chars := by
  rw [Component.enabledFlag]
  split
  · split
    · exact ⟨[], by simp, rfl⟩
    · have hfalse : (Attribute.expr disabledProp.toList "false".toList).Formed :=
        ⟨disabled_name.1, disabled_name.2, Or.inl constants_mem.2.2.1⟩
      exact ⟨[.expr disabledProp.toList "false".toList], List.forall_mem_singleton.2 hfalse, by decide⟩
  · exact ⟨[], by simp, rfl⟩

theorem phrase_tame (prop : String) : IsTameText (triggerFor prop).phrase := by
  have htable : ∀ t ∈ clickTrigger :: eventTriggers.map (·.2), t.phrase.toList.all isTame = true := by decide
  exact htable _ (triggerFor_mem prop)

theorem invocationCase_drawn (hm : m.IsPlain) {p : PropSpec} (hp : p ∈ m.props) :
    DrawnCase m.displayName.toList (m.invocationCase p) := by
  have hopen : IsTameText "should call " := by unfold IsTameText; decide
  have hwhen : IsTameText " handler when " := by unfold IsTameText; decide
  obtain ⟨attributes, h, hflags⟩ := enabledFlag_attributes m
  refine ⟨_, _, _, rfl, ((hopen.append (nameText hm hp)).append hwhen).append (phrase_tame p.name), ?_⟩
  rw [List.forall_mem_append]
  refine ⟨drawn_handlerBody hm hp h hflags, ?_⟩
  simp only [List.forall_mem_cons]
  exact ⟨drawn_handlerAssertion p.name ⟨by decide, fun mark before => by cases mark <;> rfl⟩, by simp⟩

theorem disabledEventCase_drawn (hm : m.IsPlain) {p : PropSpec} (hp : p ∈ m.props) :
    DrawnCase m.displayName.toList (m.disabledEventCase p) := by
  have hopen : IsTameText "should not call " := by unfold IsTameText; decide
  have hwhen : IsTameText " when disabled" := by unfold IsTameText; decide
  have hflag : (Attribute.flag disabledProp.toList).Formed := ⟨disabled_name.1, disabled_name.2, trivial⟩
  refine ⟨_, _, _, rfl, (hopen.append (nameText hm hp)).append hwhen, ?_⟩
  rw [List.forall_mem_append]
  refine ⟨drawn_handlerBody hm hp (List.forall_mem_singleton.2 hflag) (by decide), ?_⟩
  simp only [List.forall_mem_cons]
  exact ⟨drawn_handlerAssertion p.name ⟨by decide, fun mark before => by cases mark <;> rfl⟩, by simp⟩

theorem loadingCase_drawn (hm : m.IsPlain) : DrawnCase m.displayName.toList m.loadingCase := by
  have ha : (Attribute.flag loadingProp.toList).Formed := ⟨by decide, by decide, trivial⟩
  have hbody : [m.requiredLine [], "", m.renderLine loadingProp, "", "expect(" ++ statusQuery ++ ").toBeInTheDocument();"] =
      [m.requiredLine [], "", m.renderLine loadingProp, ""] ++ ["expect(" ++ statusQuery ++ ").toBeInTheDocument();"] := rfl
  refine ⟨_, _, _, rfl, by unfold IsTameText; decide, ?_⟩
  rw [hbody, List.forall_mem_append, List.forall_mem_singleton]
  exact ⟨drawn_rendering hm (by simp) (List.forall_mem_singleton.2 ha) (extra_attribute ha.1 rfl),
    drawn_asserted (q := .status) trivial rfl⟩

theorem iconCase_drawn (hm : m.IsPlain) : DrawnCase m.displayName.toList m.iconCase := by
  have hvalue : "test-icon".toList.all isValueChar = true := by decide
  have ha : (Attribute.text iconProp.toList "test-icon".toList).Formed := ⟨by decide, by decide, by decide⟩
  have hbody : [m.requiredLine [], "", m.renderLine (textAttribute iconProp "test-icon"), "",
      "const iconElement = " ++ iconQuery ++ ";", "expect(iconElement).toBeInTheDocument();"] =
      [m.requiredLine [], "", m.renderLine (textAttribute iconProp "test-icon"), ""] ++
        ["const iconElement = " ++ iconQuery ++ ";", "expect(iconElement).toBeInTheDocument();"] := rfl
  have hbefore : Frame.icon.before = bodyIndent ++ "const iconElement = ".toList := by decide
  refine ⟨_, _, _, rfl, by unfold IsTameText; decide, ?_⟩
  rw [hbody, List.forall_mem_append]
  refine ⟨drawn_rendering hm (by simp) (List.forall_mem_singleton.2 ha) (extra_attribute ha.1 (textAttribute_plain hvalue)),
    ?_⟩
  simp only [List.forall_mem_cons]
  refine ⟨.query .icon (q := .image) trivial ?_, .calm rfl (List.cons_ne_nil _ _)
    ⟨by decide, fun mark before => by cases mark <;> rfl⟩, by simp⟩
  rw [String.toList_append, String.toList_append, hbefore]
  simp only [List.append_assoc]
  rfl

theorem keyboardCase_drawn (hm : m.IsPlain) : DrawnCase m.displayName.toList m.keyboardCase := by
  refine ⟨_, _, _, rfl, by unfold IsTameText; decide, drawn_assertionBody hm (List.forall_mem_nil _) rfl ?_⟩
  exact .calm rfl (List.cons_ne_nil _ _) ⟨by decide, fun mark before => by cases mark <;> rfl⟩

theorem disabledCase_drawn (hm : m.IsPlain) : DrawnCase m.displayName.toList m.disabledCase := by
  have ha : (Attribute.flag disabledProp.toList).Formed := ⟨disabled_name.1, disabled_name.2, trivial⟩
  refine ⟨_, _, _, rfl, by unfold IsTameText; decide, drawn_assertionBody hm (List.forall_mem_singleton.2 ha)
    (extra_attribute ha.1 rfl) ?_⟩
  exact .calm rfl (List.cons_ne_nil _ _) ⟨by decide, fun mark before => by cases mark <;> rfl⟩

theorem propCases_drawn (hm : m.IsPlain) {p : PropSpec} (hp : p ∈ m.props) :
    ∀ c ∈ m.propCases p, DrawnCase m.displayName.toList c := by
  rw [Component.propCases, List.forall_mem_append, List.forall_mem_append]
  refine ⟨⟨?_, ?_⟩, ?_⟩
  · split
    · exact List.forall_mem_singleton.2 (booleanCase_drawn hm hp)
    · simp
  · split
    · exact List.forall_mem_singleton.2 (textCase_drawn hm hp)
    · simp
  · split
    · next hunion => exact List.forall_mem_map.2 fun value hvalue => unionCase_drawn hm hp hunion hvalue
    · simp

theorem eventCases_drawn (hm : m.IsPlain) {p : PropSpec} (hp : p ∈ m.props) :
    ∀ c ∈ m.eventCases p, DrawnCase m.displayName.toList c := by
  rw [Component.eventCases]
  split
  · rw [List.forall_mem_cons]
    refine ⟨invocationCase_drawn hm hp, ?_⟩
    split
    · exact List.forall_mem_singleton.2 (disabledEventCase_drawn hm hp)
    · simp
  · simp

theorem caseIf_drawn {name : String} {c : TestCase} (h : DrawnCase m.displayName.toList c) :
    ∀ c' ∈ m.caseIf name c, DrawnCase m.displayName.toList c' := by
  rw [Component.caseIf]
  split
  · exact List.forall_mem_singleton.2 h
  · simp

/-- All cases of a plain component have a tame name and a body of drawn lines. -/
theorem buildCases_drawn (hm : m.IsPlain) : ∀ c ∈ m.buildCases, DrawnCase m.displayName.toList c := by
  simp only [Component.buildCases, List.forall_mem_append, List.forall_mem_singleton]
  refine ⟨⟨⟨⟨⟨⟨basicCase_drawn hm, ?_⟩, ?_⟩, caseIf_drawn (loadingCase_drawn hm)⟩, caseIf_drawn (iconCase_drawn hm)⟩,
    keyboardCase_drawn hm⟩, caseIf_drawn (disabledCase_drawn hm)⟩
  · intro c hc
    obtain ⟨p, hp, hc⟩ := List.mem_flatMap.1 hc
    exact propCases_drawn hm hp c hc
  · intro c hc
    obtain ⟨p, hp, hc⟩ := List.mem_flatMap.1 hc
    exact eventCases_drawn hm hp c hc

end Suitewright
