/-
  Characters that only the outline of a suite holds.

  * `foreign`: line feeds, which stand between the lines of a suite, and the angle brackets that open its elements;
  * `Lacks`, `Component.IsFree`: texts without a character, and components whose names and alternatives are such;
  * `lacks_setup`, `lacks_requiredLine`, `lacks_extra`, `lacks_check`: their cases hold a foreign character nowhere else.
-/
import Suitewright.Proofs.Suite.Plan

namespace Suitewright

open Text

/-- The characters that only the outline of a suite holds. -/
def foreign : List Char := ['\n', '<']

theorem forall_foreign {p : Char → Prop} : (∀ x ∈ foreign, p x) ↔ p '\n' ∧ p '<' := by simp [foreign]

/-- Texts without a character. -/
def Lacks (x : Char) (s : String) : Prop := x ∉ s.toList

instance (x : Char) (s : String) : Decidable (Lacks x s) := inferInstanceAs (Decidable (x ∉ s.toList))

section
variable {x : Char} {s t : String}

@[simp] theorem lacks_append : Lacks x (s ++ t) ↔ Lacks x s ∧ Lacks x t := by
  rw [Lacks, String.toList_append, List.mem_append, not_or]
  rfl

theorem Lacks.intercalate {sep : String} {parts : List String} (hsep : Lacks x sep) (h : ∀ s ∈ parts, Lacks x s) :
    Lacks x (sep.intercalate parts) := by
  induction parts with
  | nil => simp [Lacks]
  | cons s parts ih =>
    cases parts with
    | nil =>
      rw [String.intercalate_singleton]
      exact h s (by simp)
    | cons s' parts =>
      rw [String.intercalate_cons_cons, lacks_append, lacks_append]
      exact ⟨⟨h s (by simp), hsep⟩, ih fun s hs => h s (List.mem_cons_of_mem _ hs)⟩

/-! ## Parts of lines -/

variable (hx : x ∈ foreign)
include hx

theorem Lacks.braced (h : Lacks x s) : Lacks x (braced s) := by
  have htable : ∀ x ∈ foreign, Lacks x "\x7b" ∧ Lacks x "\x7d" := forall_foreign.2 (by decide)
  exact lacks_append.2 ⟨lacks_append.2 ⟨(htable x hx).1, h⟩, (htable x hx).2⟩

theorem Lacks.quote (h : Lacks x s) : Lacks x (Json.quote s) := by
  have htable : ∀ x ∈ foreign, isEscapeChar x = false ∧ x ≠ '"' ∧
      ((List.range 128).all fun n => Char.ofNat n == x || !(Json.escapeChar (Char.ofNat n)).contains x) = true :=
    forall_foreign.2 (by decide)
  obtain ⟨hescape, hquote, hascii⟩ := htable x hx
  rw [Lacks, quote_toList, List.mem_cons, List.mem_append, List.mem_singleton, not_or, not_or]
  exact ⟨hquote, not_mem_quoteBody hescape hascii h, hquote⟩

theorem Lacks.const (h : Lacks '\n' s ∧ Lacks '<' s) : Lacks x s :=
  (forall_foreign (p := fun x => Lacks x s)).2 h x hx

theorem Lacks.of_alphanum (h : s.toList.all Char.isAlphanum = true) : Lacks x s := by
  have htable : ∀ x ∈ foreign, x.isAlphanum = false := forall_foreign.2 (by decide)
  exact not_mem_of_class h (htable x hx)

theorem lacks_textVariable (name : String) : Lacks x (textVariable name) := .of_alphanum hx (testVariable_alphanum name)

theorem lacks_handlerVariable (name : String) : Lacks x (handlerVariable name) :=
  .of_alphanum hx (handlerVariable_alphanum name).2

theorem Lacks.textAttribute {name value : String} (hname : Lacks x name) (hvalue : Lacks x value) :
    Lacks x (textAttribute name value) := by
  have hmarks : ∀ x ∈ foreign, Lacks x "=" ∧ Lacks x "=\"" ∧ Lacks x "\"" := forall_foreign.2 (by decide)
  obtain ⟨hequals, hopen, hquote⟩ := hmarks x hx
  rw [Suitewright.textAttribute]
  split
  · exact lacks_append.2 ⟨lacks_append.2 ⟨hname, hequals⟩, (hvalue.quote hx).braced hx⟩
  · simp only [lacks_append]
    exact ⟨⟨⟨hname, hopen⟩, hvalue⟩, hquote⟩

theorem Lacks.assigned {name value : String} (hname : Lacks x name) (hvalue : Lacks x value) :
    Lacks x (name ++ "=" ++ Suitewright.braced value) :=
  lacks_append.2 ⟨lacks_append.2 ⟨hname, .const hx (by decide)⟩, hvalue.braced hx⟩

/-- A default lacks a foreign character if the name of its property does, and its text if it is one. -/
theorem Lacks.inlineDefault {p : PropSpec} (hname : Lacks x p.name)
    (htext : (p.type.isFunction || p.type.isCallback) = false → p.type.isBoolean = false → p.type.isNumeric = false →
      Lacks x p.defaultText) : Lacks x p.inlineDefault := by
  rw [PropSpec.inlineDefault]
  split
  · exact hname.assigned hx (.const hx (by decide))
  · next hfunction =>
    split
    · exact hname
    · next hboolean =>
      split
      · exact hname.assigned hx (.const hx (by decide))
      · next hnumeric =>
        exact hname.textAttribute hx (htext (Bool.eq_false_iff.2 hfunction) (Bool.eq_false_iff.2 hboolean)
          (Bool.eq_false_iff.2 hnumeric))

theorem Lacks.namedDefault {name : String} (hname : Lacks x name) : Lacks x (namedDefault name) := by
  have htext : Lacks x ((namedTexts.lookup name).getD ("test-" ++ name)) := by
    cases hlookup : namedTexts.lookup name with
    | none => exact lacks_append.2 ⟨.const hx (by decide), hname⟩
    | some t =>
      have htable : ∀ x ∈ foreign, ∀ l ∈ namedTexts, Lacks x l.2 := forall_foreign.2 (by decide)
      exact htable x hx _ (mem_of_lookup hlookup)
  rw [Suitewright.namedDefault]
  split
  · exact hname.assigned hx (.const hx (by decide))
  · split
    · exact hname.assigned hx (.quote hx (.const hx (by decide)))
    · split
      · exact hname
      · exact hname.textAttribute hx htext

theorem Lacks.className {name : String} (h : Lacks x name) : Lacks x (Json.quote (className name)) := by
  simp only [foreign, List.mem_cons, List.not_mem_nil, or_false] at hx
  rcases hx with rfl | rfl
  · -- quoting escapes line feeds
    rw [Lacks, quote_toList, List.mem_cons, List.mem_append, not_or, not_or]
    exact ⟨by decide, newline_not_mem_quoteBody _, by decide⟩
  · refine Lacks.quote (by decide) ?_
    have hhyphen : '<' ∉ hyphenate name.toList := by
      rw [hyphenate, List.mem_flatMap]
      rintro ⟨c, hc, hmem⟩
      have hne : '<' ≠ c := fun e => h (e ▸ hc)
      split at hmem
      · simp [hne] at hmem
      · simp [hne] at hmem
    rw [Lacks, Suitewright.className, lower, String.toList_ofList, String.toList_ofList]
    exact bracket_not_mem_lowerFrom hhyphen []

end

/-! ## Components -/

/-- Components whose names and alternatives do not hold a character. -/
structure Component.IsFree (x : Char) (m : Component) : Prop where
  name : Lacks x m.displayName
  propName : ∀ p ∈ m.props, Lacks x p.name
  alternatives : ∀ p ∈ m.props, p.type.isUnion = true → ∀ a ∈ p.type.alternatives, Lacks x a

section
variable {x : Char} {m : Component} (hx : x ∈ foreign) (hm : m.IsFree x)
include hx hm

theorem lacks_defaultText {p : PropSpec} (hp : p ∈ m.props) : Lacks x p.defaultText := by
  rw [PropSpec.defaultText]
  split
  · next hunion =>
    rw [TypeText.firstAlternative]
    cases halternatives : p.type.alternatives with
    | nil => exact .const hx (by decide)
    | cons a rest => exact hm.alternatives p hp hunion a (by simp [halternatives])
  · cases hlookup : labelTexts.lookup p.name with
    | none => exact lacks_append.2 ⟨.const hx (by decide), hm.propName p hp⟩
    | some t =>
      have htable : ∀ x ∈ foreign, ∀ l ∈ labelTexts, Lacks x l.2 := forall_foreign.2 (by decide)
      exact htable x hx _ (mem_of_lookup hlookup)

theorem lacks_inlineDefault {p : PropSpec} (hp : p ∈ m.props) : Lacks x p.inlineDefault :=
  .inlineDefault hx (hm.propName p hp) fun _ _ _ => lacks_defaultText hx hm hp

theorem lacks_objectDefault {p : PropSpec} (hp : p ∈ m.props) : Lacks x p.objectDefault := by
  have hexpression : Lacks x p.defaultExpression := by
    rw [PropSpec.defaultExpression]
    split
    · exact .const hx (by decide)
    · split
      · exact .const hx (by decide)
      · split
        · exact .const hx (by decide)
        · exact (lacks_defaultText hx hm hp).quote hx
  rw [PropSpec.objectDefault, lacks_append, lacks_append]
  refine ⟨⟨?_, .const hx (by decide)⟩, hexpression⟩
  split
  · exact hm.propName p hp
  · exact (hm.propName p hp).quote hx

theorem lacks_requiredEntry {given : List (String × String)} (hgiven : ∀ g ∈ given, Lacks x g.2) {p : PropSpec}
    (hp : p ∈ m.props) : Lacks x (requiredEntry given p) := by
  rw [requiredEntry]
  cases hlookup : given.lookup p.name with
  | some value =>
    exact lacks_append.2 ⟨lacks_append.2 ⟨hm.propName p hp, .const hx (by decide)⟩, hgiven _ (mem_of_lookup hlookup)⟩
  | none => exact lacks_objectDefault hx hm hp

theorem lacks_requiredLine (t : Topic) : Lacks x (m.requiredLine t.given) := by
  have hgiven : ∀ g ∈ t.given, Lacks x g.2 := by
    cases t with
    | invocation p | blocked p =>
      rw [Topic.given, List.forall_mem_singleton]
      exact lacks_handlerVariable hx p.name
    | rendering | flag | text | alternative | loading | icon | keyboard | disabled => exact List.forall_mem_nil _
  have hobject : Lacks x (m.requiredObject t.given) := by
    by_cases hnil : m.requiredProps = []
    · rw [requiredObject_nil hnil]
      exact .const hx (by decide)
    · have hentries : Lacks x (", ".intercalate (m.requiredProps.map (requiredEntry t.given))) :=
        .intercalate (.const hx (by decide)) (List.forall_mem_map.2 fun p hp =>
          lacks_requiredEntry hx hm hgiven (List.mem_filter.1 hp).1)
      rw [requiredObject_cons hnil]
      exact .braced hx (lacks_append.2 ⟨lacks_append.2 ⟨.const hx (by decide), hentries⟩, .const hx (by decide)⟩)
  exact lacks_append.2 ⟨lacks_append.2 ⟨.const hx (by decide), hobject⟩, .const hx (by decide)⟩

theorem lacks_basicAttributes : Lacks x (" ".intercalate (m.requiredProps.map PropSpec.inlineDefault)) :=
  .intercalate (.const hx (by decide)) (List.forall_mem_map.2 fun _ hp => lacks_inlineDefault hx hm (List.mem_filter.1 hp).1)

theorem lacks_extra {t : Topic} (ht : t.IsOf m) : Lacks x (m.extra t) := by
  have henabled : Lacks x m.enabledFlag := by
    rw [Component.enabledFlag]
    split
    · split
      · exact .const hx (by decide)
      · exact .const hx (by decide)
    · exact .const hx (by decide)
  cases t with
  | flag p => exact hm.propName p ht
  | text p => exact (hm.propName p ht).assigned hx (lacks_textVariable hx p.name)
  | alternative p value => exact (hm.propName p ht.1).textAttribute hx (hm.alternatives p ht.1 ht.2.1 value ht.2.2)
  | invocation p =>
    exact lacks_append.2 ⟨(hm.propName p ht).assigned hx (lacks_handlerVariable hx p.name), henabled⟩
  | blocked p =>
    exact lacks_append.2 ⟨(hm.propName p ht).assigned hx (lacks_handlerVariable hx p.name), .const hx (by decide)⟩
  | rendering | keyboard => exact Lacks.const (s := "") hx (by decide)
  | loading => exact Lacks.const (s := loadingProp) hx (by decide)
  | icon => exact Lacks.const (s := textAttribute iconProp "test-icon") hx (by decide)
  | disabled => exact Lacks.const (s := disabledProp) hx (by decide)

/-! ## Lines of cases -/

theorem lacks_setup {t : Topic} (ht : t.IsOf m) : ∀ line ∈ t.setup, Lacks x line := by
  have hhandler : ∀ name, Lacks x ("const " ++ handlerVariable name ++ " = jest.fn();") := fun name =>
    lacks_append.2 ⟨lacks_append.2 ⟨.const hx (by decide), lacks_handlerVariable hx name⟩, .const hx (by decide)⟩
  cases t with
  | text p =>
    have htext : Lacks x (Json.quote ("Test " ++ p.name)) :=
      .quote hx (lacks_append.2 ⟨.const hx (by decide), hm.propName p ht⟩)
    rw [Topic.setup, List.forall_mem_singleton]
    simp only [lacks_append]
    exact ⟨⟨⟨⟨.const hx (by decide), lacks_textVariable hx p.name⟩, .const hx (by decide)⟩, htext⟩, .const hx (by decide)⟩
  | invocation p => exact List.forall_mem_singleton.2 (hhandler p.name)
  | blocked p => exact List.forall_mem_singleton.2 (hhandler p.name)
  | rendering | flag | alternative | loading | icon | keyboard | disabled => exact List.forall_mem_nil _

omit hm in
theorem lacks_roleQuery (m : Component) : Lacks x m.roleQuery :=
  lacks_append.2 ⟨lacks_append.2 ⟨.const hx (by decide), .quote hx (.of_alphanum hx (expectedRole_alphanum _).1)⟩,
    .const hx (by decide)⟩

omit hm in
theorem lacks_roleLine (m : Component) : Lacks x m.roleLine :=
  lacks_append.2 ⟨lacks_append.2 ⟨.const hx (by decide), lacks_roleQuery hx m⟩, .const hx (by decide)⟩

omit hm in
theorem lacks_classAssertion {name : String} (h : Lacks x name) : Lacks x (Component.classAssertion name) :=
  lacks_append.2 ⟨lacks_append.2 ⟨.const hx (by decide), h.className hx⟩, .const hx (by decide)⟩

omit hm in
theorem lacks_call (name : String) : Lacks x (triggerFor name).call := by
  have htyped : Lacks x typedArgument := .braced hx (lacks_append.2
    ⟨lacks_append.2 ⟨.const hx (by decide), .braced hx (.const hx (by decide))⟩, .const hx (by decide)⟩)
  have hkey : Lacks x keyArgument := .braced hx (.const hx (by decide))
  have htable : ∀ t ∈ clickTrigger :: eventTriggers.map (·.2),
      (Lacks '\n' t.method ∧ Lacks '<' t.method) ∧ t.argument ∈ ["", typedArgument, keyArgument] := by decide
  obtain ⟨hmethod, hargument⟩ := htable _ (triggerFor_mem name)
  have hmethod : Lacks x (triggerFor name).method := .const hx hmethod
  have hargument : Lacks x (triggerFor name).argument := by
    simp only [List.mem_cons, List.not_mem_nil, or_false] at hargument
    rcases hargument with h | h | h <;> rw [h]
    · exact .const hx (by decide)
    · exact htyped
    · exact hkey
  rw [Trigger.call]
  split
  · exact lacks_append.2 ⟨lacks_append.2 ⟨.const hx (by decide), hmethod⟩, .const hx (by decide)⟩
  · simp only [lacks_append]
    exact ⟨⟨⟨⟨.const hx (by decide), hmethod⟩, .const hx (by decide)⟩, hargument⟩, .const hx (by decide)⟩

theorem lacks_check {t : Topic} (ht : t.IsOf m) : ∀ line ∈ m.check t, Lacks x line := by
  have hrole := lacks_roleLine hx m
  have hhidden : Lacks x (braced " hidden: true ") := .braced hx (.const hx (by decide))
  have hexpect : ∀ {variable_ assertion : String}, Lacks x variable_ → Lacks x assertion →
      Lacks x ("expect(" ++ variable_ ++ assertion) := fun hvariable hassertion =>
    lacks_append.2 ⟨lacks_append.2 ⟨.const hx (by decide), hvariable⟩, hassertion⟩
  cases t with
  | rendering => exact List.forall_mem_nil _
  | flag p =>
    simp only [Component.check, List.forall_mem_cons]
    exact ⟨hrole, lacks_classAssertion hx (hm.propName p ht), by simp⟩
  | text p =>
    rw [Component.check, List.forall_mem_singleton, lacks_append, lacks_append]
    exact ⟨⟨.const hx (by decide), lacks_textVariable hx p.name⟩, .const hx (by decide)⟩
  | alternative p value =>
    have hclass : Lacks x (p.name ++ "--" ++ value) := lacks_append.2
      ⟨lacks_append.2 ⟨hm.propName p ht.1, .const hx (by decide)⟩, hm.alternatives p ht.1 ht.2.1 value ht.2.2⟩
    simp only [Component.check, List.forall_mem_cons]
    exact ⟨hrole, lacks_classAssertion hx hclass, by simp⟩
  | invocation p =>
    simp only [Component.check, List.forall_mem_cons]
    exact ⟨hrole, lacks_call hx p.name, .const hx (by decide), hexpect (lacks_handlerVariable hx p.name) (.const hx (by decide)), by simp⟩
  | blocked p =>
    simp only [Component.check, List.forall_mem_cons]
    exact ⟨hrole, lacks_call hx p.name, .const hx (by decide), hexpect (lacks_handlerVariable hx p.name) (.const hx (by decide)), by simp⟩
  | loading =>
    have hstatus : Lacks x statusQuery :=
      lacks_append.2 ⟨lacks_append.2 ⟨.const hx (by decide), hhidden⟩, .const hx (by decide)⟩
    exact List.forall_mem_singleton.2 (hexpect hstatus (.const hx (by decide)))
  | icon =>
    have hicon : Lacks x iconQuery :=
      lacks_append.2 ⟨lacks_append.2 ⟨.const hx (by decide), hhidden⟩, .const hx (by decide)⟩
    simp only [Component.check, List.forall_mem_cons]
    exact ⟨lacks_append.2 ⟨lacks_append.2 ⟨.const hx (by decide), hicon⟩, .const hx (by decide)⟩, .const hx (by decide), by simp⟩
  | keyboard =>
    simp only [Component.check, List.forall_mem_cons]
    exact ⟨hrole, .const hx (by decide), by simp⟩
  | disabled =>
    simp only [Component.check, List.forall_mem_cons]
    exact ⟨hrole, .const hx (by decide), by simp⟩

end

end Suitewright
