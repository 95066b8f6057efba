/-
  What the cases of a suite are about.

  * `Topic`, `Component.caseOf`: what a case can be about, and the case about it;
  * `Component.plan`, `buildCases_eq`: the topics of a component, in order, and that its cases are the ones about them;
  * `length_plan`: how many there are;
  * `isOf_plan`: they are about properties of the component;
  * `Component.body`, `exists_caseOf`: the lines of a case, put together from what the topic asks for.
-/
import Mathlib.Algebra.GroupWithZero.Nat
import Suitewright.Proofs.Suite.Whole

namespace Suitewright

open Text

/-! ## Topics -/

/-- What a case is about. -/
inductive Topic where
  /-- That the component can be rendered. -/
  | rendering
  /-- A property that is true or false. -/
  | flag (p : PropSpec)
  /-- A property that is a text. -/
  | text (p : PropSpec)
  /-- One alternative of a property. -/
  | alternative (p : PropSpec) (value : String)
  /-- An event that reaches its handler. -/
  | invocation (p : PropSpec)
  /-- An event that a disabled component keeps from its handler. -/
  | blocked (p : PropSpec)
  /-- The loading state. -/
  | loading
  /-- The icon. -/
  | icon
  /-- The keyboard. -/
  | keyboard
  /-- The disabled state. -/
  | disabled
  deriving DecidableEq

/-- The topics of the type of a property. -/
def PropSpec.typeTopics (p : PropSpec) : List Topic :=
  if p.type.isBoolean then [.flag p]
  else if p.type.isString then [.text p]
  else if p.type.isUnion then p.type.alternatives.map (.alternative p)
  else []

namespace Component

variable (m : Component)

/-- Whether a property has a name. -/
def Declares (name : String) : Prop := ∃ p ∈ m.props, p.name = name

instance (name : String) : Decidable (m.Declares name) :=
  inferInstanceAs (Decidable (∃ p ∈ m.props, p.name = name))

/-- The case about a topic. -/
def caseOf : Topic → TestCase
  | .rendering => m.basicCase
  | .flag p => m.booleanCase p
  | .text p => m.textCase p
  | .alternative p value => m.unionCase p value
  | .invocation p => m.invocationCase p
  | .blocked p => m.disabledEventCase p
  | .loading => m.loadingCase
  | .icon => m.iconCase
  | .keyboard => m.keyboardCase
  | .disabled => m.disabledCase

/-- The topics of a property for an event. -/
def eventTopics (p : PropSpec) : List Topic :=
  if p.isEvent then .invocation p :: (if m.Declares disabledProp then [.blocked p] else []) else []

/-- A topic that is there when a property has a name. -/
def topicIf (name : String) (t : Topic) : List Topic := if m.Declares name then [t] else []

/-- The topics of a component, in order. -/
def plan : List Topic :=
  [.rendering] ++ m.props.flatMap PropSpec.typeTopics ++ m.props.flatMap m.eventTopics ++
    m.topicIf loadingProp .loading ++ m.topicIf iconProp .icon ++ [.keyboard] ++ m.topicIf disabledProp .disabled

end Component

/-- A component with properties of each class and one for an event. -/
def toggleComponent : Component where
  name := "Toggle"
  props := [⟨"label", ⟨"string"⟩, false, none⟩, ⟨"size", ⟨"'sm' | 'lg'"⟩, true, none⟩,
    ⟨"onToggle", ⟨"() => void"⟩, false, none⟩, ⟨"disabled", ⟨"boolean"⟩, true, none⟩]
  sourcePath := "src/Toggle.tsx"

example : toggleComponent.plan = [.rendering, .text ⟨"label", ⟨"string"⟩, false, none⟩,
    .alternative ⟨"size", ⟨"'sm' | 'lg'"⟩, true, none⟩ "sm", .alternative ⟨"size", ⟨"'sm' | 'lg'"⟩, true, none⟩ "lg",
    .flag ⟨"disabled", ⟨"boolean"⟩, true, none⟩, .invocation ⟨"onToggle", ⟨"() => void"⟩, false, none⟩,
    .blocked ⟨"onToggle", ⟨"() => void"⟩, false, none⟩, .keyboard, .disabled] := by decide

/-! ### Classes of types -/

theorem mem_dropWhile_of_not {p : Char → Bool} {c : Char} {cs : List Char} (h : c ∈ cs) (hc : p c = false) :
    c ∈ cs.dropWhile p := by
  rw [← List.takeWhile_append_dropWhile (p := p) (l := cs), List.mem_append] at h
  refine h.resolve_left fun h => ?_
  rw [List.all_eq_true.1 List.all_takeWhile c h] at hc
  cases hc

/-- Trimming drops blanks alone. -/
theorem mem_trimChars {c : Char} {cs : List Char} (h : c ∈ cs) (hc : isBlank c = false) : c ∈ trimChars cs := by
  rw [trimChars, dropEnds, dropEnd, List.mem_reverse]
  exact mem_dropWhile_of_not (List.mem_reverse.2 (mem_dropWhile_of_not h hc)) hc

namespace TypeText

/-- A type whose text is a word is no union. -/
theorem isUnion_of_trimmed {t : TypeText} {word : List Char} (h : t.trimmed = word) (hword : '|' ∉ word) :
    t.isUnion = false := by
  have hbar : t.text.toList.contains '|' = false := by
    rw [List.contains_eq_mem, decide_eq_false_iff_not]
    intro hmem
    exact hword (h ▸ mem_trimChars hmem (by decide))
  rw [isUnion, hbar]
  rfl

theorem isUnion_of_isBoolean {t : TypeText} (h : t.isBoolean = true) : t.isUnion = false :=
  isUnion_of_trimmed (beq_iff_eq.1 h) (by decide)

theorem isUnion_of_isString {t : TypeText} (h : t.isString = true) : t.isUnion = false :=
  isUnion_of_trimmed (beq_iff_eq.1 h) (by decide)

theorem isString_of_isBoolean {t : TypeText} (h : t.isBoolean = true) : t.isString = false := by
  rw [isString, beq_iff_eq.1 h]
  decide

/-- No type is of two of the classes that have cases. -/
theorem count_classes (t : TypeText) : [t.isBoolean, t.isString, t.isUnion].count true ≤ 1 := by
  cases hboolean : t.isBoolean with
  | true =>
    rw [isString_of_isBoolean hboolean, isUnion_of_isBoolean hboolean]
    decide
  | false =>
    cases hstring : t.isString with
    | true =>
      rw [isUnion_of_isString hstring]
      decide
    | false => cases t.isUnion <;> decide

end TypeText

/-! ### The cases of a component -/

namespace Component

variable {m : Component}

theorem hasProp_iff {name : String} : m.hasProp name = true ↔ m.Declares name := by
  rw [hasProp, prop?, List.find?_isSome]
  simp only [beq_iff_eq, Declares]

theorem propCases_eq : m.propCases = fun p => p.typeTopics.map m.caseOf := by
  funext p
  rw [propCases, PropSpec.typeTopics]
  by_cases hboolean : p.type.isBoolean = true
  · rw [TypeText.isString_of_isBoolean hboolean, TypeText.isUnion_of_isBoolean hboolean, if_pos hboolean, if_pos hboolean]
    rfl
  · rw [if_neg hboolean, if_neg hboolean, List.nil_append]
    by_cases hstring : p.type.isString = true
    · rw [TypeText.isUnion_of_isString hstring, if_pos hstring, if_pos hstring]
      rfl
    · rw [if_neg hstring, if_neg hstring, List.nil_append]
      split
      · rw [List.map_map]
        rfl
      · rfl

theorem eventCases_eq : m.eventCases = fun p => (m.eventTopics p).map m.caseOf := by
  funext p
  rw [eventCases, eventTopics]
  simp only [hasProp_iff]
  split
  · split
    · rfl
    · rfl
  · rfl

theorem caseIf_eq (name : String) (t : Topic) : m.caseIf name (m.caseOf t) = (m.topicIf name t).map m.caseOf := by
  rw [caseIf, topicIf]
  simp only [hasProp_iff]
  split
  · rfl
  · rfl

/-- The cases of a component are those about its topics. -/
theorem buildCases_eq (m : Component) : m.buildCases = m.plan.map m.caseOf := by
  have hloading := m.caseIf_eq loadingProp .loading
  have hicon := m.caseIf_eq iconProp .icon
  have hdisabled := m.caseIf_eq disabledProp .disabled
  simp only [caseOf] at hloading hicon hdisabled
  simp only [buildCases, plan, List.map_append, List.map_flatMap, propCases_eq, eventCases_eq, hloading, hicon, hdisabled]
  rfl

/-! ## How many cases there are -/

/-- The number of cases for the type of a property. -/
theorem length_typeTopics (p : PropSpec) : p.typeTopics.length =
    if p.type.isBoolean || p.type.isString then 1 else if p.type.isUnion then p.type.alternatives.length else 0 := by
  rw [PropSpec.typeTopics]
  cases p.type.isBoolean with
  | true => rfl
  | false =>
    cases p.type.isString with
    | true => rfl
    | false =>
      cases p.type.isUnion with
      | true => exact List.length_map _
      | false => rfl

/-- One when a property has a name, else none. -/
def count (m : Component) (name : String) : Nat := if m.Declares name then 1 else 0

theorem length_topicIf (name : String) (t : Topic) : (m.topicIf name t).length = m.count name := by
  rw [topicIf, count]
  split
  · rfl
  · rfl

theorem length_eventTopics (p : PropSpec) :
    (m.eventTopics p).length = if p.isEvent then 1 + m.count disabledProp else 0 := by
  rw [eventTopics, count]
  split
  · rw [List.length_cons, Nat.add_comm]
    split
    · rfl
    · rfl
  · rfl

theorem sum_length_eventTopics (props : List PropSpec) :
    (props.map fun p => (m.eventTopics p).length).sum = props.countP PropSpec.isEvent * (1 + m.count disabledProp) := by
  induction props with
  | nil => exact (Nat.zero_mul _).symm
  | cons p props ih =>
    rw [List.map_cons, List.sum_cons, ih, length_eventTopics, List.countP_cons, Nat.add_mul, Nat.add_comm]
    congr 1
    split
    · exact (Nat.one_mul _).symm
    · exact (Nat.zero_mul _).symm

/-- The basic case and the one of the keyboard are always there. -/
theorem length_plan (m : Component) : m.plan.length =
    2 + (m.props.map fun p => p.typeTopics.length).sum + m.props.countP PropSpec.isEvent * (1 + m.count disabledProp) +
      m.count loadingProp + m.count iconProp + m.count disabledProp := by
  simp only [plan, List.length_append, length_topicIf, List.length_flatMap, sum_length_eventTopics, List.length_singleton]
  omega

end Component

/-! ## Where topics come from -/

/-- Topics about properties of a component. -/
def Topic.IsOf (m : Component) : Topic → Prop
  | .flag p | .text p | .invocation p | .blocked p => p ∈ m.props
  | .alternative p value => p ∈ m.props ∧ p.type.isUnion = true ∧ value ∈ p.type.alternatives
  | .rendering | .loading | .icon | .keyboard | .disabled => True

theorem isOf_typeTopics {m : Component} {p : PropSpec} (hp : p ∈ m.props) : ∀ t ∈ p.typeTopics, t.IsOf m := by
  rw [PropSpec.typeTopics]
  split
  · exact List.forall_mem_singleton.2 hp
  · split
    · exact List.forall_mem_singleton.2 hp
    · split
      · next hunion => exact List.forall_mem_map.2 fun value hvalue => ⟨hp, hunion, hvalue⟩
      · simp

theorem isOf_eventTopics {m : Component} {p : PropSpec} (hp : p ∈ m.props) : ∀ t ∈ m.eventTopics p, t.IsOf m := by
  rw [Component.eventTopics]
  split
  · rw [List.forall_mem_cons]
    refine ⟨hp, ?_⟩
    split
    · exact List.forall_mem_singleton.2 hp
    · simp
  · simp

theorem isOf_topicIf {m : Component} {name : String} {t : Topic} (ht : t.IsOf m) : ∀ t' ∈ m.topicIf name t, t'.IsOf m := by
  rw [Component.topicIf]
  split
  · exact List.forall_mem_singleton.2 ht
  · simp

/-- The cases of a component are about its own properties. -/
theorem isOf_plan (m : Component) : ∀ t ∈ m.plan, t.IsOf m := by
  simp only [Component.plan, List.forall_mem_append, List.forall_mem_singleton]
  refine ⟨⟨⟨⟨⟨⟨trivial, ?_⟩, ?_⟩, isOf_topicIf trivial⟩, isOf_topicIf trivial⟩, trivial⟩, isOf_topicIf trivial⟩
  · intro t ht
    obtain ⟨p, hp, ht⟩ := List.mem_flatMap.1 ht
    exact isOf_typeTopics hp t ht
  · intro t ht
    obtain ⟨p, hp, ht⟩ := List.mem_flatMap.1 ht
    exact isOf_eventTopics hp t ht

/-! ## Bodies

All cases but the basic one declare the required properties, render the component with them and then look at it. -/

/-- The values of required properties that a case knows better than their defaults. -/
def Topic.given : Topic → List (String × String)
  | .invocation p | .blocked p => [(p.name, handlerVariable p.name)]
  | _ => []

/-- The lines of a case before the required properties are declared. -/
def Topic.setup : Topic → List String
  | .text p => ["const " ++ textVariable p.name ++ " = " ++ Json.quote ("Test " ++ p.name) ++ ";"]
  | .invocation p | .blocked p => ["const " ++ handlerVariable p.name ++ " = jest.fn();"]
  | _ => []

namespace Component

variable (m : Component)

/-- What the component of a case is given besides the required properties. -/
def extra : Topic → String
  | .flag p => p.name
  | .text p => p.name ++ "=" ++ braced (textVariable p.name)
  | .alternative p value => textAttribute p.name value
  | .invocation p => p.name ++ "=" ++ braced (handlerVariable p.name) ++ m.enabledFlag
  | .blocked p => p.name ++ "=" ++ braced (handlerVariable p.name) ++ (" " ++ disabledProp)
  | .loading => loadingProp
  | .icon => textAttribute iconProp "test-icon"
  | .disabled => disabledProp
  | .rendering | .keyboard => ""

/-- The lines of a case after the component is rendered. -/
def check : Topic → List String
  | .rendering => []
  | .flag p => [m.roleLine, classAssertion p.name]
  | .text p => ["expect(screen.getByText(" ++ textVariable p.name ++ ")).toBeInTheDocument();"]
  | .alternative p value => [m.roleLine, classAssertion (p.name ++ "--" ++ value)]
  | .invocation p => [m.roleLine, (triggerFor p.name).call, "",
      "expect(" ++ handlerVariable p.name ++ ").toHaveBeenCalledTimes(1);"]
  | .blocked p => [m.roleLine, (triggerFor p.name).call, "", "expect(" ++ handlerVariable p.name ++ ").not.toHaveBeenCalled();"]
  | .loading => ["expect(" ++ statusQuery ++ ").toBeInTheDocument();"]
  | .icon => ["const iconElement = " ++ iconQuery ++ ";", "expect(iconElement).toBeInTheDocument();"]
  | .keyboard => [m.roleLine, "expect(element).not.toHaveAttribute(\"tabIndex\", \"-1\");"]
  | .disabled => [m.roleLine, "expect(element).toHaveAttribute(\"aria-disabled\", \"true\");"]

/-- The body of the case about a topic. -/
def body : Topic → List String
  | .rendering => ["render(" ++ m.basicElement ++ ");", "", "expect(" ++ m.roleQuery ++ ").toBeInTheDocument();"]
  | t => t.setup ++ ([m.requiredLine t.given, "", m.renderLine (m.extra t), ""] ++ m.check t)

variable {m : Component}

theorem body_eq {t : Topic} (h : t ≠ .rendering) :
    m.body t = t.setup ++ ([m.requiredLine t.given, "", m.renderLine (m.extra t), ""] ++ m.check t) := by
  cases t with
  | rendering => exact absurd rfl h
  | _ => rfl

theorem exists_caseOf (m : Component) (t : Topic) : ∃ title description, m.caseOf t = .make title description (m.body t) := by
  cases t with
  | _ => exact ⟨_, _, rfl⟩

end Component

end Suitewright
