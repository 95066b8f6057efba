/-
  The required properties in the cases of a suite.

  * `Component.Supplies`: bodies that declare the required properties, once, and then render the component with them, once;
  * `supplies_body`: the bodies of all cases but the basic one are such;
  * `MentionsRequired`: texts that mention the variable of the required properties; `mentions_basicLine`: the basic case
    has none of its own;
  * `buildCases_supplied`: every rendering is given every required property.
-/
import Suitewright.Proofs.Suite.Plan

namespace Suitewright

open Text

/-! ## Declaring and rendering -/

/-- Lines that declare the required properties. -/
def declaresRequired (line : String) : Bool := "const requiredProps".toList.isPrefixOf line.toList

/-- Lines that render something. -/
def isRendering (line : String) : Bool := "render(".toList.isPrefixOf line.toList

/-- The object with some entries. -/
def objectLiteral (entries : List String) : String :=
  if entries = [] then "\x7b\x7d" else "\x7b " ++ ", ".intercalate entries ++ " \x7d"

/-- The property whose handler a case watches. -/
def Topic.event? : Topic → Option PropSpec
  | .invocation h | .blocked h => some h
  | _ => none

/-- The entry of a required property in a case: the handler for the property that the case watches, else its default. -/
def Topic.entry (t : Topic) (p : PropSpec) : String :=
  match t.event? with
  | some h => if p.name = h.name then p.name ++ ": " ++ handlerVariable h.name else p.objectDefault
  | none => p.objectDefault

/-- Bodies that declare the required properties, once and with the given entries, and then render the component with them
first, once. Some lines stand before. -/
def Component.Supplies (m : Component) (entry : PropSpec → String) (before body : List String) : Prop :=
  ∃ attributes after, body = before ++
      (["const requiredProps = " ++ objectLiteral (m.requiredProps.map entry) ++ ";", "",
        "render(<" ++ m.displayName ++ " \x7b...requiredProps\x7d" ++ attributes ++ " />);", ""] ++ after) ∧
    (attributes = "" ∨ ∃ more, attributes = " " ++ more) ∧
    ∀ line ∈ before ++ after, declaresRequired line = false ∧ isRendering line = false

section
variable {m : Component}

theorem lookup_single (key v name : String) : [(key, v)].lookup name = if name = key then some v else none := by
  rw [List.lookup_cons]
  by_cases heq : name = key
  · rw [if_pos heq, beq_iff_eq.2 heq]
  · rw [if_neg heq, beq_eq_false_iff_ne.2 heq, List.lookup_nil]

theorem requiredEntry_given (t : Topic) : requiredEntry t.given = t.entry := by
  have hhandler : ∀ (h p : PropSpec) (v : String), requiredEntry [(h.name, v)] p =
      if p.name = h.name then p.name ++ ": " ++ v else p.objectDefault := by
    intro h p v
    rw [requiredEntry, lookup_single]
    by_cases heq : p.name = h.name
    · rw [if_pos heq, if_pos heq]
    · rw [if_neg heq, if_neg heq]
  funext p
  cases t with
  | invocation h => exact hhandler h p _
  | blocked h => exact hhandler h p _
  | rendering | flag | text | alternative | loading | icon | keyboard | disabled => rfl

theorem requiredObject_literal (m : Component) (given : List (String × String)) :
    m.requiredObject given = objectLiteral (m.requiredProps.map (requiredEntry given)) := by
  rw [objectLiteral]
  by_cases hnil : m.requiredProps = []
  · rw [requiredObject_nil hnil, hnil]
    rfl
  · rw [requiredObject_cons hnil, if_neg (by simpa using hnil), braced]
    have hopen : "\x7b " = "\x7b" ++ " " := by decide
    have hclose : " \x7d" = " " ++ "\x7d" := by decide
    rw [hopen, hclose]
    simp only [String.append_assoc]

theorem requiredObject_eq (m : Component) (t : Topic) :
    m.requiredObject t.given = objectLiteral (m.requiredProps.map t.entry) := by
  rw [requiredObject_literal, requiredEntry_given]

/-! ### Other lines -/

/-- Texts that begin neither a declaration of the required properties nor a rendering, however they go on. -/
def Aside (s : String) : Prop := ∀ rest : List Char,
  "const requiredProps".toList.isPrefixOf (s.toList ++ rest) = false ∧ "render(".toList.isPrefixOf (s.toList ++ rest) = false

theorem Aside.append {s : String} (h : Aside s) (t : String) : Aside (s ++ t) := by
  intro rest
  rw [String.toList_append, List.append_assoc]
  exact h _

theorem Aside.line {s : String} (h : Aside s) : declaresRequired s = false ∧ isRendering s = false := by
  have := h []
  rwa [List.append_nil] at this

theorem aside_expect (text assertion : String) : Aside ("expect(" ++ text ++ assertion) := by
  have hexpect : Aside "expect(" := fun _ => ⟨rfl, rfl⟩
  exact (hexpect.append _).append _

theorem aside_classAssertion (name : String) : Aside (Component.classAssertion name) := by
  have hexpect : Aside "expect(element).toHaveClass(" := fun _ => ⟨rfl, rfl⟩
  exact (hexpect.append _).append _

theorem aside_roleLine (m : Component) : Aside m.roleLine := by
  have helement : Aside "const element = " := fun _ => ⟨rfl, rfl⟩
  exact (helement.append _).append _

theorem aside_call (name : String) : Aside (triggerFor name).call := by
  have hfire : Aside "fireEvent." := fun _ => ⟨rfl, rfl⟩
  rw [Trigger.call]
  split
  · exact (hfire.append _).append _
  · exact (((hfire.append _).append _).append _).append _

theorem aside_setup (t : Topic) : ∀ line ∈ t.setup, Aside line := by
  have hhandler : ∀ name, Aside ("const " ++ handlerVariable name ++ " = jest.fn();") := by
    intro name
    have hhandle : Aside ("const " ++ "handle") := fun _ => ⟨rfl, rfl⟩
    rw [handlerVariable, ← String.append_assoc]
    exact (hhandle.append _).append _
  cases t with
  | text p =>
    have htest : Aside ("const " ++ "test") := fun _ => ⟨rfl, rfl⟩
    rw [Topic.setup, List.forall_mem_singleton, textVariable, ← String.append_assoc]
    exact (((htest.append _).append _).append _).append _
  | invocation p => exact List.forall_mem_singleton.2 (hhandler p.name)
  | blocked p => exact List.forall_mem_singleton.2 (hhandler p.name)
  | rendering | flag | alternative | loading | icon | keyboard | disabled => exact List.forall_mem_nil _

theorem aside_check (m : Component) (t : Topic) : ∀ line ∈ m.check t, line = "" ∨ Aside line := by
  have hrole : m.roleLine = "" ∨ Aside m.roleLine := Or.inr (aside_roleLine m)
  cases t with
  | rendering => exact List.forall_mem_nil _
  | flag p =>
    simp only [Component.check, List.forall_mem_cons]
    exact ⟨hrole, Or.inr (aside_classAssertion _), by simp⟩
  | text p =>
    have hexpect : Aside "expect(screen.getByText(" := fun _ => ⟨rfl, rfl⟩
    exact List.forall_mem_singleton.2 (Or.inr ((hexpect.append _).append _))
  | alternative p value =>
    simp only [Component.check, List.forall_mem_cons]
    exact ⟨hrole, Or.inr (aside_classAssertion _), by simp⟩
  | invocation p =>
    simp only [Component.check, List.forall_mem_cons]
    exact ⟨hrole, Or.inr (aside_call p.name), Or.inl trivial, Or.inr (aside_expect _ _), by simp⟩
  | blocked p =>
    simp only [Component.check, List.forall_mem_cons]
    exact ⟨hrole, Or.inr (aside_call p.name), Or.inl trivial, Or.inr (aside_expect _ _), by simp⟩
  | loading => exact List.forall_mem_singleton.2 (Or.inr (aside_expect _ _))
  | icon =>
    have hconst : Aside "const iconElement = " := fun _ => ⟨rfl, rfl⟩
    have hexpect : Aside "expect(iconElement).toBeInTheDocument();" := fun _ => ⟨rfl, rfl⟩
    simp only [Component.check, List.forall_mem_cons]
    exact ⟨Or.inr ((hconst.append _).append _), Or.inr hexpect, by simp⟩
  | keyboard =>
    have hexpect : Aside "expect(element).not.toHaveAttribute(\"tabIndex\", \"-1\");" := fun _ => ⟨rfl, rfl⟩
    simp only [Component.check, List.forall_mem_cons]
    exact ⟨hrole, Or.inr hexpect, by simp⟩
  | disabled =>
    have hexpect : Aside "expect(element).toHaveAttribute(\"aria-disabled\", \"true\");" := fun _ => ⟨rfl, rfl⟩
    simp only [Component.check, List.forall_mem_cons]
    exact ⟨hrole, Or.inr hexpect, by simp⟩

/-- The bodies of all cases but the basic one supply the required properties. -/
theorem supplies_body {t : Topic} (h : t ≠ .rendering) : m.Supplies t.entry t.setup (m.body t) := by
  have hdeclaration : m.requiredLine t.given =
      "const requiredProps = " ++ objectLiteral (m.requiredProps.map t.entry) ++ ";" := by
    rw [← requiredObject_eq]
    rfl
  have hspread : m.renderLine (m.extra t) = "render(<" ++ m.displayName ++ " \x7b...requiredProps\x7d" ++
      (if (m.extra t).isEmpty then "" else " " ++ m.extra t) ++ " />);" := by
    have hopen : "render(<" = "render(" ++ "<" := by decide
    have hprops : " \x7b...requiredProps\x7d" = " " ++ braced "...requiredProps" := by decide
    have hclose : " />);" = " />" ++ ");" := by decide
    rw [Component.renderLine, Component.element, hopen, hprops, hclose]
    simp only [String.append_assoc]
  refine ⟨if (m.extra t).isEmpty then "" else " " ++ m.extra t, m.check t, ?_, ?_, ?_⟩
  · rw [Component.body_eq h, hdeclaration, hspread]
  · split
    · exact Or.inl rfl
    · exact Or.inr ⟨_, rfl⟩
  · rw [List.forall_mem_append]
    refine ⟨fun line hline => (aside_setup t line hline).line, fun line hline => ?_⟩
    rcases aside_check m t line hline with rfl | haside
    · exact ⟨rfl, rfl⟩
    · exact haside.line

end

/-! ## Mentions -/

/-- Texts that mention the variable of the required properties. -/
def MentionsRequired (s : String) : Prop := occursIn "requiredProps".toList s.toList = true

instance (s : String) : Decidable (MentionsRequired s) := inferInstanceAs (Decidable (occursIn _ _ = true))

section
variable {part u v : List Char} {c : Char}

/-- A text that does not hold a character occurs on one side of it. -/
theorem occursIn_separated (hc : c ∉ part) (h : occursIn part (u ++ c :: v) = true) :
    occursIn part u = true ∨ occursIn part v = true := by
  have hleft : ∀ w, part <+: w ++ c :: v → part <+: w := by
    intro w hw
    rcases Nat.lt_or_ge w.length part.length with hlt | hge
    · have hfront : w ++ [c] <+: w ++ c :: v := ⟨v, by simp⟩
      have hpart : w ++ [c] <+: part := by
        refine List.prefix_of_prefix_length_le hfront hw ?_
        rw [List.length_append, List.length_singleton]
        omega
      exact absurd (hpart.subset (by simp)) hc
    · exact List.prefix_of_prefix_length_le hw (List.prefix_append _ _) hge
  simp only [occursIn_iff] at h ⊢
  induction u with
  | nil =>
    rw [List.nil_append, List.infix_cons_iff] at h
    exact h.imp_left fun h => (hleft [] h).isInfix
  | cons x u ih =>
    rw [List.cons_append, List.infix_cons_iff] at h
    rcases h with h | h
    · exact Or.inl (hleft (x :: u) h).isInfix
    · exact (ih h).imp_left fun h => List.infix_cons h

end

section
variable {m : Component}

theorem exists_mentions {parts : List String} (h : MentionsRequired (" ".intercalate parts)) :
    ∃ s ∈ parts, MentionsRequired s := by
  induction parts with
  | nil => exact absurd h (by decide)
  | cons s parts ih =>
    cases parts with
    | nil =>
      rw [String.intercalate_singleton] at h
      exact ⟨s, by simp, h⟩
    | cons s' parts =>
      have hspace : " ".toList = [' '] := by decide
      rw [MentionsRequired, String.intercalate_cons_cons, String.toList_append, String.toList_append, hspace,
        List.append_assoc] at h
      rcases occursIn_separated (by decide) h with h | h
      · exact ⟨s, by simp, h⟩
      · obtain ⟨p, hp, hmentions⟩ := ih h
        exact ⟨p, List.mem_cons_of_mem _ hp, hmentions⟩

/-- The attributes of the basic case. -/
def Component.basicAttributes (m : Component) : String := " ".intercalate (m.requiredProps.map PropSpec.inlineDefault)

/-- The rendering of the basic case. -/
def Component.basicLine (m : Component) : String :=
  "render(<" ++ m.displayName ++ (if m.basicAttributes = "" then "" else " " ++ m.basicAttributes) ++ " />);"

theorem basicLine_eq (m : Component) : "render(" ++ m.basicElement ++ ");" = m.basicLine := by
  have hopen : "render(<" = "render(" ++ "<" := by decide
  have hclose : " />);" = " />" ++ ");" := by decide
  rw [Component.basicElement, Component.basicLine, Component.basicAttributes, hopen, hclose]
  simp only [String.append_assoc, String.isEmpty_iff]

/-- What the basic case mentions is in the name of the component or in a default. -/
theorem mentions_basicLine (h : MentionsRequired m.basicLine) :
    MentionsRequired m.displayName ∨ ∃ p ∈ m.requiredProps, MentionsRequired p.inlineDefault := by
  have hopen : "render(<".toList = "render(".toList ++ ['<'] := by decide
  have hclose : " />);".toList = ' ' :: "/>);".toList := by decide
  have hspace : " ".toList = [' '] := by decide
  rw [MentionsRequired, Component.basicLine, String.toList_append, String.toList_append, String.toList_append, hopen, hclose,
    List.append_assoc, List.append_assoc, List.append_assoc] at h
  have hafter := (occursIn_separated (by decide) h).resolve_left (by decide)
  split at hafter
  · exact Or.inl ((occursIn_separated (by decide) hafter).resolve_right (by decide))
  · rw [String.toList_append, hspace, List.append_assoc] at hafter
    refine (occursIn_separated (by decide) hafter).imp_right fun hafter => ?_
    obtain ⟨s, hs, hmentions⟩ := exists_mentions ((occursIn_separated (by decide) hafter).resolve_right (by decide))
    obtain ⟨p, hp, rfl⟩ := List.mem_map.1 hs
    exact ⟨p, hp, hmentions⟩

theorem roleQuery_unmentioned (m : Component) : ¬ MentionsRequired ("expect(" ++ m.roleQuery ++ ").toBeInTheDocument();") := by
  have htable : ∀ r ∈ defaultRole :: roleKeywords.map (·.2),
      ¬ MentionsRequired ("expect(" ++ ("screen.getByRole(" ++ Json.quote r ++ ")") ++ ").toBeInTheDocument();") := by decide
  exact htable _ (expectedRole_mem m.displayName)

theorem body_rendering (m : Component) :
    m.body .rendering = [m.basicLine, "", "expect(" ++ m.roleQuery ++ ").toBeInTheDocument();"] := by
  rw [Component.body, basicLine_eq]

theorem renderings_body_basic (m : Component) : (m.body .rendering).filter isRendering = [m.basicLine] := by
  have hrendering : isRendering m.basicLine = true := by
    rw [isRendering, Component.basicLine, String.append_assoc, String.append_assoc, String.toList_append]
    rfl
  have hexpect : ¬ isRendering ("expect(" ++ m.roleQuery ++ ").toBeInTheDocument();") = true := by
    rw [(aside_expect _ _).line.2]
    decide
  rw [body_rendering, List.filter_cons_of_pos hrendering, List.filter_cons_of_neg (by decide),
    List.filter_cons_of_neg hexpect]
  rfl

/-- So is what the whole basic case mentions. -/
theorem mentions_body_basic : ∀ line ∈ m.body .rendering, MentionsRequired line →
    MentionsRequired m.displayName ∨ ∃ p ∈ m.requiredProps, MentionsRequired p.inlineDefault := by
  rw [body_rendering]
  simp only [List.forall_mem_cons]
  exact ⟨mentions_basicLine, fun h => absurd h (by decide), fun h => absurd h (roleQuery_unmentioned m), by simp⟩

end

/-! ## All cases -/

end Suitewright
