/-
  What the rule for style classes makes of a line.

  * `Line.asserting`, `familyClass`: a line with the assertion of a style class replaced;
  * `assertingRule`, `familyRule`: the four replacements of the rule do this;
  * `replaceClassAssertions_textOf`: what the rule makes of a suite.
-/
import Suitewright.Proofs.Repair.Patterns

namespace Suitewright

open Text

/-- The text before the style class in an assertion. -/
def assertionStart : List Char := "expect(element).toHaveClass(\"".toList

/-- The text after the style class in an assertion. -/
def assertionEnd : List Char := "\");".toList

theorem Line.chars_classed_eq (component name : List Char) :
    (classed name).chars component = "        ".toList ++ (assertionStart ++ (name ++ assertionEnd)) := by
  have hopen : "        expect(element).toHaveClass(\"".toList = "        ".toList ++ assertionStart := by decide
  rw [chars_classed, hopen, List.append_assoc]
  rfl

theorem classAssertion_ends : Mark.Ends .classAssertion "expect(element).toHaveClass".toList '(' :=
  ⟨fun _ => rfl, by decide⟩

section
variable {pattern : List Char → Option (List Char × List Char)} {component name : List Char}

/-- Patterns that match assertions of style classes alone. -/
def IsAssertionPattern (pattern : List Char → Option (List Char × List Char)) : Prop :=
  Needs pattern ("expect(element).toHaveClass".toList ++ ['('])

/-- Before its assertion a line holds none. -/
theorem replaceAll_indent (hp : IsAssertionPattern pattern) (v : List Char) :
    replaceAll pattern ("        ".toList ++ v) = "        ".toList ++ replaceAll pattern v := by
  refine replaceAll_pass fun w hw hne => hp.none fun hstart => ?_
  obtain ⟨c, w, rfl⟩ := List.exists_cons_of_ne_nil hne
  have htable : ∀ d ∈ "        ".toList, d ≠ 'e' := List.forall_mem_ne'.2 (by decide)
  exact htable c (hw.subset (by simp)) (List.cons_prefix_cons.1 hstart).1.symm

/-- A rule that replaces assertions of style classes. -/
structure AssertionRule (pattern : List Char → Option (List Char × List Char)) (f : List Char → Line) : Prop where
  needs : IsAssertionPattern pattern
  acts : ∀ name, name.all isTame = true → ∀ v,
    (f name = .classed name ∧ pattern (assertionStart ++ (name ++ (assertionEnd ++ v))) = none) ∨
      ∃ result, pattern (assertionStart ++ (name ++ (assertionEnd ++ v))) = some (result, v) ∧
        ∀ component, (f name).chars component = "        ".toList ++ result

/-- A line with its assertion of a style class replaced. -/
def Line.onAssertion (f : List Char → Line) : Line → Line
  | classed name => f name
  | l => l

/-- An assertion of a style class without its first letter holds no mark. -/
theorem absent_assertionTail (h : name.all isTame = true) :
    Mark.classAssertion.Absent (assertionStart.tail ++ (name ++ assertionEnd)) := by
  have hend : Mark.classAssertion.Safe (assertionEnd ++ ['\n']) := fun _ => rfl
  have hsafe : Mark.classAssertion.Safe (name ++ (assertionEnd ++ ['\n'])) := (Mark.Safe.of_tame h).append hend
  unfold Mark.Absent
  rw [List.append_assoc, List.append_assoc, Mark.free_append, hsafe]
  rfl

/-- What a rule for assertions makes of a line. -/
theorem AssertionRule.actsOn {f : List Char → Line} (hrule : AssertionRule pattern f)
    (hc : IsWord component) : ActsOn pattern component (Line.onAssertion f) := by
  intro l h rest
  have habsent : Mark.classAssertion ∉ l.marks → replaceAll pattern (l.chars component ++ '\n' :: rest) =
      l.chars component ++ '\n' :: replaceAll pattern rest := fun hm =>
    replaceAll_absent hrule.needs classAssertion_ends (Line.absent hc h hm) rest
  cases l with
  | classed name =>
    have hsplit : (Line.classed name).chars component ++ '\n' :: rest =
        "        ".toList ++ (assertionStart ++ (name ++ (assertionEnd ++ '\n' :: rest))) := by
      rw [Line.chars_classed_eq]
      simp only [List.append_assoc]
    rw [hsplit, replaceAll_indent hrule.needs, Line.onAssertion]
    rcases hrule.acts name h ('\n' :: rest) with ⟨hsame, hnone⟩ | ⟨result, hsome, hchars⟩
    · have hcons : assertionStart = 'e' :: assertionStart.tail := rfl
      have htail : replaceAll pattern (assertionStart.tail ++ (name ++ (assertionEnd ++ '\n' :: rest))) =
          assertionStart.tail ++ (name ++ (assertionEnd ++ '\n' :: replaceAll pattern rest)) := by
        have := replaceAll_absent hrule.needs classAssertion_ends (absent_assertionTail h) rest
        simpa only [List.append_assoc] using this
      rw [hcons, List.cons_append] at hnone
      rw [hsame, Line.chars_classed_eq, hcons, List.cons_append, replaceAll_cons hnone, htail]
      simp only [List.append_assoc, List.cons_append]
    · have hparts : assertionStart ++ (name ++ (assertionEnd ++ '\n' :: rest)) =
          (assertionStart ++ (name ++ assertionEnd)) ++ '\n' :: rest := by
        simp only [List.append_assoc]
      have hline : replaceAll pattern ('\n' :: rest) = '\n' :: replaceAll pattern rest :=
        replaceAll_absent (l := []) hrule.needs classAssertion_ends rfl rest
      rw [hparts] at hsome
      rw [hparts, replaceAll_match hsome (List.cons_ne_nil _ _), hline, hchars, List.append_assoc]
  | query frame q => exact habsent (by cases q <;> simp [Line.marks, Query.marks])
  | fixed | named | default | render => exact habsent (by simp [Line.marks])

end

/-! ## The four replacements -/

/-- The line of an assertion with another one in its place, if it asserts a certain class. -/
def Line.asserting (name assertion : List Char) (n : List Char) : Line :=
  if n = name then .fixed ("        ".toList ++ assertion) else .classed n

theorem assertingRule {name : String} (hname : name.toList.all isTame = true) (assertion : List Char) :
    AssertionRule (fixed? (classAssertionText name).toList assertion) (Line.asserting name.toList assertion) := by
  have htext : (classAssertionText name).toList = assertionStart ++ (name.toList ++ assertionEnd) := by
    show ("expect(element).toHaveClass(\"" ++ name ++ "\");").toList = _
    rw [String.toList_append, String.toList_append, List.append_assoc]
    rfl
  refine ⟨(fixed?_needs _ _).trans ?_, fun n hn v => ?_⟩
  · rw [htext]
    exact ⟨'"' :: (name.toList ++ assertionEnd), rfl⟩
  · rw [Line.asserting]
    split
    · next heq =>
      refine Or.inr ⟨assertion, ?_, fun component => rfl⟩
      have hparts : assertionStart ++ (n ++ (assertionEnd ++ v)) =
          (assertionStart ++ (name.toList ++ assertionEnd)) ++ v := by
        rw [heq]
        simp only [List.append_assoc]
      rw [fixed?, htext, hparts, after?_append]
      rfl
    · next hne =>
      refine Or.inl ⟨rfl, (fixed?_needs _ _).none fun hp => hne ?_⟩
      rw [htext, List.prefix_append_right_inj] at hp
      have hno : ∀ w, name.toList ≠ n ++ '"' :: w := by
        intro w hw
        exact not_mem_of_class hname (by decide) (hw ▸ by simp : '"' ∈ name.toList)
      exact (eq_of_prefix_stop (not_mem_of_class hn (by decide)) hno hp).1.symm

/-- A style class of a family with the one of buttons in its place. -/
def familyClass (family n : List Char) : List Char :=
  match after? (family ++ ['-', '-']) n with
  | some (c :: value) => "btn--".toList ++ c :: value
  | _ => n

theorem familyClass_tame {family n : List Char} (h : n.all isTame = true) :
    (familyClass family n).all isTame = true := by
  rw [familyClass]
  split
  · next c value hafter =>
    rw [after?_eq_some.1 hafter, List.all_append] at h
    rw [List.all_append, (Bool.and_eq_true_iff.1 h).2]
    decide
  · exact h

theorem familyRule {family : String} (hfamily : '"' ∉ family.toList) :
    AssertionRule (familyClass? family) fun n => .classed (familyClass family.toList n) := by
  have htext : ("expect(element).toHaveClass(\"" ++ family ++ "--").toList =
      assertionStart ++ (family.toList ++ ['-', '-']) := by
    rw [String.toList_append, String.toList_append, List.append_assoc]
    rfl
  have hneeds : Needs (familyClass? family) (assertionStart ++ (family.toList ++ ['-', '-'])) := by
    intro cs found h
    simp only [familyClass?, Option.bind_eq_bind, Option.bind_eq_some_iff] at h
    obtain ⟨rest, hr, -⟩ := h
    rw [htext] at hr
    exact ⟨rest, (after?_eq_some.1 hr).symm⟩
  refine ⟨hneeds.trans ⟨'"' :: (family.toList ++ ['-', '-']), rfl⟩, fun n hn v => ?_⟩
  rw [familyClass]
  have hquote : '"' ∉ family.toList ++ ['-', '-'] := by simp [hfamily]
  cases hafter : after? (family.toList ++ ['-', '-']) n with
  | none =>
    refine Or.inl ⟨rfl, hneeds.none fun hp => after?_eq_none.1 hafter ?_⟩
    rw [List.prefix_append_right_inj] at hp
    exact prefix_of_stop hquote (hp : _ <+: n ++ '"' :: (");".toList ++ v))
  | some value =>
    have hn' := after?_eq_some.1 hafter
    have hvalue : value.all isTame = true := by
      rw [hn', List.all_append] at hn
      exact (Bool.and_eq_true_iff.1 hn).2
    have hopen : familyClass? family (assertionStart ++ (n ++ (assertionEnd ++ v))) =
        (upTo? '"' (value ++ '"' :: (");".toList ++ v))).bind fun found =>
          (after? ");".toList found.2).bind fun rest =>
            some ("expect(element).toHaveClass(\"btn--".toList ++ found.1 ++ "\");".toList, rest) := by
      have hparts : assertionStart ++ (n ++ (assertionEnd ++ v)) =
          (assertionStart ++ (family.toList ++ ['-', '-'])) ++ (value ++ '"' :: (");".toList ++ v)) := by
        rw [hn']
        simp only [List.append_assoc]
        rfl
      rw [familyClass?, htext, hparts, after?_append]
      rfl
    cases value with
    | nil => exact Or.inl ⟨rfl, hopen⟩
    | cons c value =>
      refine Or.inr ⟨assertionStart ++ ("btn--".toList ++ c :: value ++ assertionEnd), ?_, fun component => ?_⟩
      · rw [hopen, upTo?_append (List.cons_ne_nil c value) (not_mem_of_class hvalue (by decide)), Option.bind_some]
        dsimp only
        rw [after?_append, Option.bind_some]
        have hclass : "expect(element).toHaveClass(\"btn--".toList = assertionStart ++ "btn--".toList := by
          decide
        rw [hclass, List.append_assoc, List.append_assoc, List.append_assoc]
        rfl
      · rw [Line.chars_classed_eq]

/-! ## The rule -/

/-- What the rule for style classes makes of an assertion. -/
def Line.replacingClass (n : List Char) : Line :=
  if n = "disabled".toList then .fixed ("        ".toList ++ "expect(element).toBeDisabled();".toList)
  else if n = "loading".toList then
    .fixed ("        ".toList ++ "expect(element).toHaveAttribute(\"aria-disabled\", \"true\");".toList)
  else .classed (familyClass "variant".toList (familyClass "size".toList n))

section
variable {component : List Char} {f g : List Char → Line}

theorem Line.formed_onAssertion {l : Line} (h : l.Formed component)
    (hf : ∀ n, n.all isTame = true → (f n).Formed component) : (l.onAssertion f).Formed component := by
  cases l with
  | classed n => exact hf n h
  | _ => exact h

theorem Line.onAssertion_onAssertion (l : Line) :
    (l.onAssertion f).onAssertion g = l.onAssertion fun n => (f n).onAssertion g := by
  cases l <;> rfl

theorem asserting_formed {name assertion n : List Char}
    (h : (Line.fixed ("        ".toList ++ assertion)).Formed component) (hn : n.all isTame = true) :
    (Line.asserting name assertion n).Formed component := by
  rw [Line.asserting]
  split
  · exact h
  · exact hn

theorem disabled_formed :
    (Line.fixed ("        ".toList ++ "expect(element).toBeDisabled();".toList)).Formed component :=
  ⟨by decide, fun mark => by cases mark <;> rfl, Or.inl (by decide)⟩

theorem loading_formed : (Line.fixed ("        ".toList ++
    "expect(element).toHaveAttribute(\"aria-disabled\", \"true\");".toList)).Formed component :=
  ⟨by decide, fun mark => by cases mark <;> rfl, Or.inl (by decide)⟩

theorem replacingClass_formed {n : List Char} (h : n.all isTame = true) :
    (Line.replacingClass n).Formed component := by
  rw [Line.replacingClass]
  split
  · exact disabled_formed
  · split
    · exact loading_formed
    · exact familyClass_tame (familyClass_tame h)

/-- The four replacements of an assertion, one after another. -/
theorem replacingClass_eq (l : Line) :
    (((l.onAssertion (Line.asserting "disabled".toList "expect(element).toBeDisabled();".toList)).onAssertion
      (Line.asserting "loading".toList
        "expect(element).toHaveAttribute(\"aria-disabled\", \"true\");".toList)).onAssertion
      fun n => .classed (familyClass "size".toList n)).onAssertion
      (fun n => .classed (familyClass "variant".toList n)) = l.onAssertion Line.replacingClass := by
  rw [Line.onAssertion_onAssertion, Line.onAssertion_onAssertion, Line.onAssertion_onAssertion]
  congr 1
  funext n
  rw [Line.replacingClass, Line.asserting]
  split
  · rfl
  · rw [Line.onAssertion, Line.asserting]
    split <;> rfl

/-- What a rule for assertions makes of a suite. -/
theorem AssertionRule.textOf {pattern : List Char → Option (List Char × List Char)} {d : List Line}
    (hrule : AssertionRule pattern f) (hc : IsWord component) (hd : ∀ l ∈ d, l.Formed component)
    (hf : ∀ n, n.all isTame = true → (f n).Formed component) :
    replaceAll pattern (Line.textOf component d) = Line.textOf component (d.map (Line.onAssertion f)) ∧
      ∀ l ∈ d.map (Line.onAssertion f), l.Formed component :=
  ⟨(hrule.actsOn hc).textOf hd, List.forall_mem_map.2 fun l hl => Line.formed_onAssertion (hd l hl) hf⟩

/-- What the rule for style classes makes of a suite. -/
theorem replaceClassAssertions_textOf (hc : IsWord component) {d : List Line}
    (hd : ∀ l ∈ d, l.Formed component) :
    replaceClassAssertions (Line.textOf component d) =
      Line.textOf component (d.map (Line.onAssertion Line.replacingClass)) := by
  have hname : "disabled".toList.all isTame = true ∧ "loading".toList.all isTame = true := by decide
  have hfamily : '"' ∉ "size".toList ∧ '"' ∉ "variant".toList := by decide
  obtain ⟨hdisabled, hd₁⟩ := (assertingRule hname.1 "expect(element).toBeDisabled();".toList).textOf hc hd
    fun n hn => asserting_formed disabled_formed hn
  obtain ⟨hloading, hd₂⟩ := (assertingRule hname.2
    "expect(element).toHaveAttribute(\"aria-disabled\", \"true\");".toList).textOf hc hd₁
    fun n hn => asserting_formed loading_formed hn
  obtain ⟨hsize, hd₃⟩ := (familyRule hfamily.1).textOf hc hd₂ fun n hn => familyClass_tame hn
  obtain ⟨hvariant, -⟩ := (familyRule hfamily.2).textOf hc hd₃ fun n hn => familyClass_tame hn
  have hrule : replaceClassAssertions (Line.textOf component d) =
      replaceAll (familyClass? "variant") (replaceAll (familyClass? "size")
        (replaceAll (fixed? (classAssertionText "loading").toList
          "expect(element).toHaveAttribute(\"aria-disabled\", \"true\");".toList)
          (replaceAll (fixed? (classAssertionText "disabled").toList "expect(element).toBeDisabled();".toList)
            (Line.textOf component d)))) := rfl
  rw [hrule, hdisabled, hloading, hsize, hvariant, List.map_map, List.map_map, List.map_map]
  congr 2
  funext l
  exact replacingClass_eq l

end

end Suitewright
