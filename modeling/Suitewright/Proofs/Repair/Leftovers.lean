/-
  What rules leave in a suite.

  * `apart_roleQuery`, `TextQuery.apart`, `apart_assertion`: what is replaced is apart from its replacements;
  * `replaceRoleQuery_free`, `replaceStatusOrImage_free`, `replaceClassAssertions_free`: the rules leave nothing behind;
  * `Signal.Rewrites`: the texts that the rule of a signal replaces;
  * `mend_leaves_none`: none of them is left, so that the rule changes nothing when it is applied again.
-/
import Suitewright.Proofs.Repair.Assertions
import Suitewright.Proofs.Repair.Closures
import Suitewright.Proofs.Repair.Idempotence
import Suitewright.Proofs.Repair.Queries

namespace Suitewright

open Text

/-! ## Queries -/

/-- The query for a role. -/
def roleQuery (role : String) : List Char := ("screen.getByRole(" ++ Json.quote role ++ ")").toList

/-- The query for a role is apart from a query by a test identifier: behind the quotes of the role comes a bracket, and
quotes in the role come behind backslashes. -/
theorem apart_roleQuery (role : String) : Apart (roleQuery role) (testIdQuery fallbackTestId).toList := by
  have hrole : roleQuery role = "screen.getByRole(\"".toList ++ (quoteBody role.toList ++ '"' :: [')']) := roleText role
  have htestId : (testIdQuery fallbackTestId).toList = "screen.getByTestId(".toList ++ '"' :: "button\")".toList := by decide
  rw [hrole]
  constructor
  · refine .append (by decide) ?_
    rw [htestId]
    refine .of_stop ?_ (by decide) (by decide) (by decide)
    rintro ⟨u, v, huv⟩
    have hbefore : (u ++ "screen.getByTestId(".toList).getLast? = some '\\' :=
      quoteBody_behind (v := v) (by rw [← huv]; simp only [List.append_assoc]; rfl)
    have hbracket : "screen.getByTestId(".toList.getLast? = some '(' := by decide
    rw [List.getLast?_append, hbracket, Option.some_or] at hbefore
    exact absurd hbefore (by decide)
  · exact NoEndAgrees.longer (by decide) _

theorem roleQuery_clears (role : String) :
    Clears (fixed? (roleQuery role) (testIdQuery fallbackTestId).toList) (· = roleQuery role) := by
  refine fixed?_clears ?_
  rw [roleQuery, roleText]
  exact List.append_ne_nil_of_left_ne_nil (by decide) _

theorem replaceRoleQuery_free (role : String) (source : List Char) :
    Free (· = roleQuery role) (replaceRoleQuery role source) := by
  refine (roleQuery_clears role).free (repelledBy_fixed? ?_) source
  rintro _ rfl
  exact apart_roleQuery role

theorem statusQuery_clears :
    Clears (fixed? statusQuery.toList (testIdQuery statusTestId).toList) (· = statusQuery.toList) :=
  fixed?_clears (by decide)

theorem statusQuery_repelled :
    RepelledBy (· = statusQuery.toList) (fixed? statusQuery.toList (testIdQuery statusTestId).toList) := by
  refine repelledBy_fixed? ?_
  rintro _ rfl
  decide

/-- The query for an image. -/
def imageQuery : List Char := ("screen.getByRole(\"img\", " ++ braced " hidden: true " ++ ")").toList

theorem imageToIcon_eq_some {cs a rest : List Char} (h : imageToIcon cs = some (a, rest)) :
    (∃ t, (t = [] ∨ t = Query.iconEnd) ∧ cs = imageQuery ++ t ++ rest) ∧ a = (testIdQuery iconTestId).toList := by
  obtain ⟨rest', hquery, heq⟩ := Option.map_eq_some_iff.1 h
  obtain ⟨rfl, rfl⟩ := Prod.mk.inj heq
  simp only [imageQuery?, Option.bind_eq_bind, Option.bind_eq_some_iff] at hquery
  obtain ⟨r, hafter, hmore⟩ := hquery
  have hcs : cs = imageQuery ++ r := after?_eq_some.1 hafter
  cases halternative : after? " || screen.getByTestId(\"icon\")".toList r with
  | none =>
    rw [halternative] at hmore
    obtain rfl : r = rest' := Option.some.inj hmore
    exact ⟨⟨[], .inl rfl, by rw [hcs, List.append_nil]⟩, rfl⟩
  | some r' =>
    rw [halternative] at hmore
    obtain rfl : r' = rest' := Option.some.inj hmore
    have hr : r = Query.iconEnd ++ r' := after?_eq_some.1 halternative
    exact ⟨⟨Query.iconEnd, .inr rfl, by rw [hcs, hr, List.append_assoc]⟩, rfl⟩

theorem imageToIcon_clears : Clears imageToIcon (· = imageQuery) where
  ne_nil := by
    rintro _ rfl
    decide
  found := by
    intro v hv rest
    have hafter : after? ("screen.getByRole(\"img\", " ++ braced " hidden: true " ++ ")").toList (imageQuery ++ rest) =
        some rest := after?_append imageQuery rest
    rw [hv, imageToIcon, imageQuery?, hafter, Option.bind_eq_bind, Option.bind_some]
    exact Option.some_ne_none _
  only := by
    intro cs a rest h
    obtain ⟨⟨t, -, hcs⟩, -⟩ := imageToIcon_eq_some h
    exact ⟨imageQuery, t, rfl, hcs⟩

theorem imageQuery_repelled : RepelledBy (· = imageQuery) imageToIcon := by
  rintro _ rfl cs a rest h
  rw [(imageToIcon_eq_some h).2]
  decide

/-- The query that the rule for statuses and images replaces. -/
def statusOrImageQuery (role : String) : List Char := if role = "status" then statusQuery.toList else imageQuery

theorem replaceStatusOrImage_free (role : String) (source : List Char) :
    Free (· = statusOrImageQuery role) (replaceStatusOrImage role source) := by
  rw [replaceStatusOrImage, statusOrImageQuery]
  by_cases hrole : role = "status"
  · rw [if_pos hrole, if_pos (beq_iff_eq.2 hrole)]
    exact statusQuery_clears.free statusQuery_repelled source
  · rw [if_neg hrole, if_neg (mt beq_iff_eq.1 hrole)]
    exact imageToIcon_clears.free imageQuery_repelled source

theorem replaceStatusOrImage_eq_self {role : String} {source : List Char} (h : Free (· = statusOrImageQuery role) source) :
    replaceStatusOrImage role source = source := by
  rw [replaceStatusOrImage]
  rw [statusOrImageQuery] at h
  by_cases hrole : role = "status"
  · rw [if_pos hrole] at h
    rw [if_pos (beq_iff_eq.2 hrole)]
    exact statusQuery_clears.eq_self h
  · rw [if_neg hrole] at h
    rw [if_neg (mt beq_iff_eq.1 hrole)]
    exact imageToIcon_clears.eq_self h

/-! ## Queries by texts -/

/-- A query by the text of a variable. -/
def TextQuery (v : List Char) : Prop :=
  ∃ c w, c.isUpper = true ∧ w.all Char.isAlphanum = true ∧
    v = "screen.getByText(".toList ++ ("test".toList ++ c :: (w ++ [')']))

theorem capitalVariable_alphanum {c : Char} {w : List Char} (hc : c.isUpper = true) (hw : w.all Char.isAlphanum = true) :
    ("test".toList ++ c :: w).all Char.isAlphanum = true := by
  have htest : "test".toList.all Char.isAlphanum = true := by decide
  have hfirst : c.isAlphanum = true := by
    show (c.isUpper || c.isLower || c.isDigit) = true
    rw [hc]
    rfl
  rw [List.all_append, List.all_cons, htest, hfirst, hw]
  rfl

theorem textToTestId_eq_some {m : Component} {cs a rest : List Char} (h : textToTestId m cs = some (a, rest)) :
    (∃ v, TextQuery v ∧ cs = v ++ rest) ∧ ∃ name, a = (testIdQuery (className name)).toList := by
  obtain ⟨⟨v, r⟩, hquery, heq⟩ := Option.map_eq_some_iff.1 h
  obtain ⟨rfl, rfl⟩ := Prod.mk.inj heq
  refine ⟨?_, _, rfl⟩
  simp only [textQuery?, Option.bind_eq_bind, Option.bind_eq_some_iff] at hquery
  obtain ⟨r₁, h₁, r₂, h₂, hquery⟩ := hquery
  cases r₂ with
  | nil => cases hquery
  | cons c more =>
    dsimp only at hquery
    split at hquery
    · next hc =>
      obtain ⟨r₃, h₃, heq⟩ := Option.bind_eq_some_iff.1 hquery
      obtain ⟨-, rfl⟩ := Prod.mk.inj (Option.some.inj heq)
      refine ⟨_, ⟨c, more.takeWhile Char.isAlphanum, hc, List.all_takeWhile, rfl⟩, ?_⟩
      have hmore : more = more.takeWhile Char.isAlphanum ++ ([')'] ++ r₃) := by
        rw [← after?_eq_some.1 h₃]
        exact List.takeWhile_append_dropWhile.symm
      rw [after?_eq_some.1 h₁, after?_eq_some.1 h₂]
      conv_lhs => rw [hmore]
      simp only [List.append_assoc, List.cons_append]
    · cases hquery

theorem textToTestId_clears (m : Component) : Clears (textToTestId m) TextQuery where
  ne_nil := by
    rintro _ ⟨c, w, -, -, rfl⟩
    exact List.append_ne_nil_of_left_ne_nil (by decide) _
  found := by
    rintro _ ⟨c, w, hc, hw, rfl⟩ rest h
    have htest : isTestVariable ("test".toList ++ c :: w) = true := by
      rw [isTestVariable, after?_append]
      exact hc
    have hchars : "screen.getByText(".toList ++ ("test".toList ++ c :: (w ++ [')'])) =
        (Query.text ("test".toList ++ c :: w)).chars := by
      rw [Query.chars_text]
      simp only [List.append_assoc, List.cons_append]
    rw [textToTestId, hchars, textQuery?_text (capitalVariable_alphanum hc hw), if_pos htest] at h
    cases h
  only := by
    intro cs a rest h
    obtain ⟨⟨v, hv, rfl⟩, -⟩ := textToTestId_eq_some h
    exact ⟨v, [], hv, by rw [List.append_nil]⟩

/-- A query by a text is apart from a query by a test identifier. -/
theorem TextQuery.apart {v : List Char} (hv : TextQuery v) (name : String) : Apart v (testIdQuery (className name)).toList := by
  obtain ⟨c, w, hc, hw, rfl⟩ := hv
  have htestId : (testIdQuery (className name)).toList =
      "screen.getByTestId(\"".toList ++ (quoteBody (className name).toList ++ '"' :: [')']) := by
    rw [testIdQuery_toList, Query.chars_testId]
    rfl
  rw [htestId]
  constructor
  · refine .append (NoEndAgrees.longer (by decide) _) ?_
    -- the point behind `screen` is no part of a variable
    have hvariable : "test".toList ++ c :: (w ++ [')']) = ("test".toList ++ c :: w) ++ ')' :: [] := by simp
    have hpoint : ∀ t, "screen.getByTestId(\"".toList ++ t = "screen".toList ++ '.' :: ("getByTestId(\"".toList ++ t) :=
      fun _ => rfl
    rw [hvariable, hpoint]
    refine .of_stop (fun hin => ?_) (by decide) (fun h => absurd (agree_cons.1 h).1 (by decide)) ?_
    · exact not_mem_of_class (c := '.') (capitalVariable_alphanum hc hw) (by decide) (hin.subset (by simp))
    · exact NoEndAgrees.longer (v := "screen".toList) (by decide) _
  · refine .append (NoEndAgrees.longer (by decide) _) ?_
    -- the capital in `getByText` is no part of a style class
    have hcapital : ∀ t, "screen.getByText(".toList ++ t = "screen.get".toList ++ 'B' :: ("yText(".toList ++ t) :=
      fun _ => rfl
    rw [hcapital]
    refine .of_stop (fun hin => ?_) (by decide) (fun h => absurd (agree_cons.1 h).1 (by decide)) ?_
    · exact not_mem_of_class (c := 'B') (className_not_upper name) (by decide) (hin.subset (by simp))
    · exact NoEndAgrees.longer (v := "screen.get".toList) (by decide) _

theorem textToTestId_repelled (m : Component) : RepelledBy TextQuery (textToTestId m) := by
  intro v hv cs a rest h
  obtain ⟨-, name, ha⟩ := textToTestId_eq_some h
  rw [ha]
  exact hv.apart name

/-! ## Assertions of style classes -/

/-- The assertion of a style class. -/
def assertion (name : List Char) : List Char := assertionStart ++ (name ++ assertionEnd)

/-- The assertion of a style class of a family. -/
def FamilyAssertion (family : String) (v : List Char) : Prop :=
  ∃ value, value ≠ [] ∧ '"' ∉ value ∧ v = assertion (family.toList ++ ['-', '-'] ++ value)

theorem classAssertionText_toList (name : String) : (classAssertionText name).toList = assertion name.toList := by
  show ("expect(element).toHaveClass(\"" ++ name ++ "\");").toList = _
  rw [String.toList_append, String.toList_append, List.append_assoc]
  rfl

theorem assertion_eq (name : List Char) :
    assertion name = "expect(element).toHaveClass(".toList ++ '"' :: (name ++ assertionEnd) := by
  have hstart : assertionStart = "expect(element).toHaveClass(".toList ++ ['"'] := by decide
  rw [assertion, hstart, List.append_assoc, List.cons_append, List.nil_append]

theorem noEndAgrees_assertion {c d : Char} {u v : List Char} (hu : '"' ∉ c :: u) (hcd : c ≠ d) (hd : d ≠ ')') :
    NoEndAgrees (assertion (c :: u)) (assertion (d :: v)) := by
  have hbefore : '"' ∉ "expect(element).toHaveClass(".toList := by decide
  have hquote : NoEndAgrees ['"'] (assertion (d :: v)) := NoEndAgrees.longer (v := assertionStart) (by decide) _
  have hend : NoEndAgrees assertionEnd (assertion (d :: v)) := NoEndAgrees.longer (v := assertionStart) (by decide) _
  -- behind the class come a quote and a bracket
  have hclass : NoEndAgrees (c :: u ++ assertionEnd) (assertion (d :: v)) := by
    rw [assertion_eq] at hend ⊢
    exact .of_stop (fun hin => hu (hin.subset (by simp))) hbefore
      (fun h => hd (agree_cons.1 (agree_cons.1 h).2).1.symm) hend
  have hquoted : NoEndAgrees ('"' :: (c :: u ++ assertionEnd)) (assertion (d :: v)) := hquote.append hclass
  rw [assertion_eq (d :: v)] at hquoted ⊢
  rw [assertion_eq]
  exact .of_stop (fun hin => hbefore (hin.subset (by simp))) hbefore
    (fun h => hcd (agree_cons.1 (agree_cons.1 h).2).1) hquoted

/-- Assertions of different style classes are apart. -/
theorem apart_assertion {c d : Char} {u v : List Char} (hu : '"' ∉ c :: u) (hv : '"' ∉ d :: v) (hcd : c ≠ d)
    (hc : c ≠ ')') (hd : d ≠ ')') : Apart (assertion (c :: u)) (assertion (d :: v)) :=
  ⟨noEndAgrees_assertion hu hcd hd, noEndAgrees_assertion hv hcd.symm hc⟩

theorem familyClass?_eq_some {family : String} {cs a rest : List Char} (h : familyClass? family cs = some (a, rest)) :
    ∃ value, value ≠ [] ∧ '"' ∉ value ∧ cs = assertion (family.toList ++ ['-', '-'] ++ value) ++ rest ∧
      a = assertion ("btn--".toList ++ value) := by
  simp only [familyClass?, Option.bind_eq_bind, Option.bind_eq_some_iff] at h
  obtain ⟨r₁, h₁, ⟨value, r₂⟩, h₂, r₃, h₃, heq⟩ := h
  obtain ⟨rfl, rfl⟩ := Prod.mk.inj (Option.some.inj heq)
  obtain ⟨rfl, hne, hquote⟩ := upTo?_eq_some h₂
  obtain rfl : r₂ = ");".toList ++ r₃ := after?_eq_some.1 h₃
  refine ⟨value, hne, hquote, ?_, ?_⟩
  · have hstart : ("expect(element).toHaveClass(\"" ++ family ++ "--").toList =
        assertionStart ++ (family.toList ++ ['-', '-']) := by
      rw [String.toList_append, String.toList_append, List.append_assoc]
      rfl
    have hclose : assertionEnd = '"' :: ");".toList := by decide
    rw [after?_eq_some.1 h₁, hstart, assertion, hclose]
    simp only [List.append_assoc, List.cons_append]
  · have hstart : "expect(element).toHaveClass(\"btn--".toList = assertionStart ++ "btn--".toList := by decide
    have hclose : assertionEnd = "\");".toList := rfl
    rw [hstart, assertion, hclose]
    simp only [List.append_assoc]

theorem familyClass?_append {family : String} {value : List Char} (hne : value ≠ []) (hquote : '"' ∉ value) (rest : List Char) :
    familyClass? family (assertion (family.toList ++ ['-', '-'] ++ value) ++ rest) ≠ none := by
  have hstart : ("expect(element).toHaveClass(\"" ++ family ++ "--").toList =
      assertionStart ++ (family.toList ++ ['-', '-']) := by
    rw [String.toList_append, String.toList_append, List.append_assoc]
    rfl
  have hclose : assertionEnd = '"' :: ");".toList := by decide
  have hparts : assertion (family.toList ++ ['-', '-'] ++ value) ++ rest =
      (assertionStart ++ (family.toList ++ ['-', '-'])) ++ (value ++ '"' :: (");".toList ++ rest)) := by
    rw [assertion, hclose]
    simp only [List.append_assoc, List.cons_append]
  rw [familyClass?, hstart, hparts, after?_append, Option.bind_eq_bind, Option.bind_some, upTo?_append hne hquote,
    Option.bind_eq_bind, Option.bind_some]
  dsimp only
  rw [after?_append, Option.bind_some]
  exact Option.some_ne_none _

theorem familyClass?_clears (family : String) : Clears (familyClass? family) (FamilyAssertion family) where
  ne_nil := by
    rintro _ ⟨value, -, -, rfl⟩
    exact List.append_ne_nil_of_left_ne_nil (by decide) _
  found := by
    rintro _ ⟨value, hne, hquote, rfl⟩ rest
    exact familyClass?_append hne hquote rest
  only := by
    intro cs a rest h
    obtain ⟨value, hne, hquote, rfl, -⟩ := familyClass?_eq_some h
    exact ⟨_, [], ⟨value, hne, hquote, rfl⟩, by rw [List.append_nil]⟩

/-- An assertion of a class that does not begin as those of buttons do. -/
def IsOtherAssertion (v : List Char) : Prop :=
  ∃ c u, '"' ∉ c :: u ∧ c ≠ 'b' ∧ c ≠ ')' ∧ v = assertion (c :: u)

theorem repelledBy_familyClass? {L : List Char → Prop} (hL : ∀ v, L v → IsOtherAssertion v) (family : String) :
    RepelledBy L (familyClass? family) := by
  intro v hv cs a rest hmatch
  obtain ⟨value, -, hquote, -, rfl⟩ := familyClass?_eq_some hmatch
  obtain ⟨c, u, hu, hc, hbracket, rfl⟩ := hL v hv
  have hbtn : "btn--".toList ++ value = 'b' :: ("tn--".toList ++ value) := rfl
  rw [hbtn]
  refine apart_assertion hu (fun hmem => ?_) hc hbracket (by decide)
  have hclass : '"' ∉ 'b' :: "tn--".toList := by decide
  rw [← List.cons_append, List.mem_append] at hmem
  exact hmem.elim hclass hquote

theorem isOtherAssertion_disabled : IsOtherAssertion (classAssertionText "disabled").toList :=
  ⟨'d', "isabled".toList, by decide, by decide, by decide, by decide⟩

theorem isOtherAssertion_loading : IsOtherAssertion (classAssertionText "loading").toList :=
  ⟨'l', "oading".toList, by decide, by decide, by decide, by decide⟩

theorem isOtherAssertion_family {family : String} {c : Char} {u v : List Char} (hfamily : family.toList = c :: u)
    (hquote : '"' ∉ family.toList) (hc : c ≠ 'b') (hbracket : c ≠ ')') (hv : FamilyAssertion family v) : IsOtherAssertion v := by
  obtain ⟨value, -, hvalue, rfl⟩ := hv
  refine ⟨c, u ++ (['-', '-'] ++ value), fun hmem => ?_, hc, hbracket, by rw [hfamily]; simp⟩
  rw [← List.cons_append, ← hfamily, List.mem_append, List.mem_append] at hmem
  rcases hmem with hmem | hmem | hmem
  · exact hquote hmem
  · exact absurd hmem (by decide)
  · exact hvalue hmem

/-- Assertions of style classes that components do not have. -/
def ClassAssertion (v : List Char) : Prop :=
  v = (classAssertionText "disabled").toList ∨ v = (classAssertionText "loading").toList ∨
    FamilyAssertion "size" v ∨ FamilyAssertion "variant" v

theorem ClassAssertion.isOther {v : List Char} (hv : ClassAssertion v) : IsOtherAssertion v := by
  rcases hv with rfl | rfl | hv | hv
  · exact isOtherAssertion_disabled
  · exact isOtherAssertion_loading
  · exact isOtherAssertion_family (c := 's') (u := "ize".toList) rfl (by decide) (by decide) (by decide) hv
  · exact isOtherAssertion_family (c := 'v') (u := "ariant".toList) rfl (by decide) (by decide) (by decide) hv

theorem disabled_clears : Clears (fixed? (classAssertionText "disabled").toList "expect(element).toBeDisabled();".toList)
    (· = (classAssertionText "disabled").toList) :=
  fixed?_clears (by decide)

theorem loading_clears : Clears (fixed? (classAssertionText "loading").toList
      "expect(element).toHaveAttribute(\"aria-disabled\", \"true\");".toList)
    (· = (classAssertionText "loading").toList) :=
  fixed?_clears (by decide)

/-- No assertion of a class that components do not have is left: each step removes the assertions of its kind, and brings
about no other such assertion. -/
theorem replaceClassAssertions_free (source : List Char) : Free ClassAssertion (replaceClassAssertions source) := by
  have hdisabled : ∀ v, v = (classAssertionText "disabled").toList → IsOtherAssertion v := fun v hv =>
    ClassAssertion.isOther (.inl hv)
  have hloading : ∀ v, v = (classAssertionText "loading").toList → IsOtherAssertion v := fun v hv =>
    ClassAssertion.isOther (.inr (.inl hv))
  have hsize : ∀ v, FamilyAssertion "size" v → IsOtherAssertion v := fun v hv =>
    ClassAssertion.isOther (.inr (.inr (.inl hv)))
  have hvariant : ∀ v, FamilyAssertion "variant" v → IsOtherAssertion v := fun v hv =>
    ClassAssertion.isOther (.inr (.inr (.inr hv)))
  let s₁ := replaceAll (fixed? (classAssertionText "disabled").toList "expect(element).toBeDisabled();".toList) source
  let s₂ := replaceAll (fixed? (classAssertionText "loading").toList
    "expect(element).toHaveAttribute(\"aria-disabled\", \"true\");".toList) s₁
  let s₃ := replaceAll (familyClass? "size") s₂
  have disabled₁ : Free (· = (classAssertionText "disabled").toList) s₁ :=
    disabled_clears.free (repelledBy_fixed? (by rintro _ rfl; decide)) source
  have disabled₂ : Free (· = (classAssertionText "disabled").toList) s₂ :=
    loading_clears.keeps_free disabled_clears.ne_nil (repelledBy_fixed? (by rintro _ rfl; decide)) disabled₁
  have loading₂ : Free (· = (classAssertionText "loading").toList) s₂ :=
    loading_clears.free (repelledBy_fixed? (by rintro _ rfl; decide)) s₁
  have disabled₃ := (familyClass?_clears "size").keeps_free disabled_clears.ne_nil (repelledBy_familyClass? hdisabled _) disabled₂
  have loading₃ := (familyClass?_clears "size").keeps_free loading_clears.ne_nil (repelledBy_familyClass? hloading _) loading₂
  have size₃ : Free (FamilyAssertion "size") s₃ := (familyClass?_clears "size").free (repelledBy_familyClass? hsize _) s₂
  rintro v (hv | hv | hv | hv)
  · exact (familyClass?_clears "variant").keeps_free disabled_clears.ne_nil (repelledBy_familyClass? hdisabled _) disabled₃ v hv
  · exact (familyClass?_clears "variant").keeps_free loading_clears.ne_nil (repelledBy_familyClass? hloading _) loading₃ v hv
  · exact (familyClass?_clears "variant").keeps_free (familyClass?_clears "size").ne_nil (repelledBy_familyClass? hsize _) size₃ v hv
  · exact (familyClass?_clears "variant").free (repelledBy_familyClass? hvariant _) s₃ v hv

theorem replaceClassAssertions_eq_self {source : List Char} (h : Free ClassAssertion source) :
    replaceClassAssertions source = source := by
  have hdisabled : Free (· = (classAssertionText "disabled").toList) source := fun v hv => h v (.inl hv)
  have hloading : Free (· = (classAssertionText "loading").toList) source := fun v hv => h v (.inr (.inl hv))
  have hsize : Free (FamilyAssertion "size") source := fun v hv => h v (.inr (.inr (.inl hv)))
  have hvariant : Free (FamilyAssertion "variant") source := fun v hv => h v (.inr (.inr (.inr hv)))
  rw [replaceClassAssertions, disabled_clears.eq_self hdisabled, loading_clears.eq_self hloading,
    (familyClass?_clears "size").eq_self hsize, (familyClass?_clears "variant").eq_self hvariant]

/-! ## Signals -/

/-- Signals whose rules replace texts of certain kinds wherever they stand. -/
def Signal.replaces : Signal → Bool
  | .malformedClosure | .roleNotFound _ | .classMismatch | .textNotFound | .statusOrImageRole _ => true
  | .quotedLiteral | .unresolvedImport _ | .namedImportMissing _ | .missingProp _ _ => false

/-- The texts that the rule of a signal replaces. -/
def Signal.Rewrites : Signal → List Char → Prop
  | .malformedClosure, v => LeadingComma v ∨ Dangling v
  | .roleNotFound role, v => v = roleQuery role
  | .classMismatch, v => ClassAssertion v
  | .textNotFound, v => TextQuery v
  | .statusOrImageRole role, v => v = statusOrImageQuery role
  | .quotedLiteral, _ | .unresolvedImport _, _ | .namedImportMissing _, _ | .missingProp _ _, _ => False

theorem mendChars_free {s : Signal} (hs : s.replaces = true) (m : Component) (path : String) (source : List Char) :
    ∃ revised, s.mendChars m path source = .ok revised ∧ Free s.Rewrites revised := by
  cases s with
  | malformedClosure =>
    refine ⟨_, rfl, ?_⟩
    rintro v (hv | hv)
    · exact (normalizeClosures_free source).1 v hv
    · exact (normalizeClosures_free source).2 v hv
  | roleNotFound role => exact ⟨_, rfl, replaceRoleQuery_free role source⟩
  | classMismatch => exact ⟨_, rfl, replaceClassAssertions_free source⟩
  | textNotFound => exact ⟨_, rfl, (textToTestId_clears m).free (textToTestId_repelled m) source⟩
  | statusOrImageRole role => exact ⟨_, rfl, replaceStatusOrImage_free role source⟩
  | quotedLiteral | unresolvedImport | namedImportMissing | missingProp => cases hs

/-- A rule changes nothing where no text stands that it replaces. -/
theorem mendChars_eq_self {s : Signal} (hs : s.replaces = true) (m : Component) (path : String) {source : List Char}
    (h : Free s.Rewrites source) : s.mendChars m path source = .ok source := by
  rw [Signal.mendChars.eq_def]
  cases s with
  | malformedClosure =>
    exact congrArg _ (normalizeClosures_eq_self (fun v hv => h v (.inl hv)) fun v hv => h v (.inr hv))
  | roleNotFound role => exact congrArg _ ((roleQuery_clears role).eq_self h)
  | classMismatch => exact congrArg _ (replaceClassAssertions_eq_self h)
  | textNotFound => exact congrArg _ ((textToTestId_clears m).eq_self h)
  | statusOrImageRole role => exact congrArg _ (replaceStatusOrImage_eq_self h)
  | quotedLiteral | unresolvedImport | namedImportMissing | missingProp => cases hs

/-- After the rules for closures, roles, style classes, texts, statuses and images nothing is left that they replace, in
any text. So they change nothing when they are applied again. -/
theorem mend_leaves_none {s : Signal} (hs : s.replaces = true) (m : Component) (path source : String) :
    ∃ revised, s.mend source m path = .ok revised ∧ (∀ v, s.Rewrites v → ¬ v <:+: revised.toList) ∧
      s.mend revised m path = .ok revised := by
  obtain ⟨revised, hmend, hfree⟩ := mendChars_free hs m path source.toList
  refine ⟨.ofList revised, ?_, ?_, ?_⟩
  · rw [Signal.mend, hmend]
    rfl
  · rwa [String.toList_ofList]
  · rw [Signal.mend, String.toList_ofList, mendChars_eq_self hs m path hfree]
    rfl

/-- A suite with assertions that the rule for style classes replaces. -/
def styledSuite : String :=
  "expect(element).toHaveClass(\"loading\");\nexpect(element).toHaveClass(\"size--large\");\n"

theorem mend_leaves_none_styled : Signal.classMismatch.replaces = true ∧
    ∃ revised, Signal.classMismatch.mend styledSuite plainButton "src/Button.tsx" = .ok revised ∧
      (∀ v, Signal.classMismatch.Rewrites v → ¬ v <:+: revised.toList) ∧
      Signal.classMismatch.mend revised plainButton "src/Button.tsx" = .ok revised :=
  ⟨rfl, mend_leaves_none rfl plainButton "src/Button.tsx" styledSuite⟩

end Suitewright
