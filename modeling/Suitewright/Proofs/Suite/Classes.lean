/-
  The classes of types.

  * `TypeText.classes`: whether a type is boolean, a text, a number, a union and a function;
  * `opensWithParameters_of_empty`: an empty parameter list is a parameter list; `count_allClasses`: classes do not overlap;
  * `choose`: the first branch whose condition holds; `choose_perm`: branches of which at most one holds may change places;
  * `classes_apart`: so the cases and the defaults of a property do not depend on the order of their branches.
-/
import Suitewright.Proofs.Suite.Plan

namespace Suitewright

open Text

namespace TypeText

/-! ## Functions -/

theorem closesWithArrow_append {v : List Char} (h : arrowAhead v = true) (u : List Char) :
    closesWithArrow (u ++ ')' :: v) = true := by
  induction u with
  | nil =>
    rw [List.nil_append, closesWithArrow, h]
    rfl
  | cons c u ih => rw [List.cons_append, closesWithArrow, ih, Bool.or_true]

/-- An empty parameter list is a parameter list, whatever blanks stand in it. -/
theorem opensWithParameters_of_empty {cs : List Char} (h : opensWithoutParameters cs = true) :
    opensWithParameters cs = true := by
  rw [opensWithoutParameters.eq_def] at h
  split at h
  · next cs =>
    split at h
    · next rest heq =>
      rw [opensWithParameters, ← List.takeWhile_append_dropWhile (p := isBlank) (l := cs), heq]
      exact closesWithArrow_append h _
    · cases h
  · cases h

section
variable {t : TypeText}

theorem isFunction_of_isCallback (h : t.isCallback = true) : t.isFunction = true := by
  rw [isFunction, opensWithParameters_of_empty h, Bool.true_or]

theorem isUnion_of_isFunction (h : t.isFunction = true) : t.isUnion = false := by
  rw [isUnion, h, Bool.not_true, Bool.and_false]

/-! ## Classes -/

/-- Whether a type is boolean, a text, a number, a union and a function. -/
def classes (t : TypeText) : List Bool := [t.isBoolean, t.isString, t.isNumeric, t.isUnion, t.isFunction]

/-- The words that are types. -/
def plainWords : List (List Char) := ["boolean".toList, "string".toList, "number".toList]

/-- A type whose text is a word is of no class but the word's. -/
theorem classes_of_trimmed {word : List Char} (h : t.trimmed = word) (hbar : '|' ∉ word)
    (hfunction : (opensWithParameters word || endsAsHandler word) = false) :
    t.classes = plainWords.map (word == ·) ++ [false, false] := by
  rw [classes, isBoolean, isString, isNumeric, isUnion_of_trimmed h hbar, isFunction, h, hfunction]
  rfl

/-- No type is of two classes. -/
theorem count_allClasses (t : TypeText) : t.classes.count true ≤ 1 := by
  by_cases hplain : t.trimmed ∈ plainWords
  · have htable : ∀ word ∈ plainWords, '|' ∉ word ∧ (opensWithParameters word || endsAsHandler word) = false ∧
        (plainWords.map (word == ·) ++ [false, false]).count true ≤ 1 := by decide
    obtain ⟨hbar, hfunction, hcount⟩ := htable _ hplain
    rw [classes_of_trimmed rfl hbar hfunction]
    exact hcount
  · have hword : ∀ word ∈ plainWords, (t.trimmed == word) = false := fun word hword => by
      rw [beq_eq_false_iff_ne]
      rintro rfl
      exact hplain hword
    rw [classes, isBoolean, isString, isNumeric, hword _ (by decide), hword _ (by decide), hword _ (by decide)]
    cases hfunction : t.isFunction with
    | true =>
      rw [isUnion_of_isFunction hfunction]
      decide
    | false => cases t.isUnion <;> decide

/-! ## Alternatives -/

theorem alternatives_ne_nil (t : TypeText) : t.alternatives ≠ [] := by
  rw [alternatives]
  split
  · next h =>
    intro hnil
    rw [hnil, List.isEmpty_nil, Bool.not_true, Bool.and_false] at h
    cases h
  · exact List.cons_ne_nil _ _

theorem length_alternatives (h : t.isUnion = false) : t.alternatives.length = 1 := by
  rw [alternatives, h, Bool.false_and]
  rfl

theorem head?_alternatives (t : TypeText) : t.alternatives.head? = some t.firstAlternative := by
  obtain ⟨s, rest, h⟩ := List.exists_cons_of_ne_nil t.alternatives_ne_nil
  rw [firstAlternative, h]
  rfl

end

end TypeText

/-! ## Branches -/

section
variable {α : Type} {branches branches' : List (Bool × α)}

/-- What the first branch gives whose condition holds, else what is given in all other cases. -/
def choose (otherwise : α) (branches : List (Bool × α)) : α := ((branches.find? (·.1)).map (·.2)).getD otherwise

/-- Branches of which at most one holds may change places. -/
theorem choose_perm (otherwise : α) (hperm : branches'.Perm branches) (h : (branches.map Prod.fst).count true ≤ 1) :
    choose otherwise branches' = choose otherwise branches := by
  have hcount : (branches.map Prod.fst).count true = (branches.filter (·.1)).length := by
    rw [List.count, List.countP_map, List.countP_eq_length_filter]
    exact congrArg List.length (List.filter_congr fun b _ => beq_true b.1)
  rw [hcount] at h
  have hfilter : branches'.filter (·.1) = branches.filter (·.1) := by
    have hperm := hperm.filter (·.1)
    cases hholding : branches.filter (·.1) with
    | nil =>
      rw [hholding] at hperm
      exact hperm.eq_nil
    | cons b more =>
      obtain rfl : more = [] := by
        rw [hholding, List.length_cons] at h
        exact List.length_eq_zero_iff.1 (by omega)
      rw [hholding] at hperm
      exact List.perm_singleton.1 hperm
  rw [choose, choose, ← List.head?_filter, ← List.head?_filter, hfilter]

end

namespace PropSpec

/-- The branches of the attribute of a default. -/
def attributeBranches (p : PropSpec) : List (Bool × String) :=
  [(p.type.isFunction || p.type.isCallback, p.name ++ "=" ++ braced noopClosure), (p.type.isBoolean, p.name),
    (p.type.isNumeric, p.name ++ "=" ++ braced "0")]

/-- The branches of the expression of a default. -/
def expressionBranches (p : PropSpec) : List (Bool × String) :=
  [(p.type.isFunction || p.type.isCallback, noopClosure), (p.type.isBoolean, "true"), (p.type.isNumeric, "0")]

theorem inlineDefault_eq (p : PropSpec) :
    p.inlineDefault = choose (textAttribute p.name p.defaultText) p.attributeBranches := by
  rw [inlineDefault, attributeBranches]
  cases p.type.isFunction || p.type.isCallback <;> cases p.type.isBoolean <;> cases p.type.isNumeric <;> rfl

theorem defaultExpression_eq (p : PropSpec) :
    p.defaultExpression = choose (Json.quote p.defaultText) p.expressionBranches := by
  rw [defaultExpression, expressionBranches]
  cases p.type.isFunction || p.type.isCallback <;> cases p.type.isBoolean <;> cases p.type.isNumeric <;> rfl

/-- At most one branch of a default holds, since functions without parameters are functions. -/
theorem count_defaultBranches (p : PropSpec) :
    [p.type.isFunction || p.type.isCallback, p.type.isBoolean, p.type.isNumeric].count true ≤ 1 := by
  have hcallback : (p.type.isFunction || p.type.isCallback) = p.type.isFunction := by
    cases h : p.type.isCallback with
    | true => rw [TypeText.isFunction_of_isCallback h, Bool.or_true]
    | false => exact Bool.or_false _
  have hall := p.type.count_allClasses
  rw [TypeText.classes] at hall
  rw [hcallback]
  simp only [List.count_cons, List.count_nil] at hall ⊢
  omega

section
variable {p : PropSpec} {branches : List (Bool × String)}

theorem inlineDefault_perm (hperm : branches.Perm p.attributeBranches) :
    p.inlineDefault = choose (textAttribute p.name p.defaultText) branches :=
  p.inlineDefault_eq.trans (choose_perm _ hperm p.count_defaultBranches).symm

theorem defaultExpression_perm (hperm : branches.Perm p.expressionBranches) :
    p.defaultExpression = choose (Json.quote p.defaultText) branches :=
  p.defaultExpression_eq.trans (choose_perm _ hperm p.count_defaultBranches).symm

end

end PropSpec

namespace Component

/-- The branches of the cases of a property's type. -/
def caseBranches (m : Component) (p : PropSpec) : List (Bool × List TestCase) :=
  [(p.type.isBoolean, [m.booleanCase p]), (p.type.isString, [m.textCase p]),
    (p.type.isUnion, p.type.alternatives.map (m.unionCase p))]

/-- The cases of a property's type are those of one branch, although each branch is tried. -/
theorem propCases_choose (m : Component) (p : PropSpec) : m.propCases p = choose [] (m.caseBranches p) := by
  rw [propCases_eq]
  show p.typeTopics.map m.caseOf = _
  rw [PropSpec.typeTopics, caseBranches]
  cases p.type.isBoolean with
  | true => rfl
  | false =>
    cases p.type.isString with
    | true => rfl
    | false =>
      cases p.type.isUnion with
      | true => exact List.map_map
      | false => rfl

theorem propCases_perm {m : Component} {p : PropSpec} {branches : List (Bool × List TestCase)}
    (hperm : branches.Perm (m.caseBranches p)) : m.propCases p = choose [] branches :=
  (m.propCases_choose p).trans (choose_perm [] hperm p.type.count_classes).symm

end Component

/-- A function without parameters is a function, a function is no union, and no type is of two classes. A type has an
alternative, and a single one unless it is a union. So the branches of a property's cases, of its attribute and of its entry
may stand in any order, and there is a first alternative for the default. -/
theorem classes_apart (t : TypeText) :
    (t.isCallback = true → t.isFunction = true) ∧ (t.isFunction = true → t.isUnion = false) ∧
      [t.isBoolean, t.isString, t.isNumeric, t.isUnion, t.isFunction].count true ≤ 1 ∧
      t.alternatives ≠ [] ∧ (t.isUnion = false → t.alternatives.length = 1) ∧
      ∀ p : PropSpec, p.type = t →
        [t.isBoolean, t.isString, t.isUnion].count true ≤ 1 ∧
        (∀ m branches, branches.Perm (Component.caseBranches m p) → m.propCases p = choose [] branches) ∧
        (∀ branches, branches.Perm p.attributeBranches →
          p.inlineDefault = choose (textAttribute p.name p.defaultText) branches) ∧
        (∀ branches, branches.Perm p.expressionBranches →
          p.objectDefault = (if isPlainKey p.name then p.name else Json.quote p.name) ++ ": " ++
            choose (Json.quote p.defaultText) branches) ∧
        (t.isUnion = true → t.alternatives.head? = some p.defaultText) := by
  refine ⟨TypeText.isFunction_of_isCallback, TypeText.isUnion_of_isFunction, t.count_allClasses, t.alternatives_ne_nil,
    TypeText.length_alternatives, ?_⟩
  rintro p rfl
  refine ⟨p.type.count_classes, fun m branches => Component.propCases_perm, fun branches => PropSpec.inlineDefault_perm,
    fun branches hperm => ?_, fun hunion => ?_⟩
  · rw [PropSpec.objectDefault, PropSpec.defaultExpression_perm hperm]
  · rw [PropSpec.defaultText, if_pos hunion]
    exact p.type.head?_alternatives

/-- A bar alone is a union without parts, which stands for itself. -/
example : (⟨" |"⟩ : TypeText).isUnion = true ∧ (⟨" |"⟩ : TypeText).alternatives = ["|"] := by decide

/-- A property of a union. -/
def sizeProp : PropSpec := ⟨"size", ⟨"'sm' | 'lg'"⟩, true, none⟩

theorem classes_apart_size : sizeProp.type.alternatives.head? = some sizeProp.defaultText ∧
    sizeProp.inlineDefault = choose "size=\"sm\"" sizeProp.attributeBranches.reverse := by
  obtain ⟨-, -, -, -, -, hprop⟩ := classes_apart sizeProp.type
  obtain ⟨-, -, hattribute, -, hfirst⟩ := hprop sizeProp rfl
  have htext : textAttribute sizeProp.name sizeProp.defaultText = "size=\"sm\"" := by decide
  rw [← htext]
  exact ⟨hfirst (by decide), hattribute _ (List.reverse_perm _)⟩

end Suitewright
