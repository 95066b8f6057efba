/-
  The attributes that give properties their defaults, whatever the texts of these.

  * `PropSpec.written`: a property with its default as an attribute, whatever its type; `inlineDefault_toList`;
  * `Attribute.ofText_sealed`, `PropSpec.written_sealed`: such attributes are sealed when no text holds a quote;
  * `join_written`: the defaults of several properties, one after another.
-/
import Suitewright.Proofs.Repair.Sites
import Suitewright.Proofs.Suite.Plain

namespace Suitewright

open Text

/-! ## Default attributes -/

/-- Whether a text is escaped when it is the value of an attribute. -/
def isEscaped (value : String) : Bool := value.toList.contains '"' || value.toList.contains '\\'

/-- What is written of a text that is the value of an attribute. -/
def writtenText (value : String) : List Char := if isEscaped value then quoteBody value.toList else value.toList

/-- An attribute with a text as its value. -/
def Attribute.ofText (name value : String) : Attribute :=
  if isEscaped value then .expr name.toList ('"' :: (writtenText value ++ ['"'])) else .text name.toList (writtenText value)

theorem textAttribute_toList (name value : String) : (textAttribute name value).toList = (Attribute.ofText name value).chars := by
  rw [textAttribute, Attribute.ofText, writtenText, isEscaped]
  split
  · rw [exprAttribute_toList, quote_toList]
  · simp [Attribute.chars]

theorem Attribute.ofText_name (name value : String) : (Attribute.ofText name value).name = name.toList := by
  rw [ofText]
  split
  · rfl
  · rfl

theorem quote_not_mem_writtenText {value : String} (h : '"' ∉ value.toList) : '"' ∉ writtenText value := by
  rw [writtenText]
  split
  · exact not_mem_quoteBody (by decide) (by decide) h
  · exact h

/-- A text without quotes makes a sealed attribute. -/
theorem Attribute.ofText_sealed {name value : String} (hne : name.toList ≠ []) (hname : name.toList.all isFirm = true)
    (h : '"' ∉ value.toList) : (Attribute.ofText name value).Sealed := by
  have hwritten := quote_not_mem_writtenText h
  refine ⟨by rwa [ofText_name], by rwa [ofText_name], ?_⟩
  rw [ofText]
  split
  · show tagStates 1 (some '"') (writtenText value ++ ['"']) = some (1, none)
    rw [tagStates_append, tagStates_quoted hwritten]
    rfl
  · exact hwritten

namespace PropSpec

/-- The text that a property's default is, unless it is a function, a truth value or a number. -/
def literal? (p : PropSpec) : Option String :=
  if p.type.isFunction || p.type.isCallback || p.type.isBoolean || p.type.isNumeric then none else some p.defaultText

/-- The property with its default as an attribute. -/
def written (p : PropSpec) : Attribute :=
  if p.type.isFunction || p.type.isCallback then .expr p.name.toList noopClosure.toList
  else if p.type.isBoolean then .flag p.name.toList
  else if p.type.isNumeric then .expr p.name.toList ['0']
  else .ofText p.name p.defaultText

variable {p : PropSpec}

theorem literal?_eq_some (hfunction : (p.type.isFunction || p.type.isCallback) = false) (hboolean : p.type.isBoolean = false)
    (hnumeric : p.type.isNumeric = false) : p.literal? = some p.defaultText := by
  rw [literal?, hfunction, hboolean, hnumeric]
  rfl

theorem inlineDefault_toList (p : PropSpec) : p.inlineDefault.toList = p.written.chars := by
  rw [inlineDefault, written]
  split
  · exact exprAttribute_toList _ _
  · split
    · rfl
    · split
      · exact exprAttribute_toList p.name "0"
      · exact textAttribute_toList _ _

theorem written_name (p : PropSpec) : p.written.name = p.name.toList := by
  rw [written]
  split
  · rfl
  · split
    · rfl
    · split
      · rfl
      · exact Attribute.ofText_name _ _

/-- A default that is no text is one of three. -/
theorem written_cases (p : PropSpec) :
    (p.literal? = none ∧ p.written ∈ [.expr p.name.toList noopClosure.toList, .flag p.name.toList, .expr p.name.toList ['0']]) ∨
      p.literal? = some p.defaultText ∧ p.written = .ofText p.name p.defaultText := by
  rw [literal?, written]
  by_cases hfunction : (p.type.isFunction || p.type.isCallback) = true
  · rw [hfunction, if_pos rfl]
    simp
  · rw [if_neg hfunction]
    by_cases hboolean : p.type.isBoolean = true
    · rw [hboolean, if_pos rfl]
      simp
    · rw [if_neg hboolean]
      by_cases hnumeric : p.type.isNumeric = true
      · rw [hnumeric, if_pos rfl]
        simp
      · rw [if_neg hnumeric]
        simp [hfunction, hboolean, hnumeric]

theorem written_sealed (hne : p.name.toList ≠ []) (hname : p.name.toList.all isFirm = true)
    (h : ∀ v, p.literal? = some v → '"' ∉ v.toList) : p.written.Sealed := by
  rcases p.written_cases with ⟨-, hmem⟩ | ⟨hliteral, hwritten⟩
  · simp only [List.mem_cons, List.not_mem_nil, or_false] at hmem
    have hnoop : tagStates 1 none noopClosure.toList = some (1, none) := by decide
    have hzero : tagStates 1 none ['0'] = some (1, none) := by decide
    rcases hmem with hw | hw | hw <;> rw [hw]
    · exact ⟨hne, hname, hnoop⟩
    · exact ⟨hne, hname, trivial⟩
    · exact ⟨hne, hname, hzero⟩
  · rw [hwritten]
    exact Attribute.ofText_sealed hne hname (h _ hliteral)

end PropSpec

/-- The defaults of properties, joined by blanks. -/
theorem join_written {ps : List PropSpec} (h : ps ≠ []) :
    ' ' :: (" ".intercalate (ps.map PropSpec.inlineDefault)).toList =
      (ps.map PropSpec.written).flatMap fun a => ' ' :: a.chars := by
  induction ps with
  | nil => exact absurd rfl h
  | cons p ps ih =>
    cases ps with
    | nil => simp [p.inlineDefault_toList]
    | cons q ps =>
      have hspace : " ".toList = [' '] := by decide
      have ih := ih (List.cons_ne_nil q ps)
      rw [List.map_cons, List.map_cons, String.intercalate_cons_cons, String.toList_append, String.toList_append, ← List.map_cons,
        hspace, p.inlineDefault_toList, List.map_cons (f := PropSpec.written), List.flatMap_cons, ← ih]
      simp

/-- The same behind a blank, if there are any. -/
theorem spaced_written {ps : List PropSpec} (h : ∀ p ∈ ps, p.name.toList ≠ []) :
    (if (" ".intercalate (ps.map PropSpec.inlineDefault)).isEmpty then ""
      else " " ++ " ".intercalate (ps.map PropSpec.inlineDefault)).toList =
        (ps.map PropSpec.written).flatMap fun a => ' ' :: a.chars := by
  cases ps with
  | nil => rfl
  | cons p ps =>
    have hjoin := join_written (List.cons_ne_nil p ps)
    have hempty : ¬ (" ".intercalate ((p :: ps).map PropSpec.inlineDefault)).isEmpty = true := by
      intro hempty
      obtain ⟨r, hchars, -⟩ := p.written.chars_name
      rw [String.isEmpty_iff] at hempty
      rw [hempty, List.map_cons, List.flatMap_cons, hchars, p.written_name, List.cons_append] at hjoin
      have hnil := (List.cons.inj hjoin).2.symm
      rw [List.append_assoc] at hnil
      exact h p (by simp) (List.append_eq_nil_iff.1 hnil).1
    rw [if_neg hempty, String.toList_append, ← hjoin]
    rfl

end Suitewright
