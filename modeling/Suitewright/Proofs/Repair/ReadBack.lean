/-
  Reading back the attributes that a suite writes.

  * `IsIdentifier`: names of the suite's language;
  * `named_attributes`: a name stands in attributes when it stands in a name or in a value of one of them;
  * `attributes_readBack`: an element with the defaults of properties is read as it was written when no default holds a
    quote, and which names are found in it.
-/
import Suitewright.Proofs.Repair.Naming
import Suitewright.Proofs.Repair.Places

namespace Suitewright

open Text

/-! ## Identifiers -/

/-- Names of the suite's language: letters and digits of ASCII, `_` and `$`, with no digit in front. -/
def IsIdentifier (name : List Char) : Prop := name.head?.any isIdentifierStart = true ∧ name.all isIdentifierPart = true

instance (name : List Char) : Decidable (IsIdentifier name) :=
  inferInstanceAs (Decidable (name.head?.any isIdentifierStart = true ∧ name.all isIdentifierPart = true))

section
variable {name : List Char}

theorem IsIdentifier.ne_nil (h : IsIdentifier name) : name ≠ [] := by
  rintro rfl
  cases h.1

theorem isIdentifierPart_of_isAlphanum {c : Char} (h : c.isAlphanum = true) : isIdentifierPart c = true := by
  rw [Char.isAlphanum, Bool.or_eq_true] at h
  rw [isIdentifierPart, isIdentifierStart]
  rcases h with h | h <;> simp [h]

theorem isIdentifierPart_cases {c : Char} (h : isIdentifierPart c = true) : c = '$' ∨ isNameChar c = true := by
  simp only [isIdentifierPart, isIdentifierStart, Bool.or_eq_true, beq_iff_eq] at h
  rcases h with ((h | rfl) | rfl) | h
  · exact Or.inr (isNameChar_of_isAlphanum (by rw [Char.isAlphanum, h, Bool.true_or]))
  · exact Or.inr rfl
  · exact Or.inl rfl
  · exact Or.inr (isNameChar_of_isAlphanum (by rw [Char.isAlphanum, h, Bool.or_true]))

theorem IsIdentifier.firm (h : IsIdentifier name) : name.all isFirm = true := by
  rw [List.all_eq_true]
  intro c hc
  rcases isIdentifierPart_cases (List.all_eq_true.1 h.2 c hc) with rfl | hname
  · decide
  · exact isFirm_of_isNameChar hname

/-- Without a dollar sign an identifier is made of the characters of names. -/
theorem IsIdentifier.nameChars (h : IsIdentifier name) (hdollar : '$' ∉ name) : name.all isNameChar = true := by
  rw [List.all_eq_true]
  intro c hc
  exact (isIdentifierPart_cases (List.all_eq_true.1 h.2 c hc)).resolve_left fun e => hdollar (e ▸ hc)

theorem IsIdentifier.not_mem (h : IsIdentifier name) {c : Char} (hc : isIdentifierPart c = false) : c ∉ name :=
  not_mem_of_class h.2 hc

end

/-! ## Names in attributes -/

section
variable {name : List Char} {before : Option Char}

/-- In a text without the first character of an identifier it does not stand. -/
theorem named_none (hq : IsIdentifier name) {u : List Char} (hu : ∀ c ∈ u, isIdentifierStart c = false) :
    namedIn name before u = false := by
  obtain ⟨c, rest, rfl⟩ := List.exists_cons_of_ne_nil hq.ne_nil
  rw [Bool.eq_false_iff]
  intro h
  obtain ⟨w, v, rfl, -⟩ := namedIn_iff_exists.1 h
  have hc : isIdentifierStart c = true := hq.1
  rw [hu c (by simp)] at hc
  cases hc

/-- Every text stands in itself, and a text of the characters of names in no other one of them. -/
theorem standsIn_name {u : List Char} (hu : u.all isNameChar = true) : StandsIn name u ↔ name = u := by
  constructor
  · rintro ⟨w, v, rfl, hw, hv⟩
    rw [List.all_append, List.all_append, Bool.and_eq_true, Bool.and_eq_true] at hu
    obtain rfl : w = [] := by
      rw [← List.getLast?_eq_none_iff]
      cases hlast : w.getLast? with
      | none => rfl
      | some c =>
        rw [hlast, Option.any_some, List.all_eq_true.1 hu.1 c (List.mem_of_getLast? hlast)] at hw
        cases hw
    obtain rfl : v = [] := by
      cases v with
      | nil => rfl
      | cons c v =>
        rw [List.head?_cons, Option.any_some, List.all_eq_true.1 hu.2.2 c (by simp)] at hv
        cases hv
    simp
  · rintro rfl
    exact ⟨[], [], by simp, rfl, rfl⟩

/-- The value of an attribute. -/
def Attribute.value : Attribute → List Char
  | flag _ => []
  | text _ v | expr _ v => v

theorem named_quoted (hq : IsIdentifier name) (v : List Char) : namedIn name none ('"' :: (v ++ ['"'])) = namedIn name none v := by
  have hnil : namedIn name none [] = false := named_none hq (List.forall_mem_nil _)
  have hopen : namedIn name none ([] ++ '"' :: (v ++ ['"'])) = _ :=
    namedIn_separated (by decide) (hq.not_mem (by decide)) hq.ne_nil [] (v ++ ['"'])
  rw [List.nil_append] at hopen
  rw [hopen, namedIn_separated (by decide) (hq.not_mem (by decide)) hq.ne_nil, hnil, Bool.false_or, Bool.or_false]

/-- A name stands in an attribute when it stands in its name or in its value. -/
theorem named_chars (hq : IsIdentifier name) (a : Attribute) :
    namedIn name none a.chars = (namedIn name none a.name || namedIn name none a.value) := by
  have hnil : namedIn name none [] = false := named_none hq (List.forall_mem_nil _)
  have hassigned : ∀ n v, namedIn name none (n ++ '=' :: v) = (namedIn name none n || namedIn name none v) :=
    namedIn_separated (by decide) (hq.not_mem (by decide)) hq.ne_nil
  cases a with
  | flag n =>
    show namedIn name none n = (namedIn name none n || namedIn name none [])
    rw [hnil, Bool.or_false]
  | text n v => exact (hassigned n _).trans (by rw [named_quoted hq]; rfl)
  | expr n v =>
    have hopen : namedIn name none ([] ++ '\x7b' :: (v ++ ['\x7d'])) = _ :=
      namedIn_separated (by decide) (hq.not_mem (by decide)) hq.ne_nil [] (v ++ ['\x7d'])
    rw [List.nil_append] at hopen
    refine (hassigned n _).trans ?_
    rw [hopen, namedIn_separated (by decide) (hq.not_mem (by decide)) hq.ne_nil, hnil, Bool.false_or, Bool.or_false]
    rfl

/-- A name stands in attributes when it stands in one of them. -/
theorem named_attributes (hq : IsIdentifier name) (u : List Char) (as : List Attribute) :
    namedIn name none (u ++ as.flatMap fun a => ' ' :: a.chars) =
      (namedIn name none u || as.any fun a => namedIn name none a.chars) := by
  induction as generalizing u with
  | nil => simp
  | cons a as ih =>
    rw [List.flatMap_cons, List.cons_append, namedIn_separated (by decide) (hq.not_mem (by decide)) hq.ne_nil, ih, List.any_cons]

/-- A name stands in the default of a property when it stands in what is written of its text. -/
theorem named_default (hq : IsIdentifier name) (p : PropSpec) :
    namedIn name none p.written.value = true ↔ ∃ v, p.literal? = some v ∧ StandsIn name (writtenText v) := by
  rcases p.written_cases with ⟨hliteral, hmem⟩ | ⟨hliteral, hwritten⟩
  · have hconstant : ∀ v : List Char, (v.all fun c => !isIdentifierStart c) = true → ∀ c ∈ v, isIdentifierStart c = false :=
      fun v h c hc => by simpa using List.all_eq_true.1 h c hc
    have hnone : namedIn name none p.written.value = false := by
      refine named_none hq ?_
      simp only [List.mem_cons, List.not_mem_nil, or_false] at hmem
      rcases hmem with hw | hw | hw <;> rw [hw]
      · exact hconstant noopClosure.toList (by decide)
      · exact List.forall_mem_nil _
      · exact hconstant ['0'] (by decide)
    rw [hnone, hliteral]
    simp
  · have htext : namedIn name none (Attribute.ofText p.name p.defaultText).value = namedIn name none (writtenText p.defaultText) := by
      rw [Attribute.ofText]
      split
      · exact named_quoted hq _
      · rfl
    rw [hwritten, htext, namedIn_iff, hliteral]
    simp

end

/-! ## Elements -/

/-- The name of a property stands in an identifier that is this name, or that a dollar sign parts. -/
theorem standsIn_identifier (name : List Char) {u : List Char} (hu : IsIdentifier u) :
    StandsIn name u ↔ name = u ∨ '$' ∈ u ∧ StandsIn name u := by
  by_cases hdollar : '$' ∈ u
  · refine ⟨fun h => Or.inr ⟨hdollar, h⟩, ?_⟩
    rintro (rfl | ⟨-, h⟩)
    · exact ⟨[], [], by simp, rfl, rfl⟩
    · exact h
  · rw [standsIn_name (hu.nameChars hdollar)]
    simp [hdollar]

/-- An element with the defaults of properties as its attributes. -/
def elementOf (component : String) (props : List PropSpec) : String :=
  "render(<" ++ component ++ " " ++ " ".intercalate (props.map PropSpec.inlineDefault) ++ " />);"

/-- An element with the defaults of properties is read as it was written, when no default is a text with a quote. The names
found in its attributes are those of the properties and all that stand as words in what is written of their texts, or in
a name that a dollar sign parts. -/
theorem attributes_readBack {component : String} (hc : IsWord component.toList) {props : List PropSpec} (hne : props ≠ [])
    (hnames : ∀ p ∈ props, IsIdentifier p.name.toList) {attributes : String}
    (hattributes : attributes = " " ++ " ".intercalate (props.map PropSpec.inlineDefault)) :
    ((∀ p ∈ props, ∀ v, p.literal? = some v → '"' ∉ v.toList) →
        (findSites (elementOf component props).toList component).head? =
          some { start := 0, stop := ("render(<" ++ component ++ attributes).length, attributes := attributes.toList, line := 1 }) ∧
      ∀ q, IsIdentifier q.toList → (hasAttribute attributes.toList q = true ↔
        ∃ p ∈ props, p.name = q ∨ ('$' ∈ p.name.toList ∧ StandsIn q.toList p.name.toList) ∨
          ∃ v, p.literal? = some v ∧ StandsIn q.toList (writtenText v)) := by
  have hchars : attributes.toList = (props.map PropSpec.written).flatMap fun a => ' ' :: a.chars := by
    rw [← join_written hne, hattributes, String.toList_append]
    rfl
  refine ⟨fun hquotes => ?_, fun q hq => ?_⟩
  · have hsealed : ∀ a ∈ props.map PropSpec.written, a.Sealed := List.forall_mem_map.2 fun p hp =>
      PropSpec.written_sealed (hnames p hp).ne_nil (hnames p hp).firm (hquotes p hp)
    have hread : IsAttributes attributes.toList := by
      have := IsAttributes.nil.append_flatMap hsealed
      rwa [List.nil_append, ← hchars] at this
    have hopener : openerText component.toList = "render(<".toList ++ component.toList := rfl
    have hsource : (elementOf component props).toList =
        [] ++ (openerText component.toList ++ (attributes.toList ++ (" />".toList ++ ");".toList))) := by
      have hclose : " />);".toList = " />".toList ++ ");".toList := by decide
      rw [elementOf, hattributes, hopener]
      simp only [String.toList_append, hclose, List.append_assoc, List.nil_append]
    have hstop : ("render(<" ++ component ++ attributes).length = 0 + (openerText component.toList).length + attributes.toList.length := by
      rw [← String.length_toList, String.toList_append, String.toList_append, hopener, List.length_append, Nat.zero_add]
    rw [hsource, findSites_eq_sitesAfter, sitesAfter_render hc hread List.not_mem_nil, List.head?_cons, hstop]
    rfl
  · rw [hasAttribute, hchars]
    have hany := named_attributes hq [] (props.map PropSpec.written)
    rw [List.nil_append, named_none hq (List.forall_mem_nil _), Bool.false_or] at hany
    rw [hany, List.any_map, List.any_eq_true]
    refine exists_congr fun p => and_congr_right fun hp => ?_
    have hname := standsIn_identifier q.toList (hnames p hp)
    rw [String.toList_inj, eq_comm] at hname
    rw [Function.comp_apply, named_chars hq, Bool.or_eq_true, named_default hq, PropSpec.written_name, namedIn_iff, ← or_assoc]
    exact or_congr_left hname

/-- Properties with a label, a text with a backslash and an event. -/
def pathProps : List PropSpec :=
  [⟨"label", ⟨"string"⟩, false, none⟩, ⟨"path", ⟨"'a\\b' | 'c'"⟩, false, none⟩, ⟨"on$tap", ⟨"() => void"⟩, false, none⟩]

theorem attributes_readBack_path : IsWord "C".toList ∧ pathProps ≠ [] ∧ (∀ p ∈ pathProps, IsIdentifier p.name.toList) ∧
    (∀ p ∈ pathProps, ∀ v, p.literal? = some v → '"' ∉ v.toList) ∧
    (findSites (elementOf "C" pathProps).toList "C").head? = some {
      start := 0, stop := 60, line := 1,
      attributes := " label=\"Test Label\" path=\x7b\"a\\\\b\"\x7d on$tap=\x7b() => \x7b\x7d\x7d".toList } ∧
    hasAttribute (" " ++ " ".intercalate (pathProps.map PropSpec.inlineDefault)).toList "Label" = true := by
  have hc : IsWord "C".toList := by unfold IsWord; decide
  have hne : pathProps ≠ [] := List.cons_ne_nil _ _
  have hnames : ∀ p ∈ pathProps, IsIdentifier p.name.toList := by decide
  have hquotes : ∀ p ∈ pathProps, ∀ v, p.literal? = some v → '"' ∉ v.toList := by decide
  obtain ⟨hsite, hnamed⟩ := attributes_readBack hc hne hnames rfl
  refine ⟨hc, hne, hnames, hquotes, (hsite hquotes).trans (by decide), (hnamed "Label" (by decide)).2 ?_⟩
  exact ⟨_, .head _, Or.inr (Or.inr ⟨"Test Label", by decide, "Test ".toList, [], by decide, by decide, by decide⟩)⟩

/-- A text with one quote opens a quote that nothing closes. -/
example : findSites (elementOf "C" [⟨"size", ⟨"'a\"b' | 'c'"⟩, false, none⟩]).toList "C" = [] := by decide

end Suitewright
