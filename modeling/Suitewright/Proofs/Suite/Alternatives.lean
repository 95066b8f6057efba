/-
  Unions of quoted literals, from their text to their cases.

  * `pieces_intercalate`, `dropEnds_around`: what joining and padding add is taken off again;
  * `QuotedPiece`, `LiteralUnion`: literals between quotes, and the types that join them with bars;
  * `LiteralUnion.isUnion_type`, `LiteralUnion.alternatives_type`: such a type is a union, with the literals as alternatives;
  * `AssignsText`: attributes that are read as a name with a text;
  * `literals_roundTrip`: each literal has a case in which the property is given it, and the first one is the default.
-/
import Mathlib.Data.List.Forall2
import Suitewright.Proofs.Suite.Classes
import Suitewright.Proofs.Suite.Literals
import Suitewright.Proofs.Suite.Supplied

namespace Suitewright

open Text

namespace Text

/-! ## Taking off what was added -/

theorem pieces_eq_splitOn (sep : Char) (cs : List Char) : pieces sep cs = cs.splitOn sep := by
  induction cs with
  | nil => rfl
  | cons c cs ih =>
    rw [pieces, List.splitOn_cons_eq_if_modifyHead, ih]
    split
    · rfl
    · cases hparts : cs.splitOn sep with
      | nil => exact absurd hparts (List.splitOn_ne_nil sep cs)
      | cons part parts => rfl

/-- Parts without the separator are the pieces of the text that joins them with it. -/
theorem pieces_intercalate {sep : Char} {parts : List (List Char)} (h : ∀ part ∈ parts, sep ∉ part) (hne : parts ≠ []) :
    pieces sep ([sep].intercalate parts) = parts := by
  rw [pieces_eq_splitOn]
  exact List.splitOn_intercalate sep h hne

/-- Between two parts stands the separator. -/
theorem mem_intercalate {sep : Char} {parts : List (List Char)} (h : 2 ≤ parts.length) : sep ∈ [sep].intercalate parts := by
  cases parts with
  | nil => cases h
  | cons part parts =>
    have hne : parts ≠ [] := by
      rintro rfl
      exact absurd h (Nat.lt_irrefl 1)
    rw [List.intercalate_cons_of_ne_nil hne]
    simp

section
variable {p : Char → Bool} {u v w : List Char}

theorem dropWhile_front (hu : u.all p = true) (hv : v.head?.any p = false) : (u ++ v).dropWhile p = v := by
  rw [List.dropWhile_append_of_pos (List.all_eq_true.1 hu)]
  cases v with
  | nil => rfl
  | cons c v => exact List.dropWhile_cons_of_neg (by simpa using hv)

/-- Dropping the characters of a class from both ends leaves a text that neither begins nor ends with one. -/
theorem dropEnds_around (hu : u.all p = true) (hw : w.all p = true) (hhead : v.head?.any p = false)
    (hlast : v.getLast?.any p = false) : dropEnds p (u ++ (v ++ w)) = v := by
  have hend : dropEnd p (v ++ w) = v := by
    rw [dropEnd, List.reverse_append, dropWhile_front (by rwa [List.all_reverse]) (by rwa [List.head?_reverse]),
      List.reverse_reverse]
  cases v with
  | nil =>
    have hall : (u ++ w).all p = true := by rw [List.all_append, hu, hw]; rfl
    rw [dropEnds, List.nil_append, List.dropWhile_eq_nil_iff.2 (List.all_eq_true.1 hall)]
    rfl
  | cons c v =>
    have hfront : ((c :: v) ++ w).head?.any p = false := hhead
    rw [dropEnds, dropWhile_front hu hfront, hend]

/-- A joined text ends with its last part. -/
theorem exists_intercalate_concat (sep : List Char) (parts : List (List Char)) (last : List Char) :
    ∃ u, sep.intercalate (parts ++ [last]) = u ++ last := by
  induction parts with
  | nil => exact ⟨[], List.intercalate_singleton⟩
  | cons part parts ih =>
    obtain ⟨u, hu⟩ := ih
    rw [List.cons_append, List.intercalate_cons_of_ne_nil (by simp), hu]
    exact ⟨part ++ sep ++ u, (List.append_assoc _ _ _).symm⟩

end

end Text

/-! ## Unions of literals -/

/-- A literal as a union writes it: between two quotes of one kind, with blanks around them. -/
structure QuotedPiece where
  /-- The literal. -/
  value : String
  /-- The quote. -/
  quote : Char
  /-- The blanks before the first quote. -/
  before : List Char := []
  /-- The blanks after the second quote. -/
  after : List Char := []
  quoted : TypeText.isQuote quote = true := by decide
  blank_before : before.all isBlank = true := by decide
  blank_after : after.all isBlank = true := by decide
  bar_not_mem : '|' ∉ value.toList := by decide
  value_head : value.toList.head?.any TypeText.isQuote = false := by decide
  value_last : value.toList.getLast?.any TypeText.isQuote = false := by decide

/-- A type that joins two or more literals with bars. There may be a bar in front of them. -/
structure LiteralUnion where
  /-- The literals. -/
  literals : List QuotedPiece
  /-- The blanks before the bar in front, if there is one. -/
  front : Option (List Char) := none
  two_le : 2 ≤ literals.length
  blank_front : ∀ blanks ∈ front, blanks.all isBlank = true

theorem isBlank_of_isQuote {c : Char} (h : TypeText.isQuote c = true) : isBlank c = false := by
  rw [TypeText.isQuote, Bool.or_eq_true, Bool.or_eq_true, beq_iff_eq, beq_iff_eq, beq_iff_eq] at h
  rcases h with (rfl | rfl) | h
  · rfl
  · rfl
  · rw [isBlank, h]
    rfl

theorem isQuote_ne {c d : Char} (h : TypeText.isQuote c = true) (hd : TypeText.isQuote d = false) : c ≠ d :=
  ne_of_class h hd

namespace QuotedPiece

/-- The literal with its quotes. -/
def core (q : QuotedPiece) : List Char := [q.quote] ++ (q.value.toList ++ [q.quote])

/-- The literal with its quotes and the blanks around them. -/
def chars (q : QuotedPiece) : List Char := q.before ++ (q.core ++ q.after)

variable (q : QuotedPiece)

theorem core_last : q.core.getLast? = some q.quote := by
  rw [core, ← List.append_assoc, List.getLast?_concat]

theorem bar_not_mem_chars : '|' ∉ q.chars := by
  have hquote : '|' ≠ q.quote := (isQuote_ne q.quoted rfl).symm
  have hblanks : ∀ {cs : List Char}, cs.all isBlank = true → '|' ∉ cs := fun h => not_mem_of_class h (by decide)
  simp [chars, core, hblanks q.blank_before, hblanks q.blank_after, hquote, q.bar_not_mem]

theorem trimChars_chars : trimChars q.chars = q.core := by
  have hquote := isBlank_of_isQuote q.quoted
  refine dropEnds_around q.blank_before q.blank_after hquote ?_
  rw [core_last]
  exact hquote

theorem dropEnds_core : dropEnds TypeText.isQuote q.core = q.value.toList := by
  have hquote : [q.quote].all TypeText.isQuote = true := by simp [q.quoted]
  exact dropEnds_around hquote hquote q.value_head q.value_last

end QuotedPiece

namespace LiteralUnion

/-- What stands between the bars. -/
def parts (u : LiteralUnion) : List (List Char) := u.front.toList ++ u.literals.map QuotedPiece.chars

/-- The type. -/
def type (u : LiteralUnion) : TypeText := ⟨.ofList (['|'].intercalate u.parts)⟩

/-- The texts of the literals. -/
def values (u : LiteralUnion) : List String := u.literals.map QuotedPiece.value

variable (u : LiteralUnion)

theorem text_type : u.type.text.toList = ['|'].intercalate u.parts := String.toList_ofList

theorem literals_ne_nil : u.literals ≠ [] := by
  have htwo := u.two_le
  rintro hnil
  rw [hnil] at htwo
  cases htwo

theorem bar_not_mem_parts : ∀ part ∈ u.parts, '|' ∉ part := by
  rw [parts, List.forall_mem_append]
  refine ⟨fun part hpart => not_mem_of_class (u.blank_front part (Option.mem_toList.1 hpart)) (by decide), ?_⟩
  exact List.forall_mem_map.2 fun q _ => q.bar_not_mem_chars

theorem parts_ne_nil : u.parts ≠ [] := by
  rw [parts, Ne, List.append_eq_nil_iff, List.map_eq_nil_iff]
  exact fun h => u.literals_ne_nil h.2

/-- The parts without blanks and quotes are the literals; the part in front of the first bar is left out. -/
theorem unionParts_type : u.type.unionParts = u.values := by
  have hfront : (u.front.toList.map trimChars).filter (!·.isEmpty) = [] := by
    rw [List.filter_eq_nil_iff]
    intro cs hcs
    obtain ⟨blanks, hblanks, rfl⟩ := List.mem_map.1 hcs
    have hall := u.blank_front blanks (Option.mem_toList.1 hblanks)
    have htrim : trimChars blanks = [] := by
      have h := @dropEnds_around isBlank blanks [] [] hall rfl rfl rfl
      rwa [List.append_nil, List.append_nil] at h
    rw [htrim]
    decide
  have hliterals : (u.literals.map QuotedPiece.core).filter (!·.isEmpty) = u.literals.map QuotedPiece.core := by
    rw [List.filter_eq_self]
    exact List.forall_mem_map.2 fun q _ => rfl
  have htrim : trimChars ∘ QuotedPiece.chars = QuotedPiece.core := funext QuotedPiece.trimChars_chars
  rw [TypeText.unionParts, text_type, pieces_intercalate u.bar_not_mem_parts u.parts_ne_nil, parts, List.map_append,
    List.filter_append, hfront, List.nil_append, List.map_map, htrim, hliterals, List.map_map, values]
  refine List.map_congr_left fun q _ => ?_
  rw [Function.comp_apply, q.dropEnds_core, String.ofList_toList]

/-- Two or more literals begin with one and end with another. -/
theorem exists_first_last : ∃ q inner r, u.literals = q :: (inner ++ [r]) := by
  obtain ⟨q, more, hmore⟩ := List.exists_cons_of_ne_nil u.literals_ne_nil
  have hne : more ≠ [] := by
    rintro rfl
    have htwo := u.two_le
    rw [hmore] at htwo
    exact absurd htwo (Nat.lt_irrefl 1)
  exact ⟨q, more.dropLast, more.getLast hne, by rw [hmore, List.dropLast_concat_getLast hne]⟩

/-- Joined parts of which the last is a literal begin with the first part and a bar, and end with the literal. -/
theorem exists_joined (first : List Char) (inner : List QuotedPiece) (r : QuotedPiece) : ∃ y,
    ['|'].intercalate (first :: (inner.map QuotedPiece.chars ++ [r.chars])) = first ++ '|' :: (y ++ (r.core ++ r.after)) := by
  obtain ⟨y, hy⟩ := exists_intercalate_concat ['|'] (inner.map QuotedPiece.chars) r.chars
  rw [List.intercalate_cons_of_ne_nil (by simp), hy]
  exact ⟨y ++ r.before, by simp [QuotedPiece.chars]⟩

/-- Between blanks the text of the type begins with a bar or a quote and ends with a literal. -/
theorem exists_core : ∃ lead c y, ∃ r : QuotedPiece, u.type.text.toList = lead ++ ((c :: (y ++ r.core)) ++ r.after) ∧
    lead.all isBlank = true ∧ (c == '|' || TypeText.isQuote c) = true := by
  obtain ⟨q, inner, r, hliterals⟩ := u.exists_first_last
  rw [text_type, parts, hliterals]
  cases hfront : u.front with
  | some blanks =>
    obtain ⟨y, hy⟩ := exists_joined blanks (q :: inner) r
    exact ⟨blanks, '|', y, r, by simpa using hy, u.blank_front blanks hfront, rfl⟩
  | none =>
    obtain ⟨y, hy⟩ := exists_joined q.chars inner r
    refine ⟨q.before, q.quote, q.value.toList ++ (q.quote :: q.after) ++ '|' :: y, r, ?_, q.blank_before, by simp [q.quoted]⟩
    simpa [QuotedPiece.chars, QuotedPiece.core] using hy

/-- Without these blanks the type begins with a bar or a quote and ends with a quote. -/
theorem trimmed_type : u.type.trimmed.head?.any (fun c => c == '|' || TypeText.isQuote c) = true ∧
    u.type.trimmed.getLast?.any TypeText.isQuote = true := by
  obtain ⟨lead, c, y, r, htext, hlead, hc⟩ := u.exists_core
  have hlast : (c :: (y ++ r.core)).getLast? = some r.quote := by
    rw [← List.cons_append, List.getLast?_append, r.core_last, Option.some_or]
  have htrimmed : u.type.trimmed = c :: (y ++ r.core) := by
    rw [TypeText.trimmed, htext]
    refine dropEnds_around hlead r.blank_after ?_ ?_
    · rw [List.head?_cons, Option.any_some]
      rw [Bool.or_eq_true, beq_iff_eq] at hc
      rcases hc with rfl | hc
      · rfl
      · exact isBlank_of_isQuote hc
    · rw [hlast]
      exact isBlank_of_isQuote r.quoted
  rw [htrimmed, hlast]
  exact ⟨hc, r.quoted⟩

/-- What begins with a quote or a bar and ends with a quote is no function, whatever it holds. -/
theorem isFunction_type : u.type.isFunction = false := by
  obtain ⟨hhead, hlast⟩ := u.trimmed_type
  have hparameters : TypeText.opensWithParameters u.type.trimmed = false := by
    rw [TypeText.opensWithParameters.eq_def]
    split
    · next heq =>
      rw [heq] at hhead
      cases hhead
    · rfl
  have hends : ∀ w ∈ ['>'] :: TypeText.handlerWords, w.isSuffixOf u.type.trimmed = false := by
    intro w hw
    rw [Bool.eq_false_iff]
    intro hsuffix
    obtain ⟨x, hx⟩ := List.isSuffixOf_iff_suffix.1 hsuffix
    have htable : ∀ w ∈ ['>'] :: TypeText.handlerWords, w ≠ [] ∧ w.getLast?.any TypeText.isQuote = false := by decide
    obtain ⟨hne, hquote⟩ := htable w hw
    rw [← hx, getLast?_of_ne_nil hne, hquote] at hlast
    cases hlast
  rw [TypeText.isFunction, hparameters, TypeText.endsAsHandler, hends _ List.mem_cons_self, Bool.false_and, Bool.or_false,
    Bool.false_or, List.any_eq_false]
  intro w hw
  rw [hends w (List.mem_cons_of_mem _ hw)]
  exact Bool.false_ne_true

theorem isUnion_type : u.type.isUnion = true := by
  have hbar : '|' ∈ u.type.text.toList := by
    have htwo := u.two_le
    rw [text_type]
    refine mem_intercalate ?_
    rw [parts, List.length_append, List.length_map]
    omega
  rw [TypeText.isUnion, isFunction_type, List.contains_iff_mem.2 hbar]
  rfl

theorem values_ne_nil : u.values ≠ [] := by
  rw [values, Ne, List.map_eq_nil_iff]
  exact u.literals_ne_nil

theorem alternatives_type : u.type.alternatives = u.values := by
  rw [TypeText.alternatives, isUnion_type, unionParts_type, if_pos (by simpa using u.values_ne_nil)]

end LiteralUnion

/-! ## Cases -/

namespace TypeText

/-- A union is of no other class. -/
theorem others_of_isUnion {t : TypeText} (h : t.isUnion = true) : (t.isFunction || t.isCallback) = false ∧
    t.isBoolean = false ∧ t.isString = false ∧ t.isNumeric = false := by
  have hcount := t.count_allClasses
  have hfunction : t.isFunction = false := by
    rw [isUnion, Bool.and_eq_true, Bool.not_eq_true'] at h
    exact h.2
  have hcallback : t.isCallback = false := by
    rw [Bool.eq_false_iff]
    intro hcallback
    rw [isFunction_of_isCallback hcallback] at hfunction
    cases hfunction
  rw [hfunction, hcallback]
  rw [classes, h] at hcount
  revert hcount
  cases t.isBoolean <;> cases t.isString <;> cases t.isNumeric <;> simp

end TypeText

/-- Attributes that give a name a text: what follows the name is read as the text, to the end of the attribute. -/
def AssignsText (assignment name value : String) : Prop :=
  ∃ written, assignment.toList = name.toList ++ '=' :: written ∧
    readAttributeValue? ('=' :: written) = some (.data (.str value), [])

theorem assignsText_textAttribute (name value : String) : AssignsText (textAttribute name value) name value := by
  rw [AssignsText, textAttribute_toList]
  exact readAttributeValue?_ofText name value

theorem AssignsText.not_isEmpty {assignment name value : String} (h : AssignsText assignment name value) :
    assignment.isEmpty = false := by
  obtain ⟨written, hchars, -⟩ := h
  rw [Bool.eq_false_iff, Ne, String.isEmpty_iff]
  rintro rfl
  exact List.append_ne_nil_of_right_ne_nil _ (List.cons_ne_nil _ _) hchars.symm

section
variable {m : Component} {p : PropSpec}

/-- The cases of a union are those of its alternatives. -/
theorem propCases_union (h : p.type.isUnion = true) : m.propCases p = p.type.alternatives.map (m.unionCase p) := by
  obtain ⟨-, hboolean, hstring, -⟩ := TypeText.others_of_isUnion h
  rw [Component.propCases, hboolean, hstring, h]
  rfl

theorem isRendering_requiredLine (given : List (String × String)) : isRendering (m.requiredLine given) = false := by
  have hline (object : String) : isRendering ("const requiredProps = " ++ object ++ ";") = false := by
    rw [isRendering, String.append_assoc, String.toList_append]
    rfl
  exact hline _

theorem isRendering_renderLine (extra : String) : isRendering (m.renderLine extra) = true := by
  have hline (element : String) : isRendering ("render(" ++ element ++ ");") = true := by
    rw [isRendering, String.append_assoc, String.toList_append]
    rfl
  exact hline _

/-- All cases but the basic one render the component once, with what their topic asks for. -/
theorem renderings_body {t : Topic} (ht : t ≠ .rendering) :
    (m.body t).filter isRendering = [m.renderLine (m.extra t)] := by
  have hsetup : t.setup.filter isRendering = [] := List.filter_eq_nil_iff.2 fun line hline => by
    rw [(aside_setup t line hline).line.2]
    exact Bool.false_ne_true
  have hcheck : (m.check t).filter isRendering = [] := List.filter_eq_nil_iff.2 fun line hline => by
    rcases aside_check m t line hline with rfl | haside
    · decide
    · rw [haside.line.2]
      exact Bool.false_ne_true
  have hrequired : ¬ isRendering (m.requiredLine t.given) = true := by
    rw [isRendering_requiredLine]
    exact Bool.false_ne_true
  rw [Component.body_eq ht, List.filter_append, hsetup, List.filter_append, hcheck, List.filter_cons_of_neg hrequired,
    List.filter_cons_of_neg (by decide), List.filter_cons_of_pos (isRendering_renderLine _),
    List.filter_cons_of_neg (by decide)]
  rfl

theorem renderLine_assignment {assignment name value : String} (h : AssignsText assignment name value) :
    m.renderLine assignment = "render(<" ++ m.displayName ++ " \x7b...requiredProps\x7d " ++ assignment ++ " />);" := by
  have hopen : "render(<" = "render(" ++ "<" := by decide
  have hprops : " \x7b...requiredProps\x7d " = " " ++ braced "...requiredProps" ++ " " := by decide
  have hclose : " />);" = " />" ++ ");" := by decide
  rw [Component.renderLine, Component.element, h.not_isEmpty, hopen, hprops, hclose]
  simp only [String.append_assoc]
  rfl

/-- What a case of an alternative is. -/
structure HandlesLiteral (m : Component) (p : PropSpec) (value : String) (c : TestCase) : Prop where
  name : c.name = "should handle " ++ p.name ++ " as " ++ value
  rendering : ∃ description body assignment, c = .make c.name description body ∧
    body.filter isRendering =
      ["render(<" ++ m.displayName ++ " \x7b...requiredProps\x7d " ++ assignment ++ " />);"] ∧
    AssignsText assignment p.name value

theorem handlesLiteral_unionCase (m : Component) (p : PropSpec) (value : String) :
    HandlesLiteral m p value (m.unionCase p value) := by
  refine ⟨rfl, _, m.body (.alternative p value), textAttribute p.name value, rfl, ?_, assignsText_textAttribute _ _⟩
  rw [renderings_body (by simp)]
  exact congrArg (· :: []) (renderLine_assignment (assignsText_textAttribute _ _))

end

/-- The cases of a component that are not about the type of a property. -/
def Component.furtherCases (m : Component) : List TestCase :=
  m.props.flatMap m.eventCases ++ m.caseIf loadingProp m.loadingCase ++ m.caseIf iconProp m.iconCase ++
    [m.keyboardCase] ++ m.caseIf disabledProp m.disabledCase

/-- The cases of a property's type stand between those of its neighbours. -/
theorem buildCases_around {m : Component} {p : PropSpec} {earlier later : List PropSpec} (h : m.props = earlier ++ p :: later) :
    m.buildCases = m.basicCase :: (earlier.flatMap m.propCases ++ (m.propCases p ++ later.flatMap m.propCases)) ++
      m.furtherCases := by
  have hcases : m.props.flatMap m.propCases = earlier.flatMap m.propCases ++ (m.propCases p ++ later.flatMap m.propCases) := by
    rw [h, List.flatMap_append, List.flatMap_cons]
  rw [Component.buildCases, hcases, Component.furtherCases]
  simp only [List.append_assoc, List.cons_append, List.nil_append]

/-- A union of quoted literals is a union, and its alternatives are the literals. A property of this type has one case for
each of them, in order, in which the component is rendered with the property as an attribute that is read as the literal; and
its default, as an attribute and as an entry, is read as the first literal. -/
theorem literals_roundTrip (u : LiteralUnion) :
    u.type.isUnion = true ∧ u.type.alternatives = u.values ∧
      ∀ (m : Component) (p : PropSpec) (earlier later : List PropSpec), m.props = earlier ++ p :: later → p.type = u.type →
        m.buildCases = m.basicCase :: (earlier.flatMap m.propCases ++ (m.propCases p ++ later.flatMap m.propCases)) ++
          m.furtherCases ∧
        List.Forall₂ (HandlesLiteral m p) u.values (m.propCases p) ∧
        ∃ first rest, u.values = first :: rest ∧ AssignsText p.inlineDefault p.name first ∧
          p.objectDefault = (if isPlainKey p.name then p.name else Json.quote p.name) ++ ": " ++ Json.quote first ∧
          Denotes (Json.quote first) (.data (.str first)) := by
  refine ⟨u.isUnion_type, u.alternatives_type, fun m p earlier later hprops htype => ⟨buildCases_around hprops, ?_, ?_⟩⟩
  · rw [propCases_union (by rw [htype, u.isUnion_type]), htype, u.alternatives_type, List.forall₂_map_right_iff]
    exact List.forall₂_same.2 fun value _ => handlesLiteral_unionCase m p value
  · have hunion : p.type.isUnion = true := by rw [htype, u.isUnion_type]
    obtain ⟨hfunction, hboolean, -, hnumeric⟩ := TypeText.others_of_isUnion hunion
    have hfirst := p.type.head?_alternatives
    rw [htype, u.alternatives_type] at hfirst
    obtain ⟨first, rest, hvalues⟩ := List.exists_cons_of_ne_nil u.values_ne_nil
    have htext : p.defaultText = first := by
      rw [hvalues] at hfirst
      rw [PropSpec.defaultText, if_pos hunion, htype, ← Option.some.inj hfirst]
    refine ⟨first, rest, hvalues, ?_, ?_, denotes_quote first⟩
    · rw [PropSpec.inlineDefault, hfunction, hboolean, hnumeric, htext]
      exact assignsText_textAttribute _ _
    · rw [PropSpec.objectDefault, PropSpec.defaultExpression, hfunction, hboolean, hnumeric, htext]
      rfl

/-- A union of literals in all three kinds of quotes, with an arrow, nothing at all, and blanks and a backslash in them. -/
def mixedUnion : LiteralUnion where
  literals := [{ value := "() => Handler", quote := '\'', before := [' '], after := [' '] },
    { value := "", quote := '"', before := [' '] }, { value := " C:\\ ", quote := Char.ofNat 96, after := ['\n'] }]
  front := some ['\n']
  two_le := by decide
  blank_front := by decide

/-- A property of that type. -/
def modeProp : PropSpec := ⟨"mode", mixedUnion.type, false, none⟩

theorem literals_roundTrip_mixed : mixedUnion.type.alternatives = ["() => Handler", "", " C:\\ "] ∧
    List.Forall₂ (HandlesLiteral { props := [modeProp] } modeProp) ["() => Handler", "", " C:\\ "]
      (Component.propCases { props := [modeProp] } modeProp) ∧
    AssignsText modeProp.inlineDefault "mode" "() => Handler" := by
  obtain ⟨-, halternatives, hprop⟩ := literals_roundTrip mixedUnion
  obtain ⟨-, hcases, first, rest, hvalues, hdefault, -⟩ := hprop { props := [modeProp] } modeProp [] [] rfl rfl
  obtain rfl : "() => Handler" = first := (List.cons.inj hvalues).1
  exact ⟨halternatives, hcases, hdefault⟩

end Suitewright
