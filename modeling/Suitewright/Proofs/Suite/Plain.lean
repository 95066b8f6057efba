/-
  Components whose names need no escapes in a suite.

  * `Component.IsPlain`: the names and alternatives of a component are made of letters, digits and a few marks;
  * `attributeOf`: the attribute that gives a property its default; `attributeOf_chars`, `attributeOf_formed`;
  * `importPath_plain`: the module of a plain file needs no escapes.
-/
import Suitewright.Proofs.Repair.Draft

namespace Suitewright

open Text

/-- Characters of plain file names. -/
def isFileChar (c : Char) : Bool := c.isAlphanum || c == '.' || c == '_' || c == '-'

/-- Paths with a plain file name. -/
def IsPlainPath (path : String) : Prop := (Path.ofSource path).name.toList.all isFileChar = true

/-- The name of a plain component is a word, its properties have hyphenated words as names, the alternatives of their
unions are made of the characters of words, spaces, points and hyphens, and its file has a plain name. -/
structure Component.IsPlain (m : Component) : Prop where
  name : IsWord m.displayName.toList
  propName : ∀ p ∈ m.props, p.name.toList ≠ [] ∧ p.name.toList.all isNameChar = true
  alternatives : ∀ p ∈ m.props, p.type.isUnion = true → ∀ a ∈ p.type.alternatives, a.toList.all isValueChar = true
  path : IsPlainPath m.sourcePath

/-! ## Default attributes -/

theorem all_value_of_name {cs : List Char} (h : cs.all isNameChar = true) : cs.all isValueChar = true :=
  List.all_eq_true.2 fun c hc => isValueChar_of_isNameChar (List.all_eq_true.1 h c hc)

theorem all_tame_of_value {cs : List Char} (h : cs.all isValueChar = true) : cs.all isTame = true :=
  List.all_eq_true.2 fun c hc => isTame_of_isValueChar (List.all_eq_true.1 h c hc)

/-- A text of the characters of words is written between quotes as it is. -/
theorem textAttribute_plain {name value : String} (h : value.toList.all isValueChar = true) :
    (textAttribute name value).toList = (Attribute.text name.toList value.toList).chars := by
  have hne : ∀ d, isTame d = false → value.toList.contains d = false := fun d hd => by
    rw [List.contains_eq_mem, decide_eq_false_iff_not]
    exact not_mem_of_class (all_tame_of_value h) hd
  have hbackslash : value.toList.contains '\\' = false := by
    rw [List.contains_eq_mem, decide_eq_false_iff_not]
    exact not_mem_of_class h (by decide)
  rw [textAttribute, hne '"' rfl, hbackslash]
  simp [Attribute.chars]

/-- The attribute that gives a property its default. -/
def PropSpec.attribute (p : PropSpec) : Attribute :=
  if p.type.isFunction || p.type.isCallback then .expr p.name.toList noopClosure.toList
  else if p.type.isBoolean then .flag p.name.toList
  else if p.type.isNumeric then .expr p.name.toList ['0']
  else .text p.name.toList p.defaultText.toList

/-- The attribute that gives a property its default of which only the name is known. -/
def namedAttribute (name : String) : Attribute :=
  if "on".toList.isPrefixOf name.toList then .expr name.toList noopClosure.toList
  else if name == childrenProp then .expr name.toList ('"' :: (childrenText.toList ++ ['"']))
  else if namedFlags.contains name then .flag name.toList
  else .text name.toList ((namedTexts.lookup name).getD ("test-" ++ name)).toList

/-- The attribute that gives a property of a component its default. -/
def attributeOf (m : Component) (prop : String) : Attribute :=
  match m.prop? prop with
  | some p => p.attribute
  | none => namedAttribute prop

theorem braced_toList (s : String) : (braced s).toList = '\x7b' :: (s.toList ++ ['\x7d']) := by
  show ("\x7b" ++ s ++ "\x7d").toList = _
  rw [String.toList_append, String.toList_append]
  rfl

theorem exprAttribute_toList (name value : String) :
    (name ++ "=" ++ braced value).toList = (Attribute.expr name.toList value.toList).chars := by
  rw [String.toList_append, String.toList_append, braced_toList]
  show _ = name.toList ++ ('=' :: '\x7b' :: (value.toList ++ ['\x7d']))
  rw [List.append_assoc]
  rfl

theorem mem_of_lookup {α : Type} {entries : List (String × α)} {key : String} {value : α}
    (h : entries.lookup key = some value) : (key, value) ∈ entries := by
  obtain ⟨l₁, l₂, rfl, -⟩ := List.lookup_eq_some_iff.1 h
  simp

theorem lookup_value {texts : List (String × String)} {name : String}
    (htexts : (texts.all fun t => t.2.toList.all isValueChar) = true) (hname : name.toList.all isNameChar = true) :
    ((texts.lookup name).getD ("test-" ++ name)).toList.all isValueChar = true := by
  cases hlookup : texts.lookup name with
  | none =>
    have htest : "test-".toList.all isValueChar = true := by decide
    rw [Option.getD_none, String.toList_append, List.all_append, htest, all_value_of_name hname]
    rfl
  | some t => exact List.all_eq_true.1 htexts _ (mem_of_lookup hlookup)

variable {m : Component}

theorem defaultText_value (hm : m.IsPlain) {p : PropSpec} (hp : p ∈ m.props) :
    p.defaultText.toList.all isValueChar = true := by
  rw [PropSpec.defaultText]
  split
  · next hunion =>
    rw [TypeText.firstAlternative]
    cases halternatives : p.type.alternatives with
    | nil => rfl
    | cons a rest => exact hm.alternatives p hp hunion a (by simp [halternatives])
  · exact lookup_value (by decide) (hm.propName p hp).2

theorem attribute_chars (hm : m.IsPlain) {p : PropSpec} (hp : p ∈ m.props) :
    p.attribute.chars = p.inlineDefault.toList := by
  rw [PropSpec.attribute, PropSpec.inlineDefault]
  split
  · exact (exprAttribute_toList _ _).symm
  · split
    · rfl
    · split
      · exact (exprAttribute_toList p.name "0").symm
      · exact (textAttribute_plain (defaultText_value hm hp)).symm

theorem attribute_name (p : PropSpec) : p.attribute.name = p.name.toList := by
  rw [PropSpec.attribute]
  repeat' split
  all_goals rfl

theorem constants_mem : noopClosure.toList ∈ Attribute.constants ∧ ['0'] ∈ Attribute.constants ∧
    "false".toList ∈ Attribute.constants ∧ '"' :: (childrenText.toList ++ ['"']) ∈ Attribute.constants :=
  ⟨.head _, .tail _ (.head _), .tail _ (.tail _ (.head _)), .tail _ (.tail _ (.tail _ (.head _)))⟩

theorem attribute_formed (hm : m.IsPlain) {p : PropSpec} (hp : p ∈ m.props) : p.attribute.Formed := by
  obtain ⟨hne, hname⟩ := hm.propName p hp
  rw [PropSpec.attribute]
  split
  · exact ⟨hne, hname, Or.inl constants_mem.1⟩
  · split
    · exact ⟨hne, hname, trivial⟩
    · split
      · exact ⟨hne, hname, Or.inl constants_mem.2.1⟩
      · exact ⟨hne, hname, all_tame_of_value (defaultText_value hm hp)⟩

theorem namedAttribute_chars {name : String} (h : name.toList.all isNameChar = true) :
    (namedAttribute name).chars = (namedDefault name).toList := by
  rw [namedAttribute, namedDefault]
  split
  · exact (exprAttribute_toList _ _).symm
  · split
    · rw [exprAttribute_toList, quote_toList, show quoteBody childrenText.toList = childrenText.toList from by decide]
    · split
      · rfl
      · exact (textAttribute_plain (lookup_value (by decide) h)).symm

theorem namedAttribute_name (name : String) : (namedAttribute name).name = name.toList := by
  rw [namedAttribute]
  repeat' split
  all_goals rfl

theorem namedAttribute_formed {name : String} (hne : name.toList ≠ []) (h : name.toList.all isNameChar = true) :
    (namedAttribute name).Formed := by
  rw [namedAttribute]
  split
  · exact ⟨hne, h, Or.inl constants_mem.1⟩
  · split
    · exact ⟨hne, h, Or.inl constants_mem.2.2.2⟩
    · split
      · exact ⟨hne, h, trivial⟩
      · exact ⟨hne, h, all_tame_of_value (lookup_value (by decide) h)⟩

theorem prop?_mem {name : String} {p : PropSpec} (h : m.prop? name = some p) : p ∈ m.props ∧ p.name = name := by
  refine ⟨List.mem_of_find?_eq_some h, ?_⟩
  have := List.find?_some h
  simpa using this

theorem attributeOf_name (m : Component) (prop : String) : (attributeOf m prop).name = prop.toList := by
  rw [attributeOf]
  split
  · next p hp => rw [attribute_name, (prop?_mem hp).2]
  · exact namedAttribute_name prop

theorem attributeOf_chars (hm : m.IsPlain) {prop : String} (h : prop.toList.all isNameChar = true) :
    (attributeOf m prop).chars = (defaultAttribute m prop).toList := by
  rw [attributeOf, defaultAttribute]
  cases hp : m.prop? prop with
  | some p => exact attribute_chars hm (prop?_mem hp).1
  | none => exact namedAttribute_chars h

theorem attributeOf_formed (hm : m.IsPlain) {prop : String} (h : IsWord prop.toList) : (attributeOf m prop).Formed := by
  rw [attributeOf]
  split
  · next p hp => exact attribute_formed hm (prop?_mem hp).1
  · exact namedAttribute_formed h.1 h.nameChars

/-! ## Modules -/

theorem mem_dropSourceExtension {c : Char} {cs : List Char} (h : c ∈ dropSourceExtension cs) : c ∈ cs := by
  rw [dropSourceExtension] at h
  split at h
  next body tail hsplit =>
  have hparts : cs = body ++ tail := by
    split at hsplit
    · next rest hrev =>
      obtain ⟨rfl, rfl⟩ := Prod.mk.inj hsplit
      rw [← List.reverse_reverse cs, hrev, List.reverse_cons]
    · obtain ⟨rfl, rfl⟩ := Prod.mk.inj hsplit
      rw [List.append_nil]
  split at h
  · rcases List.mem_append.1 h with h | h
    · rw [hparts]
      exact List.mem_append_left _ (List.mem_of_mem_take h)
    · rw [hparts]
      exact List.mem_append_right _ h
  · exact h

theorem isFileChar_cases {c : Char} (h : isFileChar c = true) : isPlain c = true ∧ Line.isModuleChar c = true := by
  have hlt : c.toNat < 128 := by
    simp only [isFileChar, Bool.or_eq_true, beq_iff_eq] at h
    rcases h with ((h | rfl) | rfl) | rfl
    · exact toNat_of_isAlphanum h
    · decide
    · decide
    · decide
  have := forall_ascii (p := fun c => !isFileChar c || (isPlain c && Line.isModuleChar c)) (by decide) hlt
  simpa [h] using this

theorem append_ofList (s : String) (cs : List Char) : (s ++ .ofList cs).toList = s.toList ++ cs := by
  rw [String.toList_append, String.toList_ofList]

/-- The module of a plain file needs no escapes. -/
theorem importPath_plain {path : String} (h : IsPlainPath path) :
    (importPath path).toList.all isPlain = true ∧ (importPath path).toList.all Line.isModuleChar = true := by
  have hup : "../".toList.all isPlain = true ∧ "../".toList.all Line.isModuleChar = true := by decide
  have hfile : ∀ c ∈ dropSourceExtension (Path.ofSource path).name.toList,
      isPlain c = true ∧ Line.isModuleChar c = true := fun c hc =>
    isFileChar_cases (List.all_eq_true.1 h c (mem_dropSourceExtension hc))
  rw [show (importPath path).toList = _ from append_ofList _ _, List.all_append, List.all_append, hup.1, hup.2,
    Bool.true_and, Bool.true_and]
  exact ⟨List.all_eq_true.2 fun c hc => (hfile c hc).1, List.all_eq_true.2 fun c hc => (hfile c hc).2⟩

end Suitewright
