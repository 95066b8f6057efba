/-
  What the written defaults of properties say.

  * `PropValue`, `PropSpec.defaultValue`: what a property can be given, and what it is given by default;
  * `readExpression?`, `readAttribute?`, `readEntry?`: readers of expressions, of attributes and of the entries of objects;
  * `Denotes`: expressions that are read as a value; `denotes_default`;
  * `isPlainKey_iff`: which keys stand without quotes;
  * `defaults_agree`: the attribute and the entry of a default say the same.
-/
import Suitewright.Proofs.Json.ReadBack
import Suitewright.Proofs.Repair.ReadBack

namespace Suitewright

open Text

/-! ## Values -/

/-- What a property of a component can be given in a suite. -/
inductive PropValue where
  /-- A truth value, a number or a text. -/
  | data (v : Json)
  /-- The function that does nothing. -/
  | noop
  /-- What a variable of the suite holds. -/
  | variable (name : String)

/-- The value that stands for a property of its type. -/
def PropSpec.defaultValue (p : PropSpec) : PropValue :=
  if p.type.isFunction || p.type.isCallback then .noop
  else if p.type.isBoolean then .data (.bool true)
  else if p.type.isNumeric then .data (.int 0)
  else .data (.str p.defaultText)

/-! ## Expressions -/

/-- The words that are no variables. -/
def keywords : List (String × Json) := [("true", .bool true), ("false", .bool false), ("null", .null)]

/-- The value of a word. -/
def PropValue.ofWord (word : String) : PropValue :=
  match keywords.lookup word with
  | some v => .data v
  | none => .variable word

/-- Reads an identifier. -/
def readIdentifier? (cs : List Char) : Option (String × List Char) :=
  if cs.head?.any isIdentifierStart then
    some (.ofList (cs.takeWhile isIdentifierPart), cs.dropWhile isIdentifierPart)
  else none

/-- Reads an expression: a word, the function that does nothing, or a number, a text or another value of the interchange
format. -/
def readExpression? (cs : List Char) : Option (PropValue × List Char) :=
  match readIdentifier? cs, Json.afterWord? noopClosure cs, Json.readValue Json.maxDepth cs with
  | some (word, rest), _, _ => some (.ofWord word, rest)
  | none, some rest, _ => some (.noop, rest)
  | none, none, .ok (v, rest) => some (.data v, rest)
  | none, none, .error _ => none

/-! ## Attributes -/

/-- The characters of the names of attributes. -/
def isAttributeChar (c : Char) : Bool := isIdentifierPart c || c == '-'

/-- Names of attributes: letters and digits of ASCII, `_`, `$` and hyphens, with no digit and no hyphen in front. -/
def IsAttributeName (name : List Char) : Prop :=
  name.head?.any isIdentifierStart = true ∧ name.all isAttributeChar = true

instance (name : List Char) : Decidable (IsAttributeName name) :=
  inferInstanceAs (Decidable (name.head?.any isIdentifierStart = true ∧ name.all isAttributeChar = true))

/-- Reads the value of an attribute: a text up to the next quote, in which nothing is escaped, or an expression in braces.
Without an equals sign the attribute is true. -/
def readAttributeValue? : List Char → Option (PropValue × List Char)
  | '=' :: '"' :: rest =>
    match rest.dropWhile (· != '"') with
    | [] => none
    | _ :: after => some (.data (.str (.ofList (rest.takeWhile (· != '"')))), after)
  | '=' :: '\x7b' :: rest =>
    match readExpression? rest with
    | some (v, '\x7d' :: after) => some (v, after)
    | _ => none
  | '=' :: _ => none
  | rest => some (.data (.bool true), rest)

/-- Reads an attribute. -/
def readAttribute? (cs : List Char) : Option ((String × PropValue) × List Char) :=
  if cs.head?.any isIdentifierStart then
    (readAttributeValue? (cs.dropWhile isAttributeChar)).map fun (v, rest) =>
      ((.ofList (cs.takeWhile isAttributeChar), v), rest)
  else none

/-! ## Entries -/

/-- Reads a key: a quoted text or an identifier. -/
def readKey? : List Char → Option (String × List Char)
  | '"' :: rest => (Json.readText rest).toOption
  | cs => readIdentifier? cs

/-- Reads an entry of an object: a key, a colon and an expression. -/
def readEntry? (cs : List Char) : Option ((String × PropValue) × List Char) := do
  let (key, rest) ← readKey? cs
  match Json.skipGap rest with
  | ':' :: rest =>
    let (v, rest) ← readExpression? (Json.skipGap rest)
    return ((key, v), rest)
  | _ => none

section
variable {name rest : List Char}

/-- A word ends where its class of characters does. -/
theorem span_eq {p : Char → Bool} (hname : name.all p = true) (hrest : ∀ c ∈ rest.head?, p c = false) :
    (name ++ rest).takeWhile p = name ∧ (name ++ rest).dropWhile p = rest := by
  rw [List.all_eq_true] at hname
  rw [List.takeWhile_append_of_pos hname, List.dropWhile_append_of_pos hname]
  cases rest with
  | nil => simp
  | cons c rest => simp [hrest c rfl]

theorem head_append {p : Char → Bool} (h : name.head?.any p = true) (rest : List Char) :
    (name ++ rest).head?.any p = true := by
  cases name with
  | nil => cases h
  | cons c cs => exact h

theorem readIdentifier?_append (hname : IsIdentifier name) (hrest : ∀ c ∈ rest.head?, isIdentifierPart c = false) :
    readIdentifier? (name ++ rest) = some (.ofList name, rest) := by
  obtain ⟨hword, hafter⟩ := span_eq hname.2 hrest
  rw [readIdentifier?, hword, hafter, if_pos (head_append hname.1 rest)]

theorem readIdentifier?_none {c : Char} (hc : isIdentifierStart c = false) (cs : List Char) :
    readIdentifier? (c :: cs) = none := by
  rw [readIdentifier?, if_neg]
  simp [hc]

/-- What ends a value ends an identifier. -/
theorem isClosing_part {c : Char} (hc : Json.isClosing c = true) : isIdentifierPart c = false := by
  simp only [Json.isClosing, Json.isGap, Bool.or_eq_true, beq_iff_eq] at hc
  rcases hc with (((((rfl | rfl) | rfl) | rfl) | rfl) | rfl) | rfl <;> decide

/-- Expressions that are read as a value in front of all that ends a value. -/
structure Denotes (expression : String) (v : PropValue) : Prop where
  solid : ∃ c cs, expression.toList = c :: cs ∧ Json.isGap c = false
  read : ∀ rest, Json.Closes rest → readExpression? (expression.toList ++ rest) = some (v, rest)

theorem isIdentifierStart_solid {c : Char} (hc : isIdentifierStart c = true) : Json.isGap c = false := by
  rw [Bool.eq_false_iff]
  intro hgap
  have hpart := isClosing_part (c := c) (by simp [Json.isClosing, hgap])
  rw [isIdentifierPart, hc] at hpart
  cases hpart

theorem denotes_word {word : String} (h : IsIdentifier word.toList) : Denotes word (.ofWord word) := by
  refine ⟨?_, fun rest hrest => ?_⟩
  · obtain ⟨c, cs, hchars⟩ := List.exists_cons_of_ne_nil h.ne_nil
    have hc := h.1
    rw [hchars] at hc
    exact ⟨c, cs, hchars, isIdentifierStart_solid hc⟩
  · rw [readExpression?, readIdentifier?_append h fun c hc => isClosing_part (hrest c hc), String.ofList_toList]

theorem denotes_noop : Denotes noopClosure .noop := by
  have hnoop : noopClosure.toList = '(' :: ") => \x7b\x7d".toList := by decide
  refine ⟨⟨_, _, hnoop, by decide⟩, fun rest _ => ?_⟩
  have hafter : Json.afterWord? noopClosure (noopClosure.toList ++ rest) = some rest := by
    rw [Json.afterWord?, if_pos (List.isPrefixOf_iff_prefix.2 (List.prefix_append _ _)), ← String.length_toList,
      List.drop_left]
  rw [readExpression?, hafter, hnoop, List.cons_append, readIdentifier?_none (by decide)]

theorem denotes_data {v : Json} {c : Char} {cs : List Char} (hv : v.fits Json.maxDepth = true)
    (hchars : v.compact.toList = c :: cs) (hsolid : Json.isGap c = false) (hc : isIdentifierStart c = false)
    (hparen : c ≠ '(') : Denotes v.compact (.data v) := by
  refine ⟨⟨c, cs, hchars, hsolid⟩, fun rest hrest => ?_⟩
  have hread := Json.readValue_compact v hv rest hrest
  -- words and the function are tried first, so the value must begin as neither does
  rw [hchars, List.cons_append] at hread ⊢
  rw [readExpression?, readIdentifier?_none hc, Json.afterWord?_none rfl (Ne.symm hparen), hread]

theorem denotes_zero : Denotes "0" (.data (.int 0)) :=
  denotes_data (v := .int 0) (by decide) rfl (by decide) (by decide) (by decide)

theorem denotes_quote (s : String) : Denotes (Json.quote s) (.data (.str s)) :=
  denotes_data (v := .str s) rfl (quote_toList s) (by decide) (by decide) (by decide)

/-- The default of a property denotes its value. -/
theorem denotes_default (p : PropSpec) : Denotes p.defaultExpression p.defaultValue := by
  rw [PropSpec.defaultExpression, PropSpec.defaultValue]
  split
  · exact denotes_noop
  · split
    · exact denotes_word (by decide)
    · split
      · exact denotes_zero
      · exact denotes_quote p.defaultText

/-! ## Attributes of defaults -/

theorem readAttribute?_append (hname : IsAttributeName name) (hrest : ∀ c ∈ rest.head?, isAttributeChar c = false) :
    readAttribute? (name ++ rest) = (readAttributeValue? rest).map fun (v, rest) => ((.ofList name, v), rest) := by
  obtain ⟨hword, hafter⟩ := span_eq hname.2 hrest
  rw [readAttribute?, hword, hafter, if_pos (head_append hname.1 rest)]

theorem readAttribute?_assigned (hname : IsAttributeName name) (cs : List Char) :
    readAttribute? (name ++ '=' :: cs) = (readAttributeValue? ('=' :: cs)).map fun (v, rest) => ((.ofList name, v), rest) := by
  refine readAttribute?_append hname ?_
  rintro c ⟨⟩
  decide

theorem readAttributeValue?_text {value : List Char} (hvalue : '"' ∉ value) :
    readAttributeValue? ('=' :: '"' :: (value ++ ['"'])) = some (.data (.str (.ofList value)), []) := by
  have hall : value.all (· != '"') = true := by
    rw [List.all_eq_true]
    rintro c hc
    rw [bne_iff_ne]
    rintro rfl
    exact hvalue hc
  have hstop : ∀ c ∈ ['"'].head?, (c != '"') = false := by simp
  obtain ⟨hword, hafter⟩ := span_eq hall hstop
  rw [readAttributeValue?, hafter]
  dsimp only
  rw [hword]

theorem readAttributeValue?_expr {expression : String} {v : PropValue} (h : Denotes expression v) :
    readAttributeValue? ('=' :: '\x7b' :: (expression.toList ++ ['\x7d'])) = some (v, []) := by
  rw [readAttributeValue?, h.read _ (Json.closes_cons (by decide))]
  rfl

theorem readAttribute?_flag (h : IsAttributeName name) :
    readAttribute? (Attribute.flag name).chars = some ((.ofList name, .data (.bool true)), []) := by
  have hread := @readAttribute?_append name [] h nofun
  rwa [List.append_nil] at hread

theorem readAttribute?_expr {expression : String} {v : PropValue} (h : IsAttributeName name) (hv : Denotes expression v) :
    readAttribute? (Attribute.expr name expression.toList).chars = some ((.ofList name, v), []) := by
  rw [Attribute.chars, readAttribute?_assigned h, readAttributeValue?_expr hv]
  rfl

/-- What follows the name in the attribute with a text is read as the text, to its end. -/
theorem readAttributeValue?_ofText (name value : String) :
    ∃ written, (Attribute.ofText name value).chars = name.toList ++ '=' :: written ∧
      readAttributeValue? ('=' :: written) = some (.data (.str value), []) := by
  rw [Attribute.ofText, writtenText]
  split
  · have hread := readAttributeValue?_expr (denotes_quote value)
    rw [quote_toList] at hread
    exact ⟨_, rfl, hread⟩
  · next hplain =>
    have hquote : '"' ∉ value.toList := fun hmem => hplain (by simp [isEscaped, hmem])
    have hread := readAttributeValue?_text hquote
    rw [String.ofList_toList] at hread
    exact ⟨_, rfl, hread⟩

/-- The attribute with a text is read as the text. -/
theorem readAttribute?_ofText (name value : String) (h : IsAttributeName name.toList) :
    readAttribute? (Attribute.ofText name value).chars = some ((name, .data (.str value)), []) := by
  obtain ⟨written, hchars, hread⟩ := readAttributeValue?_ofText name value
  rw [hchars, readAttribute?_assigned h, hread, String.ofList_toList]
  rfl

/-- The attribute of a default is read as the default. -/
theorem readAttribute?_inlineDefault {p : PropSpec} (h : IsAttributeName p.name.toList) :
    readAttribute? p.inlineDefault.toList = some ((p.name, p.defaultValue), []) := by
  have hname : String.ofList p.name.toList = p.name := String.ofList_toList
  rw [p.inlineDefault_toList, PropSpec.written, PropSpec.defaultValue]
  split
  · rw [readAttribute?_expr h denotes_noop, hname]
  · split
    · rw [readAttribute?_flag h, hname]
    · split
      · exact (readAttribute?_expr h denotes_zero).trans (by rw [hname])
      · exact readAttribute?_ofText p.name p.defaultText h

/-! ## Entries of defaults -/

theorem readKey?_identifier {name : String} (h : IsIdentifier name.toList) (cs : List Char) :
    readKey? (name.toList ++ ':' :: cs) = some (name, ':' :: cs) := by
  have hcolon : ∀ c ∈ (':' :: cs).head?, isIdentifierPart c = false := by
    rintro c ⟨⟩
    decide
  have hread := readIdentifier?_append h hcolon
  rw [String.ofList_toList] at hread
  rw [← hread]
  cases hchars : name.toList with
  | nil => exact absurd hchars h.ne_nil
  | cons c more =>
    have hc := h.1
    rw [hchars] at hc
    rw [List.cons_append, readKey?]
    rintro rest heq
    rw [(List.cons.inj heq).1] at hc
    cases hc

theorem readKey?_quote (name : String) (cs : List Char) : readKey? ((Json.quote name).toList ++ cs) = some (name, cs) := by
  rw [quote_toList, List.cons_append, List.append_assoc, readKey?, List.singleton_append, Json.readText_quote]
  rfl

/-- Keys that are read as a name in front of a colon. -/
def IsKeyOf (key name : String) : Prop := ∀ cs, readKey? (key.toList ++ ':' :: cs) = some (name, ':' :: cs)

/-- An entry is read as its key and its value. -/
theorem readEntry?_append {key name expression : String} {v : PropValue} (hkey : IsKeyOf key name)
    (hv : Denotes expression v) (hrest : Json.Closes rest) :
    readEntry? ((key ++ ": " ++ expression).toList ++ rest) = some ((name, v), rest) := by
  obtain ⟨c, cs, hchars, hc⟩ := hv.solid
  have hcolon : ": ".toList = [':', ' '] := by decide
  have hgap : Json.skipGap (' ' :: (expression.toList ++ rest)) = expression.toList ++ rest := by
    rw [Json.skipGap, List.dropWhile_cons_of_pos (by decide), hchars, List.cons_append,
      List.dropWhile_cons_of_neg (by simp [hc])]
  have hread := hv.read rest hrest
  rw [← hgap] at hread
  rw [String.toList_append, String.toList_append, hcolon, List.append_assoc, List.append_assoc, readEntry?]
  show (readKey? (key.toList ++ ':' :: ' ' :: (expression.toList ++ rest)) >>= _) = _
  rw [hkey]
  show (readExpression? (Json.skipGap (' ' :: (expression.toList ++ rest))) >>= fun p => some ((name, p.1), p.2)) = _
  rw [hread]
  rfl

/-- A key without quotes is an identifier, or one with a line feed at its end. -/
theorem isPlainKey_iff {key : String} : isPlainKey key = true ↔
    IsIdentifier key.toList ∨ ∃ name, IsIdentifier name ∧ key.toList = name ++ ['\n'] := by
  have hbody : isPlainKey key = true ↔
      IsIdentifier (if ['\n'].isSuffixOf key.toList then key.toList.dropLast else key.toList) := by
    rw [isPlainKey]
    generalize (if ['\n'].isSuffixOf key.toList then key.toList.dropLast else key.toList) = body
    cases body with
    | nil => simp [IsIdentifier]
    | cons c rest =>
      dsimp only
      rw [Bool.and_eq_true, IsIdentifier, List.head?_cons, Option.any_some, List.all_cons]
      refine and_congr_right fun hc => ?_
      rw [isIdentifierPart, hc, Bool.true_or, Bool.true_and]
  have hfeed : ∀ {name : List Char}, ¬ IsIdentifier (name ++ ['\n']) := fun h => h.not_mem (c := '\n') (by decide) (by simp)
  rw [hbody]
  split
  · next hsuffix =>
    obtain ⟨name, hname⟩ := List.isSuffixOf_iff_suffix.1 hsuffix
    rw [← hname, List.dropLast_concat]
    constructor
    · exact fun h => Or.inr ⟨name, h, rfl⟩
    · rintro (h | ⟨name', h, heq⟩)
      · exact absurd h hfeed
      · rwa [List.append_cancel_right heq]
  · next hsuffix =>
    constructor
    · exact Or.inl
    · rintro (h | ⟨name, -, hname⟩)
      · exact h
      · exact absurd (List.isSuffixOf_iff_suffix.2 ⟨name, hname.symm⟩) hsuffix

/-- The key of a default is read as the name, unless a line feed follows the name's identifier. -/
theorem isKeyOf_default {name : String} (h : isPlainKey name = true → IsIdentifier name.toList) :
    IsKeyOf (if isPlainKey name then name else Json.quote name) name := by
  intro cs
  split
  · next hplain => exact readKey?_identifier (h hplain) cs
  · exact readKey?_quote name (':' :: cs)

theorem IsAttributeName.isIdentifier {name : String} (h : IsAttributeName name.toList) (hplain : isPlainKey name = true) :
    IsIdentifier name.toList := by
  refine (isPlainKey_iff.1 hplain).resolve_right ?_
  rintro ⟨identifier, -, hname⟩
  have hall := h.2
  rw [hname, List.all_append] at hall
  simp [isAttributeChar, isIdentifierPart, isIdentifierStart] at hall

end

/-- The two forms of a default say the same of the property's name and of its value, and each is read to its end. -/
theorem defaults_agree {p : PropSpec} (h : IsAttributeName p.name.toList) :
    readAttribute? p.inlineDefault.toList = some ((p.name, p.defaultValue), []) ∧
      readEntry? p.objectDefault.toList = some ((p.name, p.defaultValue), []) := by
  refine ⟨readAttribute?_inlineDefault h, ?_⟩
  have hend : Json.Closes [] := nofun
  have hentry := readEntry?_append (isKeyOf_default h.isIdentifier) (denotes_default p) hend
  rwa [List.append_nil] at hentry

/-- A property whose default needs quotes around its key and escapes in its text. -/
def quotedPath : PropSpec := ⟨"data-path", ⟨"'C:\\\"é' | 'b'"⟩, false, none⟩

theorem quotedPath_defaultValue : quotedPath.defaultValue = .data (.str "C:\\\"é") := by
  have htext : quotedPath.defaultText = "C:\\\"é" := by decide
  rw [PropSpec.defaultValue, if_neg (by decide), if_neg (by decide), if_neg (by decide), htext]

theorem defaults_agree_path : IsAttributeName quotedPath.name.toList ∧
    readAttribute? "data-path=\x7b\"C:\\\\\\\"\\u00e9\"\x7d".toList = some (("data-path", .data (.str "C:\\\"é")), []) ∧
    readEntry? "\"data-path\": \"C:\\\\\\\"\\u00e9\"".toList = some (("data-path", .data (.str "C:\\\"é")), []) := by
  have hname : IsAttributeName quotedPath.name.toList := by decide
  obtain ⟨hattribute, hentry⟩ := defaults_agree hname
  have hinline : quotedPath.inlineDefault = "data-path=\x7b\"C:\\\\\\\"\\u00e9\"\x7d" := by decide
  have hobject : quotedPath.objectDefault = "\"data-path\": \"C:\\\\\\\"\\u00e9\"" := by decide
  rw [hinline, quotedPath_defaultValue] at hattribute
  rw [hobject, quotedPath_defaultValue] at hentry
  exact ⟨hname, hattribute, hentry⟩

end Suitewright
