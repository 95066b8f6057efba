/-
  The keys in objects of required properties.

  * `readObject?`: a reader of objects; `readObject?_literal`: entries between braces are read one after another;
  * `entryKey`, `entryValue`: the two parts of an entry of the required properties; `isEntry_required`;
  * `WritesKey`: how a name stands as a key, bare or quoted;
  * `PropSpec.Misspelt`: the properties whose keys stand without the quotes that they need;
  * `requiredObject_keys`: all others have a key that stands for the name, and an object with no other keys is read whole
    in the cases of an event.
-/
import Suitewright.Proofs.Suite.Literals
import Suitewright.Proofs.Suite.Supplied

namespace Suitewright

open Text

/-! ## Objects -/

/-- Reads the entries of an object up to its brace. -/
def readEntries? : Nat → List Char → Option (List (String × PropValue) × List Char)
  | 0, _ => none
  | fuel + 1, cs => do
    let (e, rest) ← readEntry? cs
    match Json.skipGap rest with
    | '\x7d' :: rest => return ([e], rest)
    | ',' :: rest =>
      let (es, rest) ← readEntries? fuel (Json.skipGap rest)
      return (e :: es, rest)
    | _ => none

/-- Reads an object. -/
def readObject? : List Char → Option (List (String × PropValue) × List Char)
  | '\x7b' :: rest =>
    match Json.skipGap rest with
    | '\x7d' :: rest => some ([], rest)
    | rest => readEntries? (rest.length + 1) rest
  | _ => none

/-- Entries that are read as a key with a value in front of all that ends a value. -/
structure IsEntry (entry : String) (e : String × PropValue) : Prop where
  solid : ∃ c cs, entry.toList = c :: cs ∧ Json.isGap c = false ∧ c ≠ '\x7d'
  read : ∀ rest, Json.Closes rest → readEntry? (entry.toList ++ rest) = some (e, rest)

section
variable {α : Type} {text : α → String} {meaning : α → String × PropValue} {a b : α} {as : List α} {fuel : Nat}
  {rest : List Char}

theorem entries_cons : (", ".intercalate ((a :: b :: as).map text)).toList =
    (text a).toList ++ ',' :: ' ' :: (", ".intercalate ((b :: as).map text)).toList := by
  rw [List.map_cons, List.map_cons, String.intercalate_cons_cons, String.toList_append, String.toList_append,
    List.append_assoc]
  rfl

/-- Entries begin as the first of them does. -/
theorem entries_solid (ha : IsEntry (text a) (meaning a)) (as : List α) :
    ∃ c cs, (", ".intercalate ((a :: as).map text)).toList = c :: cs ∧ Json.isGap c = false ∧ c ≠ '\x7d' := by
  obtain ⟨c, cs, hchars, hc⟩ := ha.solid
  cases as with
  | nil => exact ⟨c, cs, hchars, hc⟩
  | cons b as => exact ⟨c, _, by rw [entries_cons, hchars, List.cons_append], hc⟩

/-- A blank before entries is skipped. -/
theorem entries_skipGap (ha : IsEntry (text a) (meaning a)) (rest : List Char) :
    Json.skipGap (' ' :: ((", ".intercalate ((a :: as).map text)).toList ++ rest)) =
      (", ".intercalate ((a :: as).map text)).toList ++ rest := by
  obtain ⟨c, cs, hchars, hc, -⟩ := entries_solid ha as
  rw [Json.skipGap, List.dropWhile_cons_of_pos (by decide), hchars, List.cons_append,
    List.dropWhile_cons_of_neg (by simp [hc])]

theorem length_le_entries (text : α → String) (as : List α) :
    as.length ≤ (", ".intercalate (as.map text)).toList.length + 1 := by
  induction as with
  | nil => exact Nat.zero_le _
  | cons a as ih =>
    cases as with
    | nil => simp
    | cons b as =>
      rw [entries_cons]
      simp only [List.length_append, List.length_cons] at ih ⊢
      omega

/-- Entries with commas between them are read one after another. -/
theorem readEntries?_intercalate (h : ∀ a ∈ as, IsEntry (text a) (meaning a)) (hne : as ≠ []) (hfuel : as.length ≤ fuel) :
    readEntries? fuel ((", ".intercalate (as.map text)).toList ++ ' ' :: '\x7d' :: rest) = some (as.map meaning, rest) := by
  induction as generalizing fuel with
  | nil => exact absurd rfl hne
  | cons a as ih =>
    obtain ⟨fuel, rfl⟩ := Nat.exists_eq_succ_of_ne_zero (Nat.ne_zero_of_lt hfuel)
    have ha := h a List.mem_cons_self
    cases as with
    | nil =>
      have hread := ha.read (' ' :: '\x7d' :: rest) (Json.closes_cons (by decide))
      rw [List.map_singleton, String.intercalate_singleton, readEntries?, hread]
      rfl
    | cons b as =>
      have hb := h b (List.mem_cons_of_mem _ List.mem_cons_self)
      have hnext := @ih fuel (fun a ha => h a (List.mem_cons_of_mem _ ha)) (List.cons_ne_nil b as)
        (Nat.le_of_succ_le_succ hfuel)
      -- behind the comma stands a blank, which is skipped before the next entry
      rw [← entries_skipGap hb] at hnext
      rw [entries_cons, List.append_assoc, List.cons_append, List.cons_append, readEntries?,
        ha.read _ (Json.closes_cons (by decide))]
      show (readEntries? fuel (Json.skipGap (' ' :: _)) >>= fun p => some (meaning a :: p.1, p.2)) = _
      rw [hnext]
      rfl

/-- An object is read as its entries. -/
theorem readObject?_literal (h : ∀ a ∈ as, IsEntry (text a) (meaning a)) :
    readObject? (objectLiteral (as.map text)).toList = some (as.map meaning, []) := by
  cases as with
  | nil =>
    have hnone : (objectLiteral []).toList = ['\x7b', '\x7d'] := by decide
    rw [List.map_nil, hnone]
    rfl
  | cons a as =>
    have ha := h a List.mem_cons_self
    have hliteral : (objectLiteral ((a :: as).map text)).toList =
        '\x7b' :: ' ' :: ((", ".intercalate ((a :: as).map text)).toList ++ [' ', '\x7d']) := by
      have hopen : "\x7b ".toList = ['\x7b', ' '] := by decide
      have hclose : " \x7d".toList = [' ', '\x7d'] := by decide
      rw [objectLiteral, if_neg (by simp), String.toList_append, String.toList_append, hopen, hclose, List.append_assoc]
      rfl
    have hread : readEntries? (((", ".intercalate ((a :: as).map text)).toList ++ [' ', '\x7d']).length + 1)
        ((", ".intercalate ((a :: as).map text)).toList ++ [' ', '\x7d']) = some ((a :: as).map meaning, []) := by
      refine readEntries?_intercalate h (List.cons_ne_nil a as) (Nat.le_trans (length_le_entries text (a :: as)) ?_)
      rw [List.length_append]
      omega
    obtain ⟨c, cs, hchars, -, hc⟩ := entries_solid ha as
    rw [hliteral, readObject?, entries_skipGap ha]
    rw [hchars, List.cons_append] at hread ⊢
    -- the first entry does not begin with the brace that closes an empty object
    split
    · next heq => exact absurd (List.cons.inj heq).1 hc
    · next heq => exact hread

end

/-! ## Keys -/

/-- The key of a required property in the object, given the values of some. -/
def PropSpec.entryKey (p : PropSpec) (given : List (String × String)) : String :=
  if (given.lookup p.name).isSome || isPlainKey p.name then p.name else Json.quote p.name

/-- The value of a required property in the object. -/
def PropSpec.entryValue (p : PropSpec) (given : List (String × String)) : String :=
  (given.lookup p.name).getD p.defaultExpression

/-- How a name stands as a key: bare, if it is an identifier, or as a quoted text. -/
inductive WritesKey : String → String → Prop
  | bare {name : String} : IsIdentifier name.toList → WritesKey name name
  | quoted {key name : String} {body : List Char} : key.toList = '"' :: body → Json.readText body = .ok (name, []) →
      WritesKey key name

/-- Properties whose keys need quotes and have none. -/
inductive PropSpec.Misspelt (p : PropSpec) (given : List (String × String)) : Prop
  /-- Keys of given values are never quoted. -/
  | given : ¬ IsIdentifier p.name.toList → (given.lookup p.name).isSome = true → Misspelt p given
  /-- A line feed behind an identifier is overlooked. -/
  | feed {name : List Char} : IsIdentifier name → p.name.toList = name ++ ['\n'] → Misspelt p given

/-- A text is no quoted form of itself, since that is longer. -/
theorem WritesKey.identifier {name : String} (h : WritesKey name name) : IsIdentifier name.toList := by
  cases h with
  | bare h => exact h
  | quoted hkey hread =>
    have hlength := Json.readText_length hread
    have hlonger := congrArg List.length hkey
    rw [String.length_toList, List.length_cons] at hlonger
    rw [List.length_nil] at hlength
    omega

section
variable {m : Component} {p h : PropSpec} {given : List (String × String)}

theorem requiredEntry_eq (given : List (String × String)) (p : PropSpec) :
    requiredEntry given p = p.entryKey given ++ ": " ++ p.entryValue given := by
  rw [requiredEntry, PropSpec.entryKey, PropSpec.entryValue]
  cases given.lookup p.name with
  | some value => rfl
  | none => rfl

/-- The key of a misspelt property is its bare name. -/
theorem PropSpec.Misspelt.bare (hp : p.Misspelt given) : p.entryKey given = p.name ∧ ¬ IsIdentifier p.name.toList := by
  rw [PropSpec.entryKey]
  cases hp with
  | given hname hgiven => exact ⟨by rw [hgiven]; rfl, hname⟩
  | feed hname heq =>
    have hplain : isPlainKey p.name = true := isPlainKey_iff.2 (Or.inr ⟨_, hname, heq⟩)
    refine ⟨by rw [hplain, Bool.or_true]; rfl, fun hidentifier => ?_⟩
    rw [heq] at hidentifier
    exact hidentifier.not_mem (c := '\n') (by decide) (by simp)

/-- The key of any other property is its bare name or its quoted name. -/
theorem entryKey_spelt (hp : ¬ p.Misspelt given) :
    (p.entryKey given = p.name ∧ IsIdentifier p.name.toList) ∨ p.entryKey given = Json.quote p.name := by
  rw [PropSpec.entryKey]
  split
  · next hbare =>
    refine Or.inl ⟨rfl, ?_⟩
    rcases Bool.or_eq_true_iff.1 hbare with hgiven | hplain
    · exact Classical.byContradiction fun hname => hp (.given hname hgiven)
    · exact (isPlainKey_iff.1 hplain).resolve_right fun ⟨name, hname, heq⟩ => hp (.feed hname heq)
  · exact Or.inr rfl

/-- A key stands for the name exactly if the property is not misspelt. -/
theorem writesKey_iff : WritesKey (p.entryKey given) p.name ↔ ¬ p.Misspelt given := by
  constructor
  · intro hkey hp
    obtain ⟨heq, hname⟩ := hp.bare
    rw [heq] at hkey
    exact hname hkey.identifier
  · intro hp
    obtain ⟨heq, hname⟩ | heq := entryKey_spelt hp
    · rw [heq]
      exact .bare hname
    · rw [heq]
      exact .quoted (quote_toList p.name) (Json.readText_quote p.name [])

theorem misspelt_iff : p.Misspelt given ↔ p.entryKey given = p.name ∧ ¬ IsIdentifier p.name.toList := by
  refine ⟨PropSpec.Misspelt.bare, fun ⟨heq, hname⟩ => ?_⟩
  by_contra hp
  have hkey := writesKey_iff.2 hp
  rw [heq] at hkey
  exact hname hkey.identifier

instance (p : PropSpec) (given : List (String × String)) : Decidable (p.Misspelt given) :=
  decidable_of_iff _ misspelt_iff.symm

/-! ## Objects of required properties -/

theorem isKeyOf_entryKey (hp : ¬ p.Misspelt given) : IsKeyOf (p.entryKey given) p.name := by
  obtain ⟨heq, hname⟩ | heq := entryKey_spelt hp
  · rw [heq]
    exact fun cs => readKey?_identifier hname cs
  · rw [heq]
    exact fun cs => readKey?_quote p.name (':' :: cs)

theorem entryKey_solid (hp : ¬ p.Misspelt given) :
    ∃ c cs, (p.entryKey given).toList = c :: cs ∧ Json.isGap c = false ∧ c ≠ '\x7d' := by
  obtain ⟨heq, hname⟩ | heq := entryKey_spelt hp
  · obtain ⟨c, cs, hchars⟩ := List.exists_cons_of_ne_nil hname.ne_nil
    have hc := hname.1
    rw [hchars] at hc
    refine ⟨c, cs, by rw [heq, hchars], isIdentifierStart_solid hc, ?_⟩
    rintro rfl
    cases hc
  · exact ⟨_, _, by rw [heq, quote_toList], by decide, by decide⟩

theorem isEntry_required {v : PropValue} (hp : ¬ p.Misspelt given) (hv : Denotes (p.entryValue given) v) :
    IsEntry (requiredEntry given p) (p.name, v) := by
  rw [requiredEntry_eq]
  refine ⟨?_, fun rest hrest => readEntry?_append (isKeyOf_entryKey hp) hv hrest⟩
  obtain ⟨c, cs, hchars, hc⟩ := entryKey_solid hp
  exact ⟨c, _, by rw [String.toList_append, String.toList_append, hchars, List.cons_append, List.cons_append], hc⟩

theorem handlerVariable_head (name : String) : (handlerVariable name).toList.head? = some 'h' := by
  rw [handlerVariable, String.toList_append]
  rfl

theorem isIdentifier_handlerVariable (name : String) : IsIdentifier (handlerVariable name).toList := by
  refine ⟨by rw [handlerVariable_head]; decide, List.all_eq_true.2 fun c hc => ?_⟩
  exact isIdentifierPart_of_isAlphanum (List.all_eq_true.1 (handlerVariable_alphanum name).2 c hc)

/-- The variable of a handler is no keyword, since none begins as it does. -/
theorem denotes_handler (name : String) : Denotes (handlerVariable name) (.variable (handlerVariable name)) := by
  have htable : ∀ k ∈ keywords, k.1.toList.head? ≠ some 'h' := by decide
  have hkeyword : keywords.lookup (handlerVariable name) = none := by
    refine List.lookup_eq_none_iff.2 fun k hk => ?_
    rw [bne_iff_ne]
    intro heq
    exact htable k hk (by rw [← heq, handlerVariable_head])
  have hword := denotes_word (isIdentifier_handlerVariable name)
  rwa [PropValue.ofWord, hkeyword] at hword

/-- What a required property is in the cases of an event: the handler for the event's property, else its default. -/
def PropSpec.valueFor (p h : PropSpec) : PropValue :=
  if p.name = h.name then .variable (handlerVariable h.name) else p.defaultValue

theorem denotes_valueFor (p h : PropSpec) : Denotes (p.entryValue [(h.name, handlerVariable h.name)]) (p.valueFor h) := by
  rw [PropSpec.entryValue, PropSpec.valueFor, lookup_single]
  split
  · exact denotes_handler h.name
  · exact denotes_default p

theorem Component.Supplies.declarations {entry : PropSpec → String} {before body : List String}
    (hbody : m.Supplies entry before body) :
    body.filter declaresRequired = ["const requiredProps = " ++ objectLiteral (m.requiredProps.map entry) ++ ";"] := by
  obtain ⟨attributes, after, rfl, -, hothers⟩ := hbody
  rw [List.forall_mem_append] at hothers
  have hnone : ∀ {lines : List String}, (∀ line ∈ lines, declaresRequired line = false ∧ isRendering line = false) →
      lines.filter declaresRequired = [] := fun hlines => List.filter_eq_nil_iff.2 fun line hline => by
    rw [(hlines line hline).1]
    decide
  have hdeclaration (object : String) : declaresRequired ("const requiredProps = " ++ object ++ ";") = true := by
    rw [declaresRequired, String.append_assoc, String.toList_append]
    rfl
  have hrendering (more : String) :
      ¬ declaresRequired ("render(<" ++ m.displayName ++ more ++ attributes ++ " />);") = true := by
    rw [declaresRequired]
    simp only [String.append_assoc, String.toList_append]
    exact Bool.false_ne_true
  rw [List.filter_append, hnone hothers.1, List.filter_append, hnone hothers.2, List.filter_cons_of_pos (hdeclaration _),
    List.filter_cons_of_neg (by decide), List.filter_cons_of_neg (hrendering _), List.filter_cons_of_neg (by decide)]
  rfl

theorem given_eventTopic {t : Topic} (ht : t ∈ m.eventTopics h) :
    t.given = [(h.name, handlerVariable h.name)] ∧ t ≠ .rendering := by
  rw [Component.eventTopics] at ht
  split at ht
  · rw [List.mem_cons] at ht
    rcases ht with rfl | ht
    · exact ⟨rfl, by simp⟩
    · split at ht
      · rw [List.mem_singleton.1 ht]
        exact ⟨rfl, by simp⟩
      · cases ht
  · cases ht

end

/-- The object of the required properties has an entry for each. Its key is the property's name, bare or quoted as the name
needs, exactly if the property is not misspelt; and in the cases of an event an object without misspelt properties is read
whole, as their names with the values that they stand for. -/
theorem requiredObject_keys (m : Component) :
    (∀ given, m.requiredObject given =
      objectLiteral (m.requiredProps.map fun p => p.entryKey given ++ ": " ++ p.entryValue given)) ∧
    (∀ (p : PropSpec) given, WritesKey (p.entryKey given) p.name ↔ ¬ p.Misspelt given) ∧
    ∀ h ∈ m.props, ∀ c ∈ m.eventCases h, (∀ p ∈ m.requiredProps, ¬ p.Misspelt [(h.name, handlerVariable h.name)]) →
      ∃ title description body object, c = .make title description body ∧
        body.filter declaresRequired = ["const requiredProps = " ++ object ++ ";"] ∧
        readObject? object.toList = some (m.requiredProps.map fun p => (p.name, p.valueFor h), []) := by
  refine ⟨fun given => ?_, fun p given => writesKey_iff, fun h _ c hc hspelt => ?_⟩
  · rw [requiredObject_literal, funext (requiredEntry_eq given)]
  · rw [Component.eventCases_eq] at hc
    obtain ⟨t, ht, rfl⟩ := List.mem_map.1 hc
    obtain ⟨hgiven, hne⟩ := given_eventTopic ht
    obtain ⟨title, description, hcase⟩ := m.exists_caseOf t
    have hdeclaration := (supplies_body (m := m) hne).declarations
    rw [← requiredObject_eq] at hdeclaration
    refine ⟨title, description, m.body t, _, hcase, hdeclaration, ?_⟩
    rw [hgiven, requiredObject_literal]
    exact readObject?_literal fun p hp => isEntry_required (hspelt p hp) (denotes_valueFor p h)

/-- The name of a handler that is given is not quoted, whatever it is. -/
example : Component.requiredObject { props := [⟨"on-click", ⟨"() => void"⟩, false, none⟩] }
    [("on-click", "handleClick")] = "\x7b on-click: handleClick \x7d" := by decide

/-- A property for an event. -/
def onToggle : PropSpec := ⟨"onToggle", ⟨"() => void"⟩, false, none⟩

/-- A component with a key that needs quotes and an event. -/
def trailComponent : Component := { name := "Trail", props := [quotedPath, onToggle], sourcePath := "src/Trail.tsx" }

theorem requiredObject_keys_trail : ∃ title description body object,
    trailComponent.invocationCase onToggle = .make title description body ∧
      body.filter declaresRequired = ["const requiredProps = " ++ object ++ ";"] ∧
      readObject? object.toList =
        some ([("data-path", .data (.str "C:\\\"é")), ("onToggle", .variable "handleToggle")], []) := by
  obtain ⟨-, -, hcases⟩ := requiredObject_keys trailComponent
  have hcase : trailComponent.invocationCase onToggle ∈ trailComponent.eventCases onToggle := by
    rw [Component.eventCases, if_pos (by decide)]
    exact List.mem_cons_self
  obtain ⟨title, description, body, object, hmake, hdeclaration, hread⟩ := hcases onToggle (by decide) _ hcase (by decide)
  have hpath : quotedPath.valueFor onToggle = .data (.str "C:\\\"é") := by
    rw [PropSpec.valueFor, if_neg (by decide), quotedPath_defaultValue]
  have htoggle : onToggle.valueFor onToggle = .variable "handleToggle" := by
    have hvariable : handlerVariable onToggle.name = "handleToggle" := by decide
    rw [PropSpec.valueFor, if_pos rfl, hvariable]
  refine ⟨title, description, body, object, hmake, hdeclaration, hread.trans ?_⟩
  show some ([(quotedPath.name, quotedPath.valueFor onToggle), (onToggle.name, onToggle.valueFor onToggle)], []) = _
  rw [hpath, htoggle]
  rfl

end Suitewright
