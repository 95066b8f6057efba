/-
  What the nodes of a readable tree say.

  * `Tree.Readable`: all nodes of a tree can be read;
  * `Tree.import?`, `Tree.contractProps`: what a node says of imports and properties, without failures;
    `importOf_readable`, `memberProps_readable`: reading a readable tree finds just that;
  * `ExtendsBase`, `IsComponentValue`: class heritages and values of components, as judgements; `extendsComponent_iff` and
    `isComponentValue_iff`: they are decided.
-/
import Suitewright.Proofs.Failure.Reading
import Suitewright.Proofs.Tree.Preorder
import Suitewright.Tree.Analysis

namespace Suitewright

open Text

/-- Whether a kind can be read and is the given one. -/
def Kind.readsAs (k : Kind) (kind : String) : Bool :=
  match k with
  | .ok k => k == kind
  | .error _ => false

namespace Tree

/-- All nodes of a tree can be read. -/
def Readable (t : Tree) : Prop := ∀ u ∈ t.preorder, u.kind.isOk = true

instance (t : Tree) : Decidable t.Readable := inferInstanceAs (Decidable (∀ u ∈ t.preorder, _))

/-- Whether the root is of a kind. -/
def isA (t : Tree) (kind : String) : Bool := t.kind.readsAs kind

theorem isA_of_kind {t : Tree} {k : String} (h : t.kind = .ok k) (kind : String) : t.isA kind = (k == kind) := by
  rw [isA, h]
  rfl

section
variable {t c : Tree} {name : String}

theorem Readable.kind (h : t.Readable) : ∃ k, t.kind = .ok k := by
  have hok := h t t.mem_preorder_self
  cases hkind : t.kind with
  | ok k => exact ⟨k, rfl⟩
  | error e => rw [hkind] at hok; cases hok

theorem Readable.children (h : t.Readable) : ∀ c ∈ t.children, c.Readable :=
  fun _ hc u hu => h u (mem_preorder_of_child hc hu)

theorem Readable.field? (h : t.Readable) (hc : t.field? name = some c) : c.Readable :=
  h.children c (List.mem_of_find?_eq_some hc)

theorem Readable.namedChildren (h : t.Readable) : ∀ c ∈ t.namedChildren, c.Readable :=
  fun c hc => h.children c (List.mem_filter.1 hc).1

end

end Tree

/-! ## Kinds among several nodes -/

section
variable {ts : List Tree} (h : ∀ t ∈ ts, t.Readable)
include h

theorem firstOfKind?_readable (kind : String) : firstOfKind? kind ts = .ok (ts.find? (·.isA kind)) := by
  induction ts with
  | nil => rfl
  | cons t ts ih =>
    obtain ⟨k, hk⟩ := (h t (by simp)).kind
    rw [firstOfKind?, hk, List.find?_cons, Tree.isA_of_kind hk, ih fun u hu => h u (by simp [hu])]
    show (if (k == kind) = true then _ else _) = _
    cases k == kind <;> rfl

theorem anyOfKind_readable (kind : String) : anyOfKind kind ts = .ok (ts.any (·.isA kind)) := by
  rw [anyOfKind, firstOfKind?_readable h]
  show Except.ok (ts.find? (·.isA kind)).isSome = _
  rw [Bool.eq_iff_iff.2 (List.find?_isSome.trans List.any_eq_true.symm)]

end

/-! ## Imports -/

namespace Tree

/-- The local name of an import specifier. -/
def specifierName? (t : Tree) : Option String :=
  if t.isA "import_specifier" then ((t.field? "alias").or (t.field? "name")).map text else none

/-- The names that a part of an import clause binds. -/
def boundNames (t : Tree) : List String :=
  if t.isA "identifier" then [t.text]
  else if t.isA "named_imports" then t.namedChildren.filterMap specifierName?
  else if t.isA "namespace_import" then ((t.namedChildren.find? (·.isA "identifier")).map text).toList
  else []

/-- The parts of the import clause of an import. -/
def clauseParts (t : Tree) : List Tree :=
  ((t.namedChildren.find? (·.isA "import_clause")).map namedChildren).getD []

/-- The import of an import statement that names its module. -/
def import? (t : Tree) : Option ImportInfo :=
  if t.isA "import_statement" then
    (t.field? "source").map fun source =>
      { source := stripQuotes source.text, imports := t.clauseParts.flatMap boundNames,
        isDefault := t.clauseParts.any (·.isA "identifier") }
  else none

end Tree

theorem specifierNames_readable {ts : List Tree} (h : ∀ t ∈ ts, t.Readable) :
    specifierNames ts = .ok (ts.filterMap Tree.specifierName?) := by
  induction ts with
  | nil => rfl
  | cons t ts ih =>
    obtain ⟨k, hk⟩ := (h t (by simp)).kind
    rw [specifierNames, hk, ih fun u hu => h u (by simp [hu]), List.filterMap_cons, Tree.specifierName?,
      Tree.isA_of_kind hk]
    cases (t.field? "alias").or (t.field? "name") <;> cases hs : k == "import_specifier" <;>
      simp [bind, Except.bind, pure, Except.pure, hs]

theorem clauseNames_readable {t : Tree} (h : t.Readable) : clauseNames t = .ok t.boundNames := by
  obtain ⟨k, hk⟩ := h.kind
  rw [clauseNames, hk, Tree.boundNames, Tree.isA_of_kind hk, Tree.isA_of_kind hk, Tree.isA_of_kind hk,
    specifierNames_readable h.namedChildren, firstOfKind?_readable h.namedChildren]
  show (if (k == "identifier") = true then _ else _) = _
  split
  · rfl
  · split
    · rfl
    · split <;> rfl

theorem mapM_clauseNames_readable {ts : List Tree} (h : ∀ t ∈ ts, t.Readable) :
    ts.mapM clauseNames = .ok (ts.map Tree.boundNames) := by
  induction ts with
  | nil => rfl
  | cons t ts ih =>
    rw [List.mapM_cons, clauseNames_readable (h t (by simp)), ih fun u hu => h u (by simp [hu])]
    rfl

theorem importOf_readable {t : Tree} (h : t.Readable) (hkind : t.kind = .ok "import_statement") :
    importOf t = .ok t.import? := by
  rw [importOf, Tree.import?, Tree.isA_of_kind hkind, BEq.rfl, if_pos rfl, Tree.clauseParts]
  cases t.field? "source" with
  | none => rfl
  | some source =>
    rw [firstOfKind?_readable h.namedChildren]
    cases hclause : t.namedChildren.find? (·.isA "import_clause") with
    | none => rfl
    | some clause =>
      have hparts := (h.namedChildren clause (List.mem_of_find?_eq_some hclause)).namedChildren
      show (clause.namedChildren.mapM clauseNames >>= _) = _
      rw [mapM_clauseNames_readable hparts, anyOfKind_readable hparts]
      rfl

/-! ## Properties -/

namespace Tree

/-- The property of a member with a name, which stands after another node. -/
def property? (before : Option Tree) (t : Tree) : Option PropSpec :=
  if t.isA "property_signature" then
    (t.field? "name").map fun name =>
      { name := stripQuotes name.text, type := typeAfter (t.field? "type"), optional := t.children.any (·.isA "?"),
        description := (before.filter (·.isA "comment")).bind fun comment => describe? comment.text }
  else none

/-- The body of a properties contract: of an interface, or of a type alias for an object type. -/
def contractBody? (t : Tree) : Option Tree :=
  if (t.field? "name").any fun name => isContractName name.text then
    if t.isA "interface_declaration" then t.field? "body"
    else if t.isA "type_alias_declaration" then (t.field? "value").filter (·.isA "object_type")
    else none
  else none

/-- The properties of the members of a body, each with the member before it. -/
def bodyProps (body : Tree) : List PropSpec :=
  (List.zipWith property? (none :: body.namedChildren.map some) body.namedChildren).flatMap Option.toList

/-- The properties of a properties contract. -/
def contractProps (t : Tree) : List PropSpec := (t.contractBody?.map bodyProps).getD []

end Tree

theorem descriptionBefore_readable {before : Option Tree} (h : ∀ b ∈ before, b.Readable) :
    descriptionBefore before =
      .ok ((before.filter (·.isA "comment")).bind fun comment => describe? comment.text) := by
  cases before with
  | none => rfl
  | some b =>
    obtain ⟨k, hk⟩ := (h b rfl).kind
    rw [descriptionBefore, hk, Option.filter_some, Tree.isA_of_kind hk]
    show (if (k == "comment") = true then _ else _) = _
    split <;> rfl

theorem memberProp_readable {before : Option Tree} {t : Tree} (hbefore : ∀ b ∈ before, b.Readable) (h : t.Readable) :
    memberProp before t = .ok (t.property? before) := by
  obtain ⟨k, hk⟩ := h.kind
  rw [memberProp, hk, Tree.property?, Tree.isA_of_kind hk]
  show (if (k == "property_signature") = true then _ else _) = _
  split
  · cases t.field? "name" with
    | none => rfl
    | some name =>
      rw [anyOfKind_readable h.children, descriptionBefore_readable hbefore]
      rfl
  · rfl

theorem memberProps_readable {before : Option Tree} {ts : List Tree} (hbefore : ∀ b ∈ before, b.Readable)
    (h : ∀ t ∈ ts, t.Readable) :
    memberProps before ts = ((List.zipWith Tree.property? (before :: ts.map some) ts).flatMap Option.toList, none) := by
  induction ts generalizing before with
  | nil => rfl
  | cons t ts ih =>
    have ht := h t (by simp)
    have hsome : ∀ b ∈ some t, b.Readable := by simpa using ht
    have hrest := ih hsome fun u hu => h u (by simp [hu])
    rw [memberProps, memberProp_readable hbefore ht, hrest, List.map_cons, List.zipWith_cons_cons, List.flatMap_cons]

theorem addMembers_readable {body : Tree} (h : body.Readable) (m : Component) :
    addMembers body m = ({ m with props := m.props ++ body.bodyProps }, none) := by
  rw [addMembers, memberProps_readable (by simp) h.namedChildren]
  rfl

/-! ## Components -/

/-- Nodes that stand in the file itself, or in an export statement of it. -/
def isTop : List Kind → Bool
  | [] => false
  | parent :: above => parent.readsAs "program" || (parent.readsAs "export_statement" && above.head?.any (Kind.readsAs · "program"))

theorem isTopLevel_readable {above : List Kind} (h : ∀ k ∈ above, k.isOk = true) : isTopLevel above = .ok (isTop above) := by
  match above with
  | [] => rfl
  | .error e :: _ => cases h _ List.mem_cons_self
  | [.ok parent] =>
    show (if (parent == "program") = true then _ else _) =
      Except.ok ((parent == "program") || ((parent == "export_statement") && false))
    cases parent == "program" <;> cases parent == "export_statement" <;> rfl
  | .ok parent :: .error e :: _ => cases h (.error e) (by simp)
  | .ok parent :: .ok grandparent :: _ =>
    show (if (parent == "program") = true then _ else _) =
      Except.ok ((parent == "program") || ((parent == "export_statement") && (grandparent == "program")))
    cases parent == "program" <;> cases parent == "export_statement" <;> rfl

/-! ### Class heritages -/

/-- A text in which a component base class is extended. -/
def ExtendsBase (cs : List Char) : Prop :=
  ∃ before gap react pure after, cs = before ++ ("extends".toList ++ (gap ++ (react ++ (pure ++ ("Component".toList ++ after))))) ∧
    gap ≠ [] ∧ gap.all isBlank = true ∧ react ∈ [[], "React.".toList] ∧ pure ∈ [[], "Pure".toList] ∧
    atWordEdge before.getLast? (some 'e') = true ∧ atWordEdge (some 't') after.head? = true

/-- The words that may stand before the name of a base class begin with no blank and can be told from what follows. -/
theorem baseWords_apart {react pure after : List Char} (hreact : react ∈ [[], "React.".toList])
    (hpure : pure ∈ [[], "Pure".toList]) :
    (react ++ (pure ++ ("Component".toList ++ after))).head?.all (fun c => !isBlank c) = true ∧
      ¬ "React.".toList <+: pure ++ ("Component".toList ++ after) ∧ ¬ "Pure".toList <+: "Component".toList ++ after := by
  have hcomponent : ∀ {w : List Char} {c : Char}, c ≠ 'C' → ¬ c :: w <+: "Component".toList ++ after := fun hc h =>
    hc (List.cons_prefix_cons.1 h).1
  refine ⟨?_, ?_, hcomponent (by decide)⟩
  · rcases List.mem_cons.1 hreact with rfl | hreact
    · rcases List.mem_cons.1 hpure with rfl | hpure
      · rfl
      · rw [List.mem_singleton.1 hpure]
        rfl
    · rw [List.mem_singleton.1 hreact]
      rfl
  · rcases List.mem_cons.1 hpure with rfl | hpure
    · exact hcomponent (by decide)
    · rw [List.mem_singleton.1 hpure]
      exact fun h => absurd (List.cons_prefix_cons.1 h).1 (by decide)

/-- A base class is named where a text begins with the parts of such a heritage. -/
theorem componentBaseHere_iff {before : Option Char} {cs : List Char} : componentBaseHere before cs = true ↔
    ∃ gap react pure after, cs = "extends".toList ++ (gap ++ (react ++ (pure ++ ("Component".toList ++ after)))) ∧
      gap ≠ [] ∧ gap.all isBlank = true ∧ react ∈ [[], "React.".toList] ∧ pure ∈ [[], "Pure".toList] ∧
      atWordEdge before (some 'e') = true ∧ atWordEdge (some 't') after.head? = true := by
  rw [componentBaseHere, Option.isSome_iff_exists]
  simp only [Option.bind_eq_bind, Option.bind_eq_some_iff, after?_eq_some, Prod.exists]
  constructor
  · rintro ⟨_, rest, rfl, gap, rest', hrun, after, hafter, hedge⟩
    rw [run?] at hrun
    split at hrun
    · cases hrun
    · next hgap =>
      obtain ⟨rfl, rfl⟩ := Prod.mk.inj (Option.some.inj hrun)
      obtain ⟨react, hreact, hrest⟩ := getD_after? (rfl : (after? "React.".toList (rest.dropWhile isBlank)).getD _ = _)
      obtain ⟨pure, hpure, hrest'⟩ := getD_after? hafter
      split at hedge
      · next h =>
        rw [Bool.and_eq_true] at h
        refine ⟨rest.takeWhile isBlank, react, pure, after, ?_, by simpa using hgap, List.all_takeWhile, hreact, hpure, h.1,
          h.2⟩
        rw [← hrest', ← hrest, List.takeWhile_append_dropWhile]
      · cases hedge
  · rintro ⟨gap, react, pure, after, rfl, hgap, hblank, hreact, hpure, hbefore, hafter⟩
    obtain ⟨hstart, hreact', hpure'⟩ := baseWords_apart hreact hpure
    refine ⟨(), _, rfl, gap, react ++ (pure ++ ("Component".toList ++ after)),
      run?_append hgap (fun c hc => List.all_eq_true.1 hblank c hc) hstart, after, ?_, ?_⟩
    · rw [getD_after?_append hreact hreact', getD_after?_append hpure hpure']
    · rw [hbefore, hafter]
      rfl

theorem extendsComponent_from {before : Option Char} {cs : List Char} : extendsComponent before cs = true ↔
    ∃ skipped rest, cs = skipped ++ rest ∧ componentBaseHere (skipped.getLast?.or before) rest = true := by
  induction cs generalizing before with
  | nil =>
    constructor
    · intro h
      cases h
    · rintro ⟨skipped, rest, hparts, h⟩
      rw [(List.append_eq_nil_iff.1 hparts.symm).2] at h
      cases h
  | cons c cs ih =>
    rw [extendsComponent, Bool.or_eq_true, ih]
    constructor
    · rintro (h | ⟨skipped, rest, rfl, h⟩)
      · exact ⟨[], c :: cs, rfl, h⟩
      · refine ⟨c :: skipped, rest, rfl, ?_⟩
        rw [List.getLast?_cons, Option.some_or]
        cases hlast : skipped.getLast? <;> rw [hlast] at h <;> exact h
    · rintro ⟨skipped, rest, hparts, h⟩
      cases skipped with
      | nil => exact Or.inl (by rwa [hparts])
      | cons d skipped =>
        obtain ⟨rfl, rfl⟩ := List.cons.inj hparts
        refine Or.inr ⟨skipped, rest, rfl, ?_⟩
        rw [List.getLast?_cons, Option.some_or] at h
        cases hlast : skipped.getLast? <;> rw [hlast] at h <;> exact h

/-- Searching a heritage decides whether it extends a base class. -/
theorem extendsComponent_iff {cs : List Char} : extendsComponent none cs = true ↔ ExtendsBase cs := by
  rw [extendsComponent_from]
  simp only [componentBaseHere_iff, Option.or_none]
  constructor
  · rintro ⟨before, _, rfl, gap, react, pure, after, rfl, h⟩
    exact ⟨before, gap, react, pure, after, rfl, h⟩
  · rintro ⟨before, gap, react, pure, after, rfl, h⟩
    exact ⟨before, _, rfl, gap, react, pure, after, rfl, h⟩

instance (cs : List Char) : Decidable (ExtendsBase cs) := decidable_of_iff _ extendsComponent_iff

/-! ### Values of components -/

/-- The first argument of a call of a wrapper. -/
def Tree.wrappedValue? (t : Tree) : Option Tree :=
  if (t.field? "function").any fun callee => wrapperEndings.any fun w => w.toList.isSuffixOf callee.text.toList then
    (t.field? "arguments").bind fun arguments => arguments.namedChildren.head?
  else none

theorem Tree.size_wrappedValue? {t first : Tree} (h : t.wrappedValue? = some first) : first.size < t.size := by
  rw [wrappedValue?] at h
  split at h
  · obtain ⟨arguments, hargs, hfirst⟩ := Option.bind_eq_some_iff.1 h
    have hmem : first ∈ arguments.children := (List.mem_filter.1 (List.mem_of_head? hfirst)).1
    exact Nat.lt_trans (size_lt_of_mem_children hmem) (size_lt_of_field? hargs)
  · cases h

theorem Tree.Readable.wrappedValue? {t first : Tree} (h : t.Readable) (hfirst : t.wrappedValue? = some first) :
    first.Readable := by
  rw [Tree.wrappedValue?] at hfirst
  split at hfirst
  · obtain ⟨arguments, hargs, hfirst⟩ := Option.bind_eq_some_iff.1 hfirst
    exact (h.field? hargs).namedChildren first (List.mem_of_head? hfirst)
  · cases hfirst

/-- Values that make a variable a component: functions, and calls of wrappers whose first argument is such a value. -/
inductive IsComponentValue : Tree → Prop
  /-- A function. -/
  | function {t : Tree} {kind : String} : t.kind = .ok kind → kind ∈ functionKinds → IsComponentValue t
  /-- A call of a wrapper. -/
  | wrapped {t first : Tree} : t.kind = .ok "call_expression" → t.wrappedValue? = some first → IsComponentValue first →
    IsComponentValue t

/-- The value of a call is that of what it wraps. -/
theorem isComponentValue_eq (t : Tree) : isComponentValue t = do
    let kind ← t.kind
    if functionKinds.contains kind then return true
    else if kind != "call_expression" then return false
    else
      match t.wrappedValue? with
      | some first => isComponentValue first
      | none => return false := by
  rw [isComponentValue]
  refine bind_congr fun kind => ?_
  split
  · rfl
  · split
    · rfl
    · split
      · next callee arguments hcallee hargs =>
        have hwrapped : t.wrappedValue? = if wrapperEndings.any fun w => w.toList.isSuffixOf callee.text.toList then
            arguments.namedChildren.head? else none := by
          rw [Tree.wrappedValue?, hcallee, hargs]
          rfl
        rw [hwrapped]
        split
        · next hnone =>
          rw [hnone, List.head?_nil, ite_self]
        · next first rest hfirst =>
          dsimp only
          rw [hfirst, List.head?_cons]
          split <;> rfl
      · next h =>
        rw [Tree.wrappedValue?]
        cases hcallee : t.field? "function" with
        | none => rfl
        | some callee =>
          cases hargs : t.field? "arguments" with
          | none => simp
          | some arguments => exact absurd hargs (h callee arguments hcallee)

theorem IsComponentValue.of_found {t : Tree} (h : isComponentValue t = .ok true) : IsComponentValue t := by
  rw [isComponentValue_eq] at h
  obtain ⟨kind, hkind, h⟩ := bind_eq_ok.1 h
  split at h
  · next hfunction => exact .function hkind (List.contains_iff_mem.1 hfunction)
  · split at h
    · cases h
    · next hcall =>
      split at h
      · next first hfirst =>
        obtain rfl : kind = "call_expression" := by simpa using hcall
        exact .wrapped hkind hfirst (of_found h)
      · cases h
termination_by t.size
decreasing_by exact Tree.size_wrappedValue? ‹_›

theorem IsComponentValue.found {t : Tree} (h : IsComponentValue t) : isComponentValue t = .ok true := by
  induction h with
  | function hkind hmem =>
    rw [isComponentValue_eq, hkind]
    exact if_pos (List.contains_iff_mem.2 hmem)
  | wrapped hkind hfirst _ ih =>
    rw [isComponentValue_eq, hkind, hfirst]
    exact ih

/-- Reading a value decides whether it makes a variable a component. -/
theorem isComponentValue_iff {t : Tree} : isComponentValue t = .ok true ↔ IsComponentValue t :=
  ⟨.of_found, IsComponentValue.found⟩

instance (t : Tree) : Decidable (IsComponentValue t) := decidable_of_iff _ isComponentValue_iff

theorem isComponentValue_ok {t : Tree} (h : t.Readable) : ∃ b, isComponentValue t = .ok b := by
  obtain ⟨kind, hkind⟩ := h.kind
  rw [isComponentValue_eq, hkind]
  show ∃ b, (if functionKinds.contains kind = true then _ else _) = _
  split
  · exact ⟨true, rfl⟩
  · split
    · exact ⟨false, rfl⟩
    · split
      · next first hfirst => exact isComponentValue_ok (h.wrappedValue? hfirst)
      · exact ⟨false, rfl⟩
termination_by t.size
decreasing_by exact Tree.size_wrappedValue? ‹_›

theorem isComponentValue_readable {t : Tree} (h : t.Readable) : isComponentValue t = .ok (decide (IsComponentValue t)) := by
  obtain ⟨b, hb⟩ := isComponentValue_ok h
  have hdecide : b = true ↔ IsComponentValue t := by rw [← isComponentValue_iff, hb, Except.ok.injEq]
  rw [hb, Bool.eq_iff_iff.2 (hdecide.trans decide_eq_true_iff.symm)]

end Suitewright
