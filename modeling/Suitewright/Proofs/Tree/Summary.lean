/-
  The component of a readable tree.

  * `Visit.component?`: the component that a node declares; `Visit.exportNames`: the names that it exports;
  * `visitNode_readable`: a visit adds what its node declares (`Visit.declare`), and nothing else;
  * `Component.Summarizes`: a component that is put together from the declarations of visited nodes;
  * `analyze_readable`: so is the component of a readable tree, from its nodes in the order of `Tree.preorder`.
-/
import Suitewright.Proofs.Tree.Readable

namespace Suitewright

open Text

/-! ## What nodes declare -/

namespace Tree

/-- Whether the heritage of a class extends a component base class. -/
def extendsBase (t : Tree) : Bool :=
  (t.children.find? (·.isA "class_heritage")).any fun heritage => ExtendsBase heritage.text.toList

/-- Whether a variable with an identifier as its name has the value of a component. -/
def bindsComponent (t : Tree) : Bool :=
  (t.field? "name").any (·.isA "identifier") && (t.field? "value").any fun value => IsComponentValue value

/-- The name that an export statement exports by default: its value if that is an identifier, else the name of its
declaration. -/
def defaultExport? (t : Tree) : Option String :=
  if t.isA "export_statement" && t.children.any (·.isA "default") then
    (((t.field? "value").filter (·.isA "identifier")).or ((t.field? "declaration").bind (·.field? "name"))).map text
  else none

end Tree

/-- Names that begin with a capital. -/
def isCapitalized (name : String) : Bool := name.toList.head?.any isUpper

namespace Visit

/-- How a node declares a component: as a function or a class of the file, or as a variable anywhere. -/
def componentKind? (v : Visit) : Option ComponentKind :=
  if v.node.isA "function_declaration" && isTop v.above then some .functional
  else if v.node.isA "class_declaration" && isTop v.above && v.node.extendsBase then some .classBased
  else if v.node.isA "variable_declarator" && v.node.bindsComponent then some .functional
  else none

/-- The component that a node declares, under a name that begins with a capital. -/
def component? (v : Visit) : Option (String × ComponentKind) :=
  (v.node.field? "name").bind fun name => if isCapitalized name.text then v.componentKind?.map (name.text, ·) else none

/-- The names that a node exports: that of a component and that of the default export. -/
def exportNames (v : Visit) : List String := (v.component?.map Prod.fst).toList ++ v.node.defaultExport?.toList

/-- A component with a component declaration recorded. -/
def record (v : Visit) (m : Component) : Component :=
  match v.component? with
  | some (name, kind) => { m with name, kind }.addExport name
  | none => m

/-- A component with a default export recorded. -/
def exportDefault (v : Visit) (m : Component) : Component :=
  match v.node.defaultExport? with
  | some name => { m with hasDefaultExport := true }.addExport name
  | none => m

/-- A component with all that a node declares added to it. -/
def declare (v : Visit) (m : Component) : Component :=
  v.exportDefault (v.record
    { m with props := m.props ++ v.node.contractProps, imports := m.imports ++ v.node.import?.toList })

end Visit

/-! ## Visits of readable nodes -/

/-- A readable node under readable ones. -/
structure Visit.Readable (v : Visit) : Prop where
  node : v.node.Readable
  above : ∀ k ∈ v.above, k.isOk = true

theorem Visit.Readable.below {v : Visit} (h : v.Readable) : ∀ u ∈ v.below, u.Readable := by
  intro u hu
  obtain ⟨c, hc, rfl⟩ := List.mem_map.1 hu
  refine ⟨h.node.children c hc, List.forall_mem_cons.2 ⟨?_, h.above⟩⟩
  exact h.node _ (Tree.mem_preorder_self _)

section
variable {v : Visit} {t : Tree} (m : Component)

theorem recordComponent_eq (name : String) (kind : ComponentKind) :
    recordComponent name kind m = if isCapitalized name then { m with name, kind }.addExport name else m := by
  rw [recordComponent, isCapitalized]
  cases name.toList <;> rfl

theorem recordComponent_of_kind {kind : ComponentKind} {name : Tree} (hname : v.node.field? "name" = some name)
    (hkind : v.componentKind? = some kind) : recordComponent name.text kind m = v.record m := by
  rw [recordComponent_eq, Visit.record, Visit.component?, hname, Option.bind_some, hkind]
  split <;> rfl

theorem Visit.record_of_none (h : v.componentKind? = none) : v.record m = m := by
  have hcomponent : v.component? = none := by
    rw [component?, h]
    cases v.node.field? "name" <;> simp
  rw [record, hcomponent]

theorem Visit.record_of_nameless (h : v.node.field? "name" = none) : v.record m = m := by
  rw [record, component?, h]
  rfl

theorem addFunction_readable (h : v.Readable) (hkind : v.node.kind = .ok "function_declaration") :
    addFunction v m = .ok (v.record m) := by
  have hdeclared : v.componentKind? = if isTop v.above then some .functional else none := by
    simp [Visit.componentKind?, Tree.isA_of_kind hkind]
  rw [addFunction, isTopLevel_readable h.above]
  show (if isTop v.above = true then _ else _) = _
  split
  · next htop =>
    rw [if_pos htop] at hdeclared
    cases hname : v.node.field? "name" with
    | some name => exact congrArg Except.ok (recordComponent_of_kind m hname hdeclared)
    | none => exact congrArg Except.ok (v.record_of_nameless m hname).symm
  · next htop =>
    rw [if_neg htop] at hdeclared
    exact congrArg Except.ok (v.record_of_none m hdeclared).symm

theorem addClass_readable (h : v.Readable) (hkind : v.node.kind = .ok "class_declaration") :
    addClass v m = .ok (v.record m) := by
  have hdeclared : v.componentKind? = if isTop v.above && v.node.extendsBase then some .classBased else none := by
    simp [Visit.componentKind?, Tree.isA_of_kind hkind]
  rw [addClass, isTopLevel_readable h.above, firstOfKind?_readable h.node.children]
  show (if isTop v.above = true then _ else _) = _
  split
  · next htop =>
    rw [htop, Bool.true_and, Tree.extendsBase] at hdeclared
    cases hname : v.node.field? "name" with
    | none => exact congrArg Except.ok (v.record_of_nameless m hname).symm
    | some name =>
      cases hheritage : v.node.children.find? (·.isA "class_heritage") with
      | none =>
        rw [hheritage] at hdeclared
        exact congrArg Except.ok (v.record_of_none m hdeclared).symm
      | some heritage =>
        rw [hheritage, Option.any_some] at hdeclared
        refine congrArg Except.ok ?_
        split
        · next hextends =>
          rw [if_pos (decide_eq_true (extendsComponent_iff.1 hextends))] at hdeclared
          exact recordComponent_of_kind m hname hdeclared
        · next hextends =>
          rw [if_neg fun h => hextends (extendsComponent_iff.2 (of_decide_eq_true h))] at hdeclared
          exact (v.record_of_none m hdeclared).symm
  · next htop =>
    rw [Bool.not_eq_true _ |>.mp htop, Bool.false_and] at hdeclared
    exact congrArg Except.ok (v.record_of_none m hdeclared).symm

theorem addVariable_readable (h : v.Readable) (hkind : v.node.kind = .ok "variable_declarator") :
    addVariable v.node m = .ok (v.record m) := by
  have hdeclared : v.componentKind? = if v.node.bindsComponent then some .functional else none := by
    simp [Visit.componentKind?, Tree.isA_of_kind hkind]
  rw [addVariable]
  cases hname : v.node.field? "name" with
  | none => exact congrArg Except.ok (v.record_of_nameless m hname).symm
  | some name =>
    rw [Tree.bindsComponent, hname, Option.any_some] at hdeclared
    cases hvalue : v.node.field? "value" with
    | none =>
      rw [hvalue, Option.any_none, Bool.and_false] at hdeclared
      exact congrArg Except.ok (v.record_of_none m hdeclared).symm
    | some value =>
      obtain ⟨k, hk⟩ := (h.node.field? hname).kind
      rw [hvalue, Option.any_some, Tree.isA_of_kind hk] at hdeclared
      dsimp only
      rw [hk, isComponentValue_readable (h.node.field? hvalue)]
      show (if (k == "identifier") = true then _ else _) = _
      split
      · next hidentifier =>
        rw [hidentifier, Bool.true_and] at hdeclared
        refine congrArg Except.ok ?_
        show (if decide (IsComponentValue value) = true then _ else _) = _
        split
        · next hcomponent =>
          rw [if_pos hcomponent] at hdeclared
          exact recordComponent_of_kind m hname hdeclared
        · next hcomponent =>
          rw [if_neg hcomponent] at hdeclared
          exact (v.record_of_none m hdeclared).symm
      · next hidentifier =>
        rw [Bool.not_eq_true _ |>.mp hidentifier, Bool.false_and] at hdeclared
        exact congrArg Except.ok (v.record_of_none m hdeclared).symm

theorem defaultExportName?_readable (h : t.Readable) (hkind : t.kind = .ok "export_statement") :
    defaultExportName? t = .ok t.defaultExport? := by
  rw [defaultExportName?, anyOfKind_readable h.children, Tree.defaultExport?, Tree.isA_of_kind hkind, BEq.rfl,
    Bool.true_and]
  show (if t.children.any (·.isA "default") = true then _ else _) = _
  split
  · cases hvalue : t.field? "value" with
    | none => rfl
    | some value =>
      obtain ⟨k, hk⟩ := (h.field? hvalue).kind
      dsimp only
      rw [hk, Option.filter_some, Tree.isA_of_kind hk]
      show (if (k == "identifier") = true then _ else _) = _
      split <;> rfl
  · rfl

theorem addDefaultExport_readable (h : v.Readable) (hkind : v.node.kind = .ok "export_statement") :
    addDefaultExport v.node m = .ok (v.exportDefault m) := by
  rw [addDefaultExport, defaultExportName?_readable h.node hkind, Visit.exportDefault]
  cases v.node.defaultExport? <;> rfl

theorem addImport_readable (h : t.Readable) (hkind : t.kind = .ok "import_statement") :
    addImport t m = .ok { m with imports := m.imports ++ t.import?.toList } := by
  rw [addImport, importOf_readable h hkind]
  rfl

/-- The properties of a body are added to none, when there is no body. -/
theorem addContract_readable (body : Option Tree) (h : ∀ b ∈ body, b.Readable) (hbody : t.contractBody? = body) :
    (match body with
      | some body => addMembers body m
      | none => (m, none)) = ({ m with props := m.props ++ t.contractProps }, none) := by
  rw [Tree.contractProps, hbody]
  cases body with
  | none => simp
  | some body => exact addMembers_readable (h body rfl) m

theorem addInterface_readable (h : t.Readable) (hkind : t.kind = .ok "interface_declaration") :
    addInterface t m = ({ m with props := m.props ++ t.contractProps }, none) := by
  have hbody : t.contractBody? =
      if (t.field? "name").any fun name => isContractName name.text then t.field? "body" else none := by
    rw [Tree.contractBody?, Tree.isA_of_kind hkind, BEq.rfl, if_pos rfl]
  rw [addInterface]
  cases hname : t.field? "name" with
  | none => exact addContract_readable m none (by simp) (by rw [hbody, hname]; rfl)
  | some name =>
    rw [hname, Option.any_some] at hbody
    cases hfield : t.field? "body" with
    | none => exact addContract_readable m none (by simp) (by rw [hbody, hfield, ite_self])
    | some body =>
      dsimp only
      split
      · next hcontract =>
        rw [if_pos hcontract, hfield] at hbody
        exact addContract_readable m _ (by simpa using h.field? hfield) hbody
      · next hcontract =>
        rw [if_neg hcontract] at hbody
        exact addContract_readable m _ (by simp) hbody

theorem addTypeAlias_readable (h : t.Readable) (hkind : t.kind = .ok "type_alias_declaration") :
    addTypeAlias t m = ({ m with props := m.props ++ t.contractProps }, none) := by
  have hbody : t.contractBody? = if (t.field? "name").any fun name => isContractName name.text then
      (t.field? "value").filter (·.isA "object_type") else none := by
    rw [Tree.contractBody?, Tree.isA_of_kind hkind, Tree.isA_of_kind hkind, BEq.rfl, if_pos rfl]
    rfl
  rw [addTypeAlias]
  cases hname : t.field? "name" with
  | none => exact addContract_readable m none (by simp) (by rw [hbody, hname]; rfl)
  | some name =>
    rw [hname, Option.any_some] at hbody
    cases hvalue : t.field? "value" with
    | none => exact addContract_readable m none (by simp) (by rw [hbody, hvalue]; exact ite_self _)
    | some value =>
      obtain ⟨k, hk⟩ := (h.field? hvalue).kind
      rw [hvalue, Option.filter_some, Tree.isA_of_kind hk] at hbody
      dsimp only
      split
      · next hcontract =>
        rw [if_pos hcontract] at hbody
        rw [hk]
        dsimp only
        split
        · next hobject =>
          rw [if_pos hobject] at hbody
          exact addContract_readable m _ (by simpa using h.field? hvalue) hbody
        · next hobject =>
          rw [if_neg hobject] at hbody
          exact addContract_readable m _ (by simp) hbody
      · next hcontract =>
        rw [if_neg hcontract] at hbody
        exact addContract_readable m _ (by simp) hbody

/-! ### Declarations of other kinds -/

theorem componentKind?_of_kind {kind : String} (hkind : v.node.kind = .ok kind)
    (h : kind ∉ ["function_declaration", "class_declaration", "variable_declarator"]) : v.componentKind? = none := by
  simp only [List.mem_cons, List.not_mem_nil, or_false, not_or] at h
  simp [Visit.componentKind?, Tree.isA_of_kind hkind, h]

theorem contractProps_of_kind {kind : String} (hkind : t.kind = .ok kind)
    (h : kind ∉ ["interface_declaration", "type_alias_declaration"]) : t.contractProps = [] := by
  simp only [List.mem_cons, List.not_mem_nil, or_false, not_or] at h
  simp [Tree.contractProps, Tree.contractBody?, Tree.isA_of_kind hkind, h]

theorem import?_of_kind {kind : String} (hkind : t.kind = .ok kind) (h : kind ≠ "import_statement") : t.import? = none := by
  simp [Tree.import?, Tree.isA_of_kind hkind, h]

theorem defaultExport?_of_kind {kind : String} (hkind : t.kind = .ok kind) (h : kind ≠ "export_statement") :
    t.defaultExport? = none := by
  simp [Tree.defaultExport?, Tree.isA_of_kind hkind, h]

/-- A visit of a readable node adds what the node declares, and nothing else. -/
theorem visitNode_readable (h : v.Readable) : visitNode v m = (v.declare m, none) := by
  obtain ⟨kind, hkind⟩ := h.node.kind
  have hrecord := fun hk m => v.record_of_none m (componentKind?_of_kind hkind hk)
  have hprops := contractProps_of_kind hkind
  have himport := import?_of_kind hkind
  have hexport : kind ≠ "export_statement" → ∀ m, v.exportDefault m = m := fun hk m => by
    rw [Visit.exportDefault, defaultExport?_of_kind hkind hk]
  rw [visitNode, hkind, Visit.declare]
  dsimp only
  split
  · next hk =>
    obtain rfl := beq_iff_eq.1 hk
    rw [addImport_readable m h.node hkind, hexport (by decide), hrecord (by decide), hprops (by decide), List.append_nil]
    rfl
  split
  · next hk =>
    obtain rfl := beq_iff_eq.1 hk
    rw [addInterface_readable m h.node hkind, hexport (by decide), hrecord (by decide), himport (by decide),
      Option.toList_none, List.append_nil]
  split
  · next hk =>
    obtain rfl := beq_iff_eq.1 hk
    rw [addTypeAlias_readable m h.node hkind, hexport (by decide), hrecord (by decide), himport (by decide),
      Option.toList_none, List.append_nil]
  have hkept : ∀ m : Component, { m with props := m.props ++ [], imports := m.imports ++ [] } = m := fun m => by
    rw [List.append_nil, List.append_nil]
  split
  · next hk =>
    obtain rfl := beq_iff_eq.1 hk
    rw [addFunction_readable m h hkind, hexport (by decide), hprops (by decide), himport (by decide), Option.toList_none,
      hkept]
    rfl
  split
  · next hk =>
    obtain rfl := beq_iff_eq.1 hk
    rw [addClass_readable m h hkind, hexport (by decide), hprops (by decide), himport (by decide), Option.toList_none,
      hkept]
    rfl
  split
  · next hk =>
    obtain rfl := beq_iff_eq.1 hk
    rw [addVariable_readable m h hkind, hexport (by decide), hprops (by decide), himport (by decide), Option.toList_none,
      hkept]
    rfl
  split
  · next hk =>
    obtain rfl := beq_iff_eq.1 hk
    rw [addDefaultExport_readable m h hkind, hrecord (by decide), hprops (by decide), himport (by decide),
      Option.toList_none, hkept]
    rfl
  · next hi hn ha hf hc hv he =>
    simp only [beq_iff_eq] at hi hn ha hf hc hv he
    rw [hexport he, hrecord (by simp [hf, hc, hv]), hprops (by simp [hn, ha]), himport hi, Option.toList_none, hkept]

end

/-! ## Names without repetition -/

/-- A list of names with one more, unless it is there. -/
def addName (names : List String) (name : String) : List String :=
  if names.contains name then names else names ++ [name]

theorem addName_nodup {names : List String} (h : names.Nodup) (name : String) : (addName names name).Nodup := by
  rw [addName]
  split
  · exact h
  · next hnew =>
    refine List.nodup_append.2 ⟨h, by simp, fun a ha b hb => ?_⟩
    rintro rfl
    exact hnew (List.contains_iff_mem.2 (List.mem_singleton.1 hb ▸ ha))

theorem foldl_addName_nodup {names : List String} (h : names.Nodup) (more : List String) :
    (more.foldl addName names).Nodup := by
  induction more generalizing names with
  | nil => exact h
  | cons name more ih => exact ih (addName_nodup h name)

/-- Adding names one after the other keeps the first occurrence of each. -/
theorem foldl_addName (names more : List String) :
    more.foldl addName names = names ++ (more.removeAll names).eraseDups := by
  induction more generalizing names with
  | nil => simp [List.removeAll]
  | cons name more ih =>
    rw [List.foldl_cons, ih, addName]
    split
    · next hold =>
      have hmem : name ∈ names := List.contains_iff_mem.1 hold
      simp [List.removeAll, hmem]
    · next hnew =>
      have hmem : name ∉ names := fun h => hnew (List.contains_iff_mem.2 h)
      have hrest : more.removeAll (names ++ [name]) = (more.removeAll names).filter fun b => !b == name := by
        simp [List.removeAll, List.filter_filter, Bool.and_comm, beq_eq_decide]
      rw [hrest, List.append_assoc, List.singleton_append, ← List.eraseDups_cons]
      simp [List.removeAll, hmem]

theorem addExport_eq (m : Component) (name : String) :
    m.addExport name = { m with exports := addName m.exports name } := by
  rw [Component.addExport, addName]
  split <;> rfl

/-! ## Components with declarations added -/

/-- A component is another one with the declarations of visited nodes added to it, in their order. -/
structure Extended (vs : List Visit) (m r : Component) : Prop where
  sourcePath : r.sourcePath = m.sourcePath
  props : r.props = m.props ++ vs.flatMap fun v => v.node.contractProps
  imports : r.imports = m.imports ++ vs.filterMap fun v => v.node.import?
  declared : (r.name, r.kind) = (vs.filterMap Visit.component?).getLast?.getD (m.name, m.kind)
  exports : r.exports = (vs.flatMap Visit.exportNames).foldl addName m.exports
  hasDefaultExport : r.hasDefaultExport = (m.hasDefaultExport || vs.any fun v => v.node.defaultExport?.isSome)

namespace Extended

variable {vs us : List Visit} {m r q : Component}

theorem refl (m : Component) : Extended [] m m := ⟨rfl, by simp, by simp, rfl, rfl, by simp⟩

theorem append (h : Extended vs m r) (h' : Extended us r q) : Extended (vs ++ us) m q where
  sourcePath := h'.sourcePath.trans h.sourcePath
  props := by rw [h'.props, h.props, List.flatMap_append, List.append_assoc]
  imports := by rw [h'.imports, h.imports, List.filterMap_append, List.append_assoc]
  declared := by
    rw [h'.declared, h.declared, List.filterMap_append, List.getLast?_append]
    cases (us.filterMap Visit.component?).getLast? <;> rfl
  exports := by rw [h'.exports, h.exports, List.flatMap_append, List.foldl_append]
  hasDefaultExport := by rw [h'.hasDefaultExport, h.hasDefaultExport, List.any_append, Bool.or_assoc]

/-- What one visit adds. -/
theorem declare (v : Visit) (m : Component) : Extended [v] m (v.declare m) := by
  unfold Visit.declare Visit.exportDefault Visit.record
  cases hcomponent : v.component? <;> cases hexport : v.node.defaultExport? <;>
    simp only [addExport_eq] <;>
    exact ⟨rfl, by simp, by cases hi : v.node.import? <;> simp [hi], by simp [hcomponent],
      by simp [Visit.exportNames, hcomponent, hexport], by simp [hexport]⟩

theorem foldl (vs : List Visit) (m : Component) : Extended vs m (vs.foldl (fun m v => v.declare m) m) := by
  induction vs generalizing m with
  | nil => exact refl m
  | cons v vs ih => exact (declare v m).append (ih _)

end Extended

/-- A component that is put together from the declarations of visited nodes: the properties of all contracts, one import
for each import statement with a module, name and kind of the last component, and the exported names without repetition
in the order of their first occurrence. -/
structure Component.Summarizes (path : String) (vs : List Visit) (m : Component) : Prop where
  sourcePath : m.sourcePath = path
  props : m.props = vs.flatMap fun v => v.node.contractProps
  imports : m.imports = vs.filterMap fun v => v.node.import?
  declared : (m.name, m.kind) = (vs.filterMap Visit.component?).getLast?.getD ("", .functional)
  nameless : m.name = "" ↔ ∀ v ∈ vs, v.component? = none
  exports : m.exports = (vs.flatMap Visit.exportNames).eraseDups
  exports_nodup : m.exports.Nodup
  name_mem : m.name ≠ "" → m.name ∈ m.exports
  hasDefaultExport : m.hasDefaultExport = true ↔ ∃ v ∈ vs, v.node.defaultExport?.isSome = true

theorem component?_name_ne {v : Visit} {name : String} {kind : ComponentKind} (h : v.component? = some (name, kind)) :
    name ≠ "" := by
  obtain ⟨t, -, h⟩ := Option.bind_eq_some_iff.1 h
  split at h
  · next hcapital =>
    obtain ⟨k, -, h⟩ := Option.map_eq_some_iff.1 h
    obtain ⟨rfl, -⟩ := Prod.mk.inj h
    intro hempty
    rw [hempty] at hcapital
    cases hcapital
  · cases h

/-- Declarations that are added to an empty component summarize it. -/
theorem Extended.summarizes {path : String} {vs : List Visit} {m : Component} (h : Extended vs { sourcePath := path } m) :
    m.Summarizes path vs := by
  have hexports : m.exports = (vs.flatMap Visit.exportNames).eraseDups := by
    rw [h.exports, foldl_addName]
    simp [List.removeAll]
  -- the last declaration gives the name, which is then exported where it is declared
  have hlast : (m.name = "" ∧ vs.filterMap Visit.component? = []) ∨
      (m.name ≠ "" ∧ ∃ v ∈ vs, v.component? = some (m.name, m.kind)) := by
    cases hgot : (vs.filterMap Visit.component?).getLast? with
    | none =>
      have hdeclared := h.declared
      rw [hgot] at hdeclared
      exact Or.inl ⟨(Prod.mk.inj hdeclared).1, List.getLast?_eq_none_iff.1 hgot⟩
    | some c =>
      have hdeclared : (m.name, m.kind) = c := by rw [h.declared, hgot]; rfl
      obtain ⟨v, hv, hc⟩ := List.mem_filterMap.1 (List.mem_of_getLast? hgot)
      rw [← hdeclared] at hc
      exact Or.inr ⟨component?_name_ne hc, v, hv, hc⟩
  refine ⟨h.sourcePath, by simpa using h.props, by simpa using h.imports, h.declared, ?_, hexports, ?_, ?_, ?_⟩
  · rcases hlast with ⟨hempty, hnone⟩ | ⟨hne, v, hv, hc⟩
    · exact ⟨fun _ => List.filterMap_eq_nil_iff.1 hnone, fun _ => hempty⟩
    · refine ⟨fun hempty => absurd hempty hne, fun hnone => ?_⟩
      rw [hnone v hv] at hc
      cases hc
  · rw [h.exports]
    exact foldl_addName_nodup List.nodup_nil _
  · intro hne
    rcases hlast with ⟨hempty, -⟩ | ⟨-, v, hv, hc⟩
    · exact absurd hempty hne
    · rw [hexports, List.mem_eraseDups]
      exact List.mem_flatMap.2 ⟨v, hv, by simp [Visit.exportNames, hc]⟩
  · simp [h.hasDefaultExport]

/-- The analysis of a readable tree adds the declarations of its nodes, each before those below it, to an empty
component. -/
theorem analyzeTree_readable {t : Tree} (h : t.Readable) (path : String) : analyzeTree (.ok t) path =
    ((Visit.all ⟨t, []⟩).foldl (fun m v => v.declare m) { sourcePath := path }, none) := by
  have hall : ∀ v ∈ Visit.all ⟨t, []⟩, v.Readable := Visit.forall_mem_all (fun v hv => hv.below) ⟨h, by simp⟩
  rw [analyzeTree, walk_eq]
  exact runVisits_of_ok (fun v hv m => visitNode_readable m (hall v hv)) _

/-- The component of a readable tree is put together from the declarations of its nodes, each before those below it, and
no node fails. -/
theorem analyze_readable {t : Tree} (h : t.Readable) (path : String) :
    (Visit.all ⟨t, []⟩).map Visit.node = t.preorder ∧
      ∃ m, analyzeTree (.ok t) path = (m, none) ∧ m.Summarizes path (Visit.all ⟨t, []⟩) :=
  ⟨Visit.map_node_all _, _, analyzeTree_readable h path, (Extended.foldl _ _).summarizes⟩

/-- A file with an import, a properties contract of which one member is no property, a wrapped component and its default
export. -/
def badgeTree : Tree :=
  .node { kind := .ok "program" } [
    .node { kind := .ok "import_statement" } [
      .node { kind := .ok "import_clause" } [.node { kind := .ok "identifier", text := "React" } []],
      .node { kind := .ok "string", text := "'react'", field := some "source" } []],
    .node { kind := .ok "interface_declaration" } [
      .node { kind := .ok "type_identifier", text := "BadgeProps", field := some "name" } [],
      .node { kind := .ok "interface_body", field := some "body" } [
        .node { kind := .ok "property_signature" } [
          .node { kind := .ok "property_identifier", text := "label", field := some "name" } [],
          .node { kind := .ok "type_annotation", field := some "type" } [
            .node { kind := .ok "predefined_type", text := "string" } []]],
        .node { kind := .ok "comment", text := "/** Shown in red. */" } [],
        .node { kind := .ok "property_signature" } [
          .node { kind := .ok "property_identifier", text := "urgent", field := some "name" } [],
          .node { kind := .ok "?", named := false } []]]],
    .node { kind := .ok "variable_declarator" } [
      .node { kind := .ok "identifier", text := "Badge", field := some "name" } [],
      .node { kind := .ok "call_expression", field := some "value" } [
        .node { kind := .ok "member_expression", text := "React.memo", field := some "function" } [],
        .node { kind := .ok "arguments", field := some "arguments" } [.node { kind := .ok "arrow_function" } []]]],
    .node { kind := .ok "export_statement" } [
      .node { kind := .ok "default", named := false } [],
      .node { kind := .ok "identifier", text := "Badge", field := some "value" } []]]

theorem analyze_readable_badge : badgeTree.Readable ∧
    (∃ m, analyzeTree (.ok badgeTree) "src/Badge.tsx" = (m, none) ∧
      m.Summarizes "src/Badge.tsx" (Visit.all ⟨badgeTree, []⟩)) ∧
    (analyzeTree (.ok badgeTree) "src/Badge.tsx").1.props =
      [⟨"label", ⟨"string"⟩, false, none⟩, ⟨"urgent", ⟨"any"⟩, true, some "Shown in red."⟩] :=
  ⟨by decide, (analyze_readable (by decide) _).2, by decide +kernel⟩

end Suitewright
