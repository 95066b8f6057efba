/-
  What one visit can do to a component.

  * `Adds`: the five things that a visit can do; `visitNode_adds`: it does one of them, whether its node can be read or
    not;
  * `Component.Grows`: a component with more properties, imports and exports after those of another one;
    `visitNode_grows`, `runVisits_grows`: visits never take anything away.
-/
import Suitewright.Proofs.Failure.Reading
import Suitewright.Proofs.Tree.Preorder
import Suitewright.Tree.Analysis

namespace Suitewright

/-! ## One visit -/

/-- What a visit of a node can make of a component. -/
inductive Adds (t : Tree) (m : Component) : Component → Prop
  /-- Nothing is added. -/
  | nothing : Adds t m m
  /-- An import. -/
  | imported (imports : List ImportInfo) : Adds t m { m with imports := m.imports ++ imports }
  /-- Properties of a contract. -/
  | contract {name : Tree} (props : List PropSpec) : t.field? "name" = some name → isContractName name.text = true →
    Adds t m { m with props := m.props ++ props }
  /-- A component under the name of the node, if that begins with a capital. -/
  | component {name : Tree} (kind : ComponentKind) : t.field? "name" = some name →
    Adds t m (recordComponent name.text kind m)
  /-- A default export. -/
  | defaultExport (name : String) : Adds t m ({ m with hasDefaultExport := true }.addExport name)

section
variable {v : Visit} {t : Tree} {m m' : Component}

theorem addMembers_adds {body name : Tree} (hname : t.field? "name" = some name) (h : isContractName name.text = true) :
    Adds t m (addMembers body m).1 := .contract _ hname h

theorem addInterface_adds (t : Tree) (m : Component) : Adds t m (addInterface t m).1 := by
  rw [addInterface]
  split
  · next name body hname _ =>
    split
    · next h => exact addMembers_adds hname h
    · exact .nothing
  · exact .nothing

theorem addTypeAlias_adds (t : Tree) (m : Component) : Adds t m (addTypeAlias t m).1 := by
  rw [addTypeAlias]
  split
  · next name value hname _ =>
    split
    · next h =>
      split
      · split
        · exact addMembers_adds hname h
        · exact .nothing
      · exact .nothing
    · exact .nothing
  · exact .nothing

theorem addImport_adds (h : addImport t m = .ok m') : Adds t m m' := by
  rw [addImport] at h
  cases hi : importOf t with
  | error e => rw [hi] at h; cases h
  | ok i =>
    rw [hi] at h
    obtain rfl := Except.ok.inj h
    exact .imported _

theorem addFunction_adds (h : addFunction v m = .ok m') : Adds v.node m m' := by
  obtain ⟨top, -, h⟩ := bind_eq_ok.1 h
  split at h
  · split at h
    · next name hname =>
      obtain rfl := Except.ok.inj h
      exact .component _ hname
    · obtain rfl := Except.ok.inj h
      exact .nothing
  · obtain rfl := Except.ok.inj h
    exact .nothing

theorem addClass_adds (h : addClass v m = .ok m') : Adds v.node m m' := by
  obtain ⟨top, -, h⟩ := bind_eq_ok.1 h
  split at h
  · obtain ⟨heritage, -, h⟩ := bind_eq_ok.1 h
    split at h
    · next name heritage hname =>
      split at h
      · obtain rfl := Except.ok.inj h
        exact .component _ hname
      · obtain rfl := Except.ok.inj h
        exact .nothing
    · obtain rfl := Except.ok.inj h
      exact .nothing
  · obtain rfl := Except.ok.inj h
    exact .nothing

theorem addVariable_adds (h : addVariable t m = .ok m') : Adds t m m' := by
  rw [addVariable] at h
  split at h
  · next name value hname _ =>
    obtain ⟨kind, -, h⟩ := bind_eq_ok.1 h
    split at h
    · obtain ⟨isComponent, -, h⟩ := bind_eq_ok.1 h
      split at h
      · obtain rfl := Except.ok.inj h
        exact .component _ hname
      · obtain rfl := Except.ok.inj h
        exact .nothing
    · obtain rfl := Except.ok.inj h
      exact .nothing
  · obtain rfl := Except.ok.inj h
    exact .nothing

theorem addDefaultExport_adds (h : addDefaultExport t m = .ok m') : Adds t m m' := by
  obtain ⟨name, -, h⟩ := bind_eq_ok.1 h
  split at h
  · obtain rfl := Except.ok.inj h
    exact .defaultExport _
  · obtain rfl := Except.ok.inj h
    exact .nothing

theorem settle_adds {r : Except String Component} (h : ∀ m', r = .ok m' → Adds t m m') : Adds t m (settle m r).1 := by
  cases r with
  | ok m' => exact h m' rfl
  | error e => exact .nothing

/-- A visit adds one thing at most. -/
theorem visitNode_adds (v : Visit) (m : Component) : Adds v.node m (visitNode v m).1 := by
  rw [visitNode]
  split
  · exact .nothing
  · split
    · exact settle_adds fun m' h => addImport_adds h
    split
    · exact addInterface_adds _ _
    split
    · exact addTypeAlias_adds _ _
    split
    · exact settle_adds fun m' h => addFunction_adds h
    split
    · exact settle_adds fun m' h => addClass_adds h
    split
    · exact settle_adds fun m' h => addVariable_adds h
    split
    · exact settle_adds fun m' h => addDefaultExport_adds h
    · exact .nothing

end

/-! ## Growth -/

/-- What a component has of properties, imports and exports comes first in another one of the same file. -/
structure Component.Grows (m m' : Component) : Prop where
  sourcePath : m'.sourcePath = m.sourcePath
  props : m.props <+: m'.props
  imports : m.imports <+: m'.imports
  exports : m.exports <+: m'.exports
  hasDefaultExport : m.hasDefaultExport = true → m'.hasDefaultExport = true

namespace Component.Grows

variable {m m' m'' : Component}

theorem refl (m : Component) : m.Grows m := ⟨rfl, List.prefix_rfl, List.prefix_rfl, List.prefix_rfl, id⟩

theorem trans (h : m.Grows m') (h' : m'.Grows m'') : m.Grows m'' where
  sourcePath := h'.sourcePath.trans h.sourcePath
  props := h.props.trans h'.props
  imports := h.imports.trans h'.imports
  exports := h.exports.trans h'.exports
  hasDefaultExport := h'.hasDefaultExport ∘ h.hasDefaultExport

theorem addExport (m : Component) (name : String) : m.Grows (m.addExport name) := by
  rw [Component.addExport]
  split
  · exact refl m
  · exact ⟨rfl, List.prefix_rfl, List.prefix_rfl, List.prefix_append _ _, id⟩

theorem addProps (m : Component) (props : List PropSpec) : m.Grows { m with props := m.props ++ props } :=
  ⟨rfl, List.prefix_append _ _, List.prefix_rfl, List.prefix_rfl, id⟩

end Component.Grows

theorem Adds.grows {t : Tree} {m m' : Component} (h : Adds t m m') : m.Grows m' := by
  cases h with
  | nothing => exact .refl m
  | imported imports => exact ⟨rfl, List.prefix_rfl, List.prefix_append _ _, List.prefix_rfl, id⟩
  | contract props => exact .addProps m props
  | component kind =>
    rw [recordComponent]
    split
    · split
      · have hnamed : ∀ name, m.Grows { m with name, kind } := fun _ =>
          ⟨rfl, List.prefix_rfl, List.prefix_rfl, List.prefix_rfl, id⟩
        exact (hnamed _).trans (.addExport _ _)
      · exact .refl m
    · exact .refl m
  | defaultExport name =>
    have hflag : m.Grows { m with hasDefaultExport := true } :=
      ⟨rfl, List.prefix_rfl, List.prefix_rfl, List.prefix_rfl, fun _ => rfl⟩
    exact hflag.trans (.addExport _ _)

theorem visitNode_grows (v : Visit) (m : Component) : m.Grows (visitNode v m).1 := (visitNode_adds v m).grows

/-- A run takes nothing away. -/
theorem runVisits_grows (vs : List Visit) (m : Component) : m.Grows (runVisits visitNode vs m).1 :=
  runVisits_invariant (fun v _ _ h => h.trans (visitNode_grows v _)) m (.refl m)

end Suitewright
