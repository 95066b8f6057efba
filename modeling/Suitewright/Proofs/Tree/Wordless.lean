/-
  Sources without a text.

  * `Tree.Wordless`: trees whose nodes hold no text;
  * `Undeclared`: components of which nothing was declared; `Adds.undeclared`: no node without a text declares anything;
  * `analyze_empty`: so the component of an empty source has neither a name nor properties.
-/
import Suitewright.Proofs.Tree.Step
import Suitewright.Script.Parse

namespace Suitewright

/-! ## Trees without a text -/

/-- No node of a tree holds any text. -/
inductive Tree.Wordless : Tree → Prop
  /-- A node without a text, over such nodes. -/
  | node {l : Label} {children : List Tree} : l.text = "" → (∀ c ∈ children, Wordless c) → Wordless (.node l children)

namespace Tree.Wordless

variable {t c : Tree}

theorem text (h : t.Wordless) : t.text = "" := by
  cases h with
  | node htext _ => exact htext

theorem children (h : t.Wordless) : ∀ c ∈ t.children, c.Wordless := by
  cases h with
  | node _ hchildren => exact hchildren

theorem field? {name : String} (h : t.Wordless) (hc : t.field? name = some c) : c.Wordless :=
  h.children c (List.mem_of_find?_eq_some hc)

end Tree.Wordless

namespace Script

theorem slice_empty (start stop : Nat) : (Source.ofText "").slice start stop = "" := by
  have hchars : (Source.ofText "").chars = #[] := rfl
  rw [Source.slice, hchars, Array.extract_empty]

mutual

theorem toTree_wordless (b : Branch) : (b.toTree (Source.ofText "")).Wordless := by
  cases b with
  | node kind field named start stop children =>
    rw [Branch.toTree]
    exact .node (slice_empty _ _) (toTrees_wordless children)

theorem toTrees_wordless (bs : List Branch) : ∀ t ∈ Branch.toTrees (Source.ofText "") bs, t.Wordless := by
  cases bs with
  | nil => exact fun _ h => nomatch h
  | cons b bs =>
    rw [Branch.toTrees, List.forall_mem_cons]
    exact ⟨toTree_wordless b, toTrees_wordless bs⟩

end

end Script

/-! ## Components of which nothing is declared -/

/-- A component of a file that declares none. -/
structure Undeclared (path : String) (m : Component) : Prop where
  name : m.name = ""
  props : m.props = []
  sourcePath : m.sourcePath = path

variable {path : String} {m : Component} {t : Tree}

/-- Nothing is recorded under an empty name. -/
theorem recordComponent_empty {kind : ComponentKind} {name : String} (h : name = "") (m : Component) :
    recordComponent name kind m = m := by
  rw [h]
  rfl

/-- No node without a text declares anything. -/
theorem Adds.undeclared {m' : Component} (h : Adds t m m') (ht : t.Wordless) (hm : Undeclared path m) :
    Undeclared path m' := by
  cases h with
  | nothing => exact hm
  | imported imports => exact ⟨hm.name, hm.props, hm.sourcePath⟩
  | contract props hname hcontract =>
    rw [(ht.field? hname).text] at hcontract
    exact absurd hcontract (by decide)
  | component kind hname =>
    rw [recordComponent_empty (ht.field? hname).text]
    exact hm
  | defaultExport name =>
    rw [Component.addExport]
    split <;> exact ⟨hm.name, hm.props, hm.sourcePath⟩

/-- The component of an empty source has neither a name nor properties. -/
theorem analyze_empty (grammar : Grammar) (path : String) :
    Undeclared path (analyzeTree (.ok (Script.parse grammar "")) path).1 := by
  have htree : (Script.parse grammar "").Wordless := Script.toTree_wordless _
  have hall : ∀ v ∈ Visit.all ⟨Script.parse grammar "", []⟩, v.node.Wordless :=
    Visit.forall_mem_all (fun v hv u hu => by
      obtain ⟨c, hc, rfl⟩ := List.mem_map.1 hu
      exact hv.children c hc) htree
  rw [analyzeTree, walk_eq]
  exact runVisits_invariant (fun v hv m hm => (visitNode_adds v m).undeclared (hall v hv) hm) _ ⟨rfl, rfl, rfl⟩

end Suitewright
