/-
  The order of a walk.

  * `Visit.all`: the visits of the nodes of a tree, each before those of its children; `Visit.all_eq`, `map_node_all`:
    they are those of `Tree.preorder`, with the kinds of the ancestors;
  * `runVisits`: visiting one after the other, up to the first failure;
  * `walkStack_eq`, `walk_eq`: a walk with a stack makes these visits in this order;
  * `runVisits_invariant`: what every visit keeps holds at the end of a run.
-/
import Suitewright.Tree.Walk
import Mathlib.Data.List.Forall2

namespace Suitewright

/-! ## The visits of a tree -/

namespace Tree

mutual

/-- The visits of the nodes of a tree that stands under nodes of the given kinds, each before those of its children. -/
def visits (above : List Kind) : Tree → List Visit
  | node l cs => ⟨node l cs, above⟩ :: visitsAll (l.kind :: above) cs

/-- The visits of the nodes of several trees. -/
def visitsAll (above : List Kind) : List Tree → List Visit
  | [] => []
  | t :: ts => visits above t ++ visitsAll above ts

end

theorem visitsAll_eq (above : List Kind) (ts : List Tree) : visitsAll above ts = ts.flatMap (visits above) := by
  induction ts with
  | nil => rfl
  | cons t ts ih => rw [visitsAll, ih, List.flatMap_cons]

theorem preorderAll_eq (ts : List Tree) : preorderAll ts = ts.flatMap preorder := by
  induction ts with
  | nil => rfl
  | cons t ts ih => rw [preorderAll, ih, List.flatMap_cons]

theorem preorder_eq (t : Tree) : t.preorder = t :: t.children.flatMap preorder := by
  cases t with
  | node l cs => rw [preorder, preorderAll_eq, children]

/-- What holds of a tree when it holds of its children holds of all trees. -/
theorem induction {P : Tree → Prop} (h : ∀ t : Tree, (∀ c ∈ t.children, P c) → P t) (t : Tree) : P t :=
  h t fun c _ => induction h c
termination_by t.size
decreasing_by exact size_lt_of_mem_children ‹_›

theorem mem_preorder_self (t : Tree) : t ∈ t.preorder := by
  rw [preorder_eq]
  exact List.mem_cons_self

theorem mem_preorder_of_child {t c u : Tree} (hc : c ∈ t.children) (hu : u ∈ c.preorder) : u ∈ t.preorder := by
  rw [preorder_eq]
  exact List.mem_cons_of_mem _ (List.mem_flatMap.2 ⟨c, hc, hu⟩)

end Tree

namespace Visit

/-- The visits of a node and of all nodes below it. -/
def all (v : Visit) : List Visit := v.node.visits v.above

theorem all_eq (v : Visit) : v.all = v :: v.below.flatMap all := by
  obtain ⟨⟨l, cs⟩, above⟩ := v
  show Tree.visits above (.node l cs) = _
  rw [Tree.visits, Tree.visitsAll_eq, below, List.flatMap_map]
  rfl

/-- The nodes visited are those of the tree, each before its children. -/
theorem map_node_all (v : Visit) : v.all.map node = v.node.preorder := by
  obtain ⟨t, above⟩ := v
  induction t using Tree.induction generalizing above with
  | h t ih =>
    rw [all_eq, Tree.preorder_eq, List.map_cons, List.map_flatMap, below, List.flatMap_map]
    refine congrArg _ (List.flatMap_congr fun c hc => ih c hc _)

/-- What goes over from a visit to those of the children holds of all visits below. -/
theorem forall_mem_all {P : Visit → Prop} (hbelow : ∀ v, P v → ∀ u ∈ v.below, P u) {v : Visit} (hv : P v) :
    ∀ u ∈ v.all, P u := by
  obtain ⟨t, above⟩ := v
  induction t using Tree.induction generalizing above with
  | h t ih =>
    rw [all_eq, List.forall_mem_cons]
    refine ⟨hv, fun u hu => ?_⟩
    obtain ⟨w, hw, hu⟩ := List.mem_flatMap.1 hu
    obtain ⟨c, hc, rfl⟩ := List.mem_map.1 hw
    exact ih c hc _ (hbelow _ hv _ hw) u hu

end Visit

/-! ## Runs -/

section
variable {σ ε : Type} {step : Visit → σ → σ × Option ε}

/-- Makes visits one after the other, up to the first failure. -/
def runVisits (step : Visit → σ → σ × Option ε) : List Visit → σ → σ × Option ε
  | [], s => (s, none)
  | v :: vs, s =>
    match step v s with
    | (s, some e) => (s, some e)
    | (s, none) => runVisits step vs s

/-- The visits that a stack leads to are made from its top to its bottom, each with those below it. -/
theorem walkStack_eq (stack : List Visit) (s : σ) : walkStack step stack s = runVisits step (stack.flatMap Visit.all) s := by
  fun_induction walkStack step stack s with
  | case1 => rfl
  | case2 v stack s s' e hfail => rw [List.flatMap_cons, Visit.all_eq, List.cons_append, runVisits, hfail]
  | case3 v stack s s' hok ih =>
    rw [ih, List.flatMap_cons, Visit.all_eq, List.cons_append, runVisits, hok, List.flatMap_append]

/-- A walk visits every node of a tree, each before its children, up to the first failure. -/
theorem walk_eq (t : Tree) (s : σ) : walk step t s = runVisits step (Visit.all ⟨t, []⟩) s := by
  rw [walk, walkStack_eq, List.flatMap_singleton]

/-- What every visit keeps holds at the end of a run. -/
theorem runVisits_invariant {P : σ → Prop} {vs : List Visit} (hstep : ∀ v ∈ vs, ∀ s, P s → P (step v s).1) (s : σ)
    (hs : P s) : P (runVisits step vs s).1 := by
  induction vs generalizing s with
  | nil => exact hs
  | cons v vs ih =>
    have hkept := hstep v (by simp) s hs
    rw [runVisits]
    split
    · next s' e hfail => rwa [hfail] at hkept
    · next s' hok =>
      rw [hok] at hkept
      exact ih (fun u hu => hstep u (by simp [hu])) s' hkept

/-- A run without failures goes over the visits as a fold. -/
theorem runVisits_of_ok {f : Visit → σ → σ} {vs : List Visit} (h : ∀ v ∈ vs, ∀ s, step v s = (f v s, none)) (s : σ) :
    runVisits step vs s = (vs.foldl (fun s v => f v s) s, none) := by
  induction vs generalizing s with
  | nil => rfl
  | cons v vs ih =>
    rw [runVisits, h v (by simp), List.foldl_cons]
    exact ih (fun u hu => h u (by simp [hu])) _

/-- Where a run ends without a failure, no visit failed. -/
theorem runVisits_none {vs : List Visit} {s : σ} (h : (runVisits step vs s).2 = none) :
    ∀ v ∈ vs, ∃ s, (step v s).2 = none := by
  induction vs generalizing s with
  | nil => exact fun v hv => nomatch hv
  | cons v vs ih =>
    rw [runVisits] at h
    split at h
    · cases h
    · next s' hok => exact List.forall_mem_cons.2 ⟨⟨s, by rw [hok]⟩, ih h⟩

end

end Suitewright
