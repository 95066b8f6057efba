/-
  Walking over a syntax tree.

  * `Visit`: a node with the kinds of its ancestors;
  * `walk`: visits every node once, each before its children, and stops at the first visit that fails. It keeps
    a stack of what is left to visit.
-/
import Suitewright.Tree.Node

namespace Suitewright

/-- A node on a walk. -/
structure Visit where
  /-- The node. -/
  node : Tree
  /-- The kinds of its ancestors, nearest first. -/
  above : List Kind := []
  deriving Inhabited

namespace Visit

/-- The visits of the children. -/
def below (v : Visit) : List Visit := v.node.children.map fun c => ⟨c, v.node.kind :: v.above⟩

/-- The number of nodes that a stack of visits leads to. -/
def total (stack : List Visit) : Nat := Tree.sizeAll (stack.map node)

theorem map_node_below (v : Visit) : v.below.map node = v.node.children := by
  simp [below, Function.comp_def]

theorem total_below_append (v : Visit) (stack : List Visit) :
    total (v.below ++ stack) + 1 = total (v :: stack) := by
  simp only [total, List.map_append, map_node_below, List.map_cons, Tree.sizeAll_append, Tree.sizeAll,
    Tree.size_eq v.node]
  omega

end Visit

variable {σ ε : Type}

/-- Visits the nodes that a stack leads to. Gives the state after the last visit, and the failure if there was
one. -/
def walkStack (step : Visit → σ → σ × Option ε) : List Visit → σ → σ × Option ε
  | [], s => (s, none)
  | v :: stack, s =>
    match step v s with
    | (s, some e) => (s, some e)
    | (s, none) => walkStack step (v.below ++ stack) s
termination_by stack => Visit.total stack
decreasing_by have := Visit.total_below_append v stack; omega

/-- Visits every node of a tree, each before its children, up to the first failure. -/
def walk (step : Visit → σ → σ × Option ε) (t : Tree) (s : σ) : σ × Option ε :=
  walkStack step [⟨t, []⟩] s

end Suitewright
