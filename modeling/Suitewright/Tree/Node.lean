/-
  Syntax trees.

  * `Kind`: the kind of a node, which may be unreadable;
  * `Tree`: a node with its kind, text, field, standing and children;
  * `Tree.size`: the number of nodes;
  * `Tree.field?`, `namedChildren`: the child of a field, and the children that are not mere tokens;
  * `Tree.preorder`: all nodes, each before its children.
-/
namespace Suitewright

/-- The kind of a node, or the message with which reading it fails. -/
abbrev Kind := Except String String

/-- What a node holds beside its children. -/
structure Label where
  /-- The kind of the node. -/
  kind : Kind
  /-- The source text of the node. -/
  text : String := ""
  /-- The field of the parent that the node fills. -/
  field : Option String := none
  /-- Whether it is more than a token. -/
  named : Bool := true
  deriving Inhabited

/-- A syntax tree. -/
inductive Tree where
  /-- A node with its children in source order. -/
  | node (label : Label) (children : List Tree)
  deriving Inhabited

namespace Tree

/-- What the root holds. -/
def label : Tree → Label
  | node l _ => l

/-- The children of the root. -/
def children : Tree → List Tree
  | node _ cs => cs

/-- The kind of the root. -/
def kind (t : Tree) : Kind := t.label.kind

/-- The source text of the root. -/
def text (t : Tree) : String := t.label.text

/-- Whether the root is more than a token. -/
def named (t : Tree) : Bool := t.label.named

/-- The first child that fills a field. -/
def field? (t : Tree) (name : String) : Option Tree := t.children.find? (·.label.field == some name)

/-- The children that are more than tokens. -/
def namedChildren (t : Tree) : List Tree := t.children.filter named

mutual

/-- The number of nodes. -/
def size : Tree → Nat
  | node _ cs => sizeAll cs + 1

/-- The number of nodes of several trees. -/
def sizeAll : List Tree → Nat
  | [] => 0
  | t :: ts => size t + sizeAll ts

end

mutual

/-- The nodes of a tree, each before its children. -/
def preorder : Tree → List Tree
  | node l cs => node l cs :: preorderAll cs

/-- The nodes of several trees. -/
def preorderAll : List Tree → List Tree
  | [] => []
  | t :: ts => preorder t ++ preorderAll ts

end

theorem size_eq (t : Tree) : t.size = sizeAll t.children + 1 := by
  cases t; rw [size, children]

theorem sizeAll_append (xs ys : List Tree) : sizeAll (xs ++ ys) = sizeAll xs + sizeAll ys := by
  induction xs with
  | nil => simp [sizeAll]
  | cons x xs ih => simp [sizeAll, ih, Nat.add_assoc]

theorem size_le_sizeAll {t : Tree} {ts : List Tree} (h : t ∈ ts) : t.size ≤ sizeAll ts := by
  induction ts with
  | nil => cases h
  | cons u us ih =>
    rw [sizeAll]
    rcases List.mem_cons.1 h with rfl | h
    · omega
    · have := ih h; omega

theorem size_lt_of_mem_children {c t : Tree} (h : c ∈ t.children) : c.size < t.size := by
  rw [size_eq t]; have := size_le_sizeAll h; omega

theorem size_lt_of_field? {c t : Tree} {name : String} (h : t.field? name = some c) : c.size < t.size :=
  size_lt_of_mem_children (List.mem_of_find?_eq_some h)

theorem size_lt_of_namedChildren {c t : Tree} {cs : List Tree} (h : t.namedChildren = c :: cs) :
    c.size < t.size :=
  size_lt_of_mem_children (List.mem_filter.1 (h ▸ List.mem_cons_self : c ∈ t.namedChildren)).1

end Tree

end Suitewright
