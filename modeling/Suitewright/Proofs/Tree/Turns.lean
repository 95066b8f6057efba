/-
  The turns of a walk.

  * `Tree.at?`, `Tree.placed`: the node at a place, and the nodes of a tree with their places; `mem_placed`, `pairwise_placed`:
    each place of the tree is there once, in ascending order;
  * `Turns`: turns of a walk, each of which takes a node off the stack, visits it and puts its children on the stack;
  * `Turns.preorder`: at any time the nodes visited and those that the stack leads to are all nodes, each before its children;
  * `walkStack_turns`: a walk goes on like this until its stack is empty or a visit fails;
  * `walk_preorder`: it visits every node once, each before its children, up to the first failure.
-/
import Suitewright.Proofs.Tree.Preorder

namespace Suitewright

/-! ## Places -/

namespace Tree

/-- The node at a place: the numbers of the children on the way to it. -/
def at? : Tree → List Nat → Option Tree
  | t, [] => some t
  | t, i :: p => t.children[i]?.bind fun c => c.at? p

mutual

/-- The nodes of a tree with their places, each before its children. -/
def placed : Tree → List (List Nat × Tree)
  | node l cs => ([], node l cs) :: placedFrom 0 cs

/-- The nodes of several children with their places; the first child has the given number. -/
def placedFrom (i : Nat) : List Tree → List (List Nat × Tree)
  | [] => []
  | t :: ts => (placed t).map (fun x => (i :: x.1, x.2)) ++ placedFrom (i + 1) ts

end

section
variable {t u : Tree} {ts : List Tree} {i : Nat} {p : List Nat}

theorem placed_eq (t : Tree) : t.placed = ([], t) :: placedFrom 0 t.children := by
  cases t
  rw [placed, children]

theorem mem_placedFrom : (p, u) ∈ placedFrom i ts ↔ ∃ j q c, p = (i + j) :: q ∧ ts[j]? = some c ∧ (q, u) ∈ c.placed := by
  induction ts generalizing i with
  | nil => simp [placedFrom]
  | cons t ts ih =>
    rw [placedFrom, List.mem_append, ih, List.mem_map]
    constructor
    · rintro (⟨⟨q, u⟩, hq, heq⟩ | ⟨j, q, c, rfl, hc, hq⟩)
      · cases heq
        exact ⟨0, q, t, rfl, rfl, hq⟩
      · exact ⟨j + 1, q, c, by rw [Nat.add_right_comm, Nat.add_assoc], hc, hq⟩
    · rintro ⟨j, q, c, rfl, hc, hq⟩
      cases j with
      | zero =>
        cases hc
        exact Or.inl ⟨(q, u), hq, rfl⟩
      | succ j => exact Or.inr ⟨j, q, c, by rw [Nat.add_right_comm, Nat.add_assoc], hc, hq⟩

/-- Every place of a tree is there, with the node at it. -/
theorem mem_placed : (p, u) ∈ t.placed ↔ t.at? p = some u := by
  induction t using Tree.induction generalizing p with
  | h t ih =>
    rw [placed_eq, List.mem_cons, mem_placedFrom]
    cases p with
    | nil =>
      rw [at?]
      constructor
      · rintro (heq | ⟨j, q, c, heq, -⟩)
        · cases heq
          rfl
        · cases heq
      · rintro ⟨⟩
        exact Or.inl rfl
    | cons k p =>
      rw [at?, Option.bind_eq_some_iff]
      constructor
      · rintro (heq | ⟨j, q, c, heq, hc, hq⟩)
        · cases heq
        · rw [Nat.zero_add] at heq
          cases heq
          exact ⟨c, hc, (ih c (List.mem_of_getElem? hc)).1 hq⟩
      · rintro ⟨c, hc, hu⟩
        exact Or.inr ⟨k, p, c, by rw [Nat.zero_add], hc, (ih c (List.mem_of_getElem? hc)).2 hu⟩

theorem map_placed (t : Tree) : t.placed.map Prod.snd = t.preorder := by
  induction t using Tree.induction with
  | h t ih =>
    have hall : ∀ i ts, (∀ c ∈ ts, c ∈ t.children) → (placedFrom i ts).map Prod.snd = ts.flatMap preorder := by
      intro i ts hts
      induction ts generalizing i with
      | nil => rfl
      | cons c ts ihts =>
        rw [List.forall_mem_cons] at hts
        rw [placedFrom, List.map_append, List.map_map, ihts _ hts.2, List.flatMap_cons, ← ih c hts.1]
        rfl
    rw [placed_eq, List.map_cons, hall _ _ fun c hc => hc, preorder_eq]

/-- The places ascend: a node comes before those below it, and those below a child before the next child. -/
theorem pairwise_placed (t : Tree) : t.placed.Pairwise fun x y => x.1 < y.1 := by
  induction t using Tree.induction with
  | h t ih =>
    have hall : ∀ i ts, (∀ c ∈ ts, c ∈ t.children) → (placedFrom i ts).Pairwise fun x y => x.1 < y.1 := by
      intro i ts hts
      induction ts generalizing i with
      | nil => exact .nil
      | cons c ts ihts =>
        rw [List.forall_mem_cons] at hts
        rw [placedFrom, List.pairwise_append, List.pairwise_map]
        refine ⟨(ih c hts.1).imp fun h => List.cons_lt_cons_iff.2 (Or.inr ⟨rfl, h⟩), ihts _ hts.2, ?_⟩
        rintro x hx ⟨p, u⟩ hp
        obtain ⟨y, -, rfl⟩ := List.mem_map.1 hx
        obtain ⟨j, q, -, rfl, -⟩ := mem_placedFrom.1 hp
        exact List.cons_lt_cons_iff.2 (Or.inl (by omega))
    rw [placed_eq, List.pairwise_cons]
    refine ⟨?_, hall _ _ fun c hc => hc⟩
    rintro ⟨p, u⟩ hp
    obtain ⟨j, q, -, rfl, -⟩ := mem_placedFrom.1 hp
    exact List.nil_lt_cons _ _

theorem length_preorder (t : Tree) : t.preorder.length = t.size := by
  induction t using Tree.induction with
  | h t ih =>
    have hall : ∀ ts, (∀ c ∈ ts, c ∈ t.children) → (ts.flatMap preorder).length = sizeAll ts := by
      intro ts hts
      induction ts with
      | nil => rfl
      | cons c ts ihts =>
        rw [List.forall_mem_cons] at hts
        rw [List.flatMap_cons, List.length_append, ih c hts.1, ihts hts.2, sizeAll]
    rw [preorder_eq, List.length_cons, hall _ fun c hc => hc, size_eq]

end

end Tree

/-! ## Turns -/

section
variable {σ ε : Type} {step : Visit → σ → σ × Option ε}

/-- Turns of a walk from one stack and state to another, with the visits made: a turn takes the top off the stack, visits it
without a failure and puts the visits of the children on the stack, the first one on top. -/
inductive Turns (step : Visit → σ → σ × Option ε) : List Visit × σ → List Visit → List Visit × σ → Prop
  | rest (c : List Visit × σ) : Turns step c [] c
  | turn {v : Visit} {stack : List Visit} {s s' : σ} {made : List Visit} {c : List Visit × σ} : step v s = (s', none) →
      Turns step (v.below ++ stack, s') made c → Turns step (v :: stack, s) (v :: made) c

/-- The nodes that a stack leads to: from its top to its bottom, each with those below it. -/
def leadsTo (stack : List Visit) : List Tree := stack.flatMap fun v => v.node.preorder

/-- A visit takes its node from the front of those that the stack leads to. -/
theorem leadsTo_cons (v : Visit) (stack : List Visit) : leadsTo (v :: stack) = v.node :: leadsTo (v.below ++ stack) := by
  have hbelow : leadsTo v.below = v.node.children.flatMap Tree.preorder := by
    rw [leadsTo, Visit.below, List.flatMap_map]
  rw [leadsTo, List.flatMap_cons, Tree.preorder_eq, ← hbelow, leadsTo, leadsTo, List.flatMap_append, List.cons_append]

/-- What was visited and what is left to visit are together what the first stack led to, at any time. -/
theorem Turns.leadsTo_eq {c c' : List Visit × σ} {made : List Visit} (h : Turns step c made c') :
    leadsTo c.1 = made.map Visit.node ++ leadsTo c'.1 := by
  induction h with
  | rest => rfl
  | turn _ _ ih => rw [leadsTo_cons, ih, List.map_cons, List.cons_append]

/-- A walk turns until the stack is empty or a visit fails. -/
theorem walkStack_turns (step : Visit → σ → σ × Option ε) (stack : List Visit) (s : σ) : ∃ made stack' s', Turns step (stack, s) made (stack', s') ∧
    ((stack' = [] ∧ walkStack step stack s = (s', none)) ∨
      ∃ v rest s'' e, stack' = v :: rest ∧ step v s' = (s'', some e) ∧ walkStack step stack s = (s'', some e)) := by
  fun_induction walkStack step stack s with
  | case1 s => exact ⟨[], [], s, .rest _, Or.inl ⟨rfl, rfl⟩⟩
  | case2 v stack s s' e hfail => exact ⟨[], v :: stack, s, .rest _, Or.inr ⟨v, stack, s', e, rfl, hfail, rfl⟩⟩
  | case3 v stack s s' hok ih =>
    obtain ⟨made, stack', s'', hturns, hend⟩ := ih
    exact ⟨v :: made, stack', s'', .turn hok hturns, hend⟩

/-- A walk turns until it has visited every node of the tree, or up to the first visit that fails. The nodes are visited in
ascending order of their places, each place once: so each comes before its children, and what is below a child before the next
child. At any time, the nodes visited and those that the stack leads to are all nodes in this order, so that there are no more
turns than nodes. -/
theorem walk_preorder (step : Visit → σ → σ × Option ε) (t : Tree) (s : σ) :
    (t.placed.map Prod.snd = t.preorder ∧ (t.placed.Pairwise fun x y => x.1 < y.1) ∧
      ∀ p u, (p, u) ∈ t.placed ↔ t.at? p = some u) ∧
    (∀ made stack s', Turns step ([⟨t, []⟩], s) made (stack, s') →
      t.preorder = made.map Visit.node ++ leadsTo stack ∧ made.length ≤ t.size) ∧
    ∃ made, (∃ s', walk step t s = (s', none) ∧ Turns step ([⟨t, []⟩], s) made ([], s') ∧
        made.map Visit.node = t.preorder) ∨
      ∃ v rest s' s'' e, walk step t s = (s'', some e) ∧ Turns step ([⟨t, []⟩], s) made (v :: rest, s') ∧
        step v s' = (s'', some e) ∧ ∃ after, t.preorder = made.map Visit.node ++ v.node :: after := by
  have hstart : leadsTo [⟨t, []⟩] = t.preorder := by rw [leadsTo, List.flatMap_singleton]
  have hinvariant : ∀ {made stack s'}, Turns step ([⟨t, []⟩], s) made (stack, s') →
      t.preorder = made.map Visit.node ++ leadsTo stack := fun h => hstart.symm.trans h.leadsTo_eq
  refine ⟨⟨t.map_placed, t.pairwise_placed, fun p u => Tree.mem_placed⟩, fun made stack s' h => ⟨hinvariant h, ?_⟩, ?_⟩
  · have hlength := congrArg List.length (hinvariant h)
    rw [Tree.length_preorder, List.length_append, List.length_map] at hlength
    omega
  · obtain ⟨made, stack, s', hturns, ⟨rfl, hwalk⟩ | ⟨v, rest, s'', e, rfl, hfail, hwalk⟩⟩ :=
      walkStack_turns step [⟨t, []⟩] s
    · refine ⟨made, Or.inl ⟨s', hwalk, hturns, ?_⟩⟩
      rw [hinvariant hturns, leadsTo, List.flatMap_nil, List.append_nil]
    · refine ⟨made, Or.inr ⟨v, rest, s', s'', e, hwalk, hturns, hfail, leadsTo (v.below ++ rest), ?_⟩⟩
      rw [hinvariant hturns, leadsTo_cons]

end

/-- A node of a kind with children. -/
def nodeOf (kind : String) (children : List Tree) : Tree := .node ⟨.ok kind, "", none, true⟩ children

/-- A tree of four nodes. -/
def twigTree : Tree := nodeOf "root" [nodeOf "left" [nodeOf "tip" []], nodeOf "right" []]

/-- A visit that fails when nothing is left. -/
def spend (_ : Visit) : Nat → Nat × Option String
  | 0 => (0, some "spent")
  | n + 1 => (n, none)

theorem walk_preorder_twig : ∃ made stack, Turns spend ([⟨twigTree, []⟩], 2) made (stack, 0) ∧
    made.map Visit.node = [twigTree, nodeOf "left" [nodeOf "tip" []]] ∧
    twigTree.preorder = made.map Visit.node ++ [nodeOf "tip" [], nodeOf "right" []] ∧ made.length ≤ twigTree.size := by
  have hturns : Turns spend ([⟨twigTree, []⟩], 2) _ (_, 0) := .turn rfl (.turn rfl (.rest _))
  obtain ⟨-, hinvariant, -⟩ := walk_preorder spend twigTree 2
  obtain ⟨hpreorder, hlength⟩ := hinvariant _ _ _ hturns
  exact ⟨_, _, hturns, rfl, hpreorder, hlength⟩

end Suitewright
