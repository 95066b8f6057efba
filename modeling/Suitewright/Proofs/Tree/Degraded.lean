/-
  Trees of which some nodes cannot be read.

  * `Tree.Degrades`: a tree, and the same tree with failures in the place of the kinds of some nodes;
  * `Follows`: of two readings, the second one fails with one of some messages or gives what the first one gives;
  * `Falls`: the same of what is built up step by step, where a failure leaves the part that was finished;
  * `analyze_degraded`: of a degraded tree, the beginning of what would be found in the whole tree is found.
-/
import Suitewright.Proofs.Loop.Working
import Suitewright.Proofs.Tree.Step
import Suitewright.Proofs.Tree.Summary

namespace Suitewright

variable {E : String → Prop} {α β γ δ : Type}

/-! ## Degraded trees -/

/-- A kind, or a failure with one of some messages in its place. -/
def Kind.Degrades (E : String → Prop) (k k' : Kind) : Prop := k' = k ∨ ∃ e, E e ∧ k' = .error e

/-- A tree, and the same tree with failures in the place of the kinds of some nodes. -/
inductive Tree.Degrades (E : String → Prop) : Tree → Tree → Prop
  /-- The kind of the root may be lost, and the children may be degraded. -/
  | node {l : Label} {k : Kind} {cs cs' : List Tree} : l.kind.Degrades E k → List.Forall₂ (Tree.Degrades E) cs cs' →
    Tree.Degrades E (.node l cs) (.node { l with kind := k } cs')

namespace Tree.Degrades

variable {t t' : Tree}

theorem kind (h : t.Degrades E t') : t.kind.Degrades E t'.kind := by
  cases h with
  | node hk _ => exact hk

theorem text (h : t.Degrades E t') : t'.text = t.text := by
  cases h with
  | node _ _ => rfl

theorem children (h : t.Degrades E t') : List.Forall₂ (Tree.Degrades E) t.children t'.children := by
  cases h with
  | node _ hcs => exact hcs

theorem refl (t : Tree) : t.Degrades E t := by
  induction t using Tree.induction with
  | h t ih =>
    obtain ⟨l, cs⟩ := t
    exact .node (Or.inl rfl) (List.forall₂_same.2 ih)

theorem namedChildren (h : t.Degrades E t') : List.Forall₂ (Tree.Degrades E) t.namedChildren t'.namedChildren := by
  refine List.rel_filter (fun c c' hc => ?_) h.children
  cases hc with
  | node _ _ => exact Iff.rfl

end Tree.Degrades

theorem find?_rel {R : α → β → Prop} {p : α → Bool} {q : β → Bool} {as : List α} {bs : List β}
    (h : List.Forall₂ R as bs) (hpq : ∀ a b, R a b → p a = q b) : Option.Rel R (as.find? p) (bs.find? q) := by
  induction h with
  | nil => exact .none
  | cons hab _ ih =>
    rw [List.find?_cons, List.find?_cons, hpq _ _ hab]
    split
    · exact .some hab
    · exact ih

theorem Tree.Degrades.field? {t t' : Tree} (h : t.Degrades E t') (name : String) :
    Option.Rel (Tree.Degrades E) (t.field? name) (t'.field? name) := by
  refine find?_rel h.children fun c c' hc => ?_
  cases hc with
  | node _ _ => rfl

/-! ## Readings -/

/-- The second reading fails with one of some messages, or as the first one, or gives a value related to that of the
first one. -/
def Follows (E : String → Prop) (R : α → β → Prop) (x : Except String α) (y : Except String β) : Prop :=
  match y with
  | .ok b => ∃ a, x = .ok a ∧ R a b
  | .error e => E e ∨ x = .error e

namespace Follows

variable {R : α → β → Prop} {S : γ → δ → Prop}

theorem ok {a : α} {b : β} (h : R a b) : Follows E R (.ok a) (.ok b) := ⟨a, rfl, h⟩

theorem refl (x : Except String α) : Follows E Eq x x := by
  cases x with
  | ok a => exact ⟨a, rfl, rfl⟩
  | error e => exact Or.inr rfl

theorem bind {x : Except String α} {y : Except String β} {f : α → Except String γ} {g : β → Except String δ}
    (h : Follows E R x y) (hfg : ∀ a b, R a b → Follows E S (f a) (g b)) : Follows E S (x >>= f) (y >>= g) := by
  cases y with
  | ok b =>
    obtain ⟨a, rfl, hab⟩ := h
    exact hfg a b hab
  | error e =>
    rcases h with h | rfl
    · exact Or.inl h
    · exact Or.inr rfl

/-- A reading goes on with what was read, whichever of two it was. -/
theorem bind_eq {x y : Except String α} {f : α → Except String γ} {g : α → Except String δ} (h : Follows E Eq x y)
    (hfg : ∀ a, Follows E S (f a) (g a)) : Follows E S (x >>= f) (y >>= g) :=
  h.bind fun a _ hab => hab ▸ hfg a

theorem ite {c : Prop} [Decidable c] {x x' : Except String α} {y y' : Except String β} (h : Follows E R x y)
    (h' : Follows E R x' y') : Follows E R (if c then x else x') (if c then y else y') := by
  split
  · exact h
  · exact h'

end Follows

theorem Kind.Degrades.follows {k k' : Kind} (h : k.Degrades E k') : Follows E Eq k k' := by
  rcases h with rfl | ⟨e, he, rfl⟩
  · exact .refl _
  · exact Or.inl he

/-! ## Optional values -/

/-- Two related optional values are both missing, or both there and related. -/
theorem Rel.cases {R : α → β → Prop} {o : Option α} {o' : Option β} (h : Option.Rel R o o') :
    (o = none ∧ o' = none) ∨ ∃ a b, o = some a ∧ o' = some b ∧ R a b := by
  cases h with
  | some hab => exact Or.inr ⟨_, _, rfl, rfl, hab⟩
  | none => exact Or.inl ⟨rfl, rfl⟩

theorem Rel.or {R : α → β → Prop} {o₁ o₂ : Option α} {o₁' o₂' : Option β} (h₁ : Option.Rel R o₁ o₁')
    (h₂ : Option.Rel R o₂ o₂') : Option.Rel R (o₁.or o₂) (o₁'.or o₂') := by
  cases h₁ with
  | some hab => exact .some hab
  | none => exact h₂

/-! ## Readings of degraded trees -/

section
variable {t t' : Tree} {ts ts' : List Tree}

theorem firstOfKind?_follows (hs : List.Forall₂ (Tree.Degrades E) ts ts') (kind : String) :
    Follows E (Option.Rel (Tree.Degrades E)) (firstOfKind? kind ts) (firstOfKind? kind ts') := by
  induction hs with
  | nil => exact .ok .none
  | cons h _ ih =>
    rw [firstOfKind?, firstOfKind?]
    exact h.kind.follows.bind_eq fun k => .ite (.ok (.some h)) ih

theorem anyOfKind_follows (hs : List.Forall₂ (Tree.Degrades E) ts ts') (kind : String) :
    Follows E Eq (anyOfKind kind ts) (anyOfKind kind ts') := by
  refine (firstOfKind?_follows hs kind).bind (f := fun o => .ok o.isSome) (g := fun o => .ok o.isSome) fun o o' ho => ?_
  cases ho <;> exact .refl _

theorem specifierNames_follows (hs : List.Forall₂ (Tree.Degrades E) ts ts') :
    Follows E Eq (specifierNames ts) (specifierNames ts') := by
  induction hs with
  | nil => exact .refl _
  | cons h _ ih =>
    rw [specifierNames, specifierNames]
    refine h.kind.follows.bind_eq fun k => ih.bind_eq fun names => ?_
    rcases Rel.cases (Rel.or (h.field? "alias") (h.field? "name")) with ⟨ho, ho'⟩ | ⟨name, name', ho, ho', hname⟩
    · rw [ho, ho']
      exact .refl _
    · rw [ho, ho']
      dsimp only
      rw [hname.text]
      exact .refl _

theorem clauseNames_follows (h : t.Degrades E t') : Follows E Eq (clauseNames t) (clauseNames t') := by
  rw [clauseNames, clauseNames, h.text]
  refine h.kind.follows.bind_eq fun k => .ite (.refl _) (.ite (specifierNames_follows h.namedChildren) (.ite ?_ (.refl _)))
  refine (firstOfKind?_follows h.namedChildren "identifier").bind fun o o' ho => ?_
  cases ho with
  | some hname => rw [Option.map_some, Option.map_some, hname.text]; exact .refl _
  | none => exact .refl _

theorem mapM_clauseNames_follows (hs : List.Forall₂ (Tree.Degrades E) ts ts') :
    Follows E Eq (ts.mapM clauseNames) (ts'.mapM clauseNames) := by
  induction hs with
  | nil => exact .refl _
  | cons h _ ih =>
    rw [List.mapM_cons, List.mapM_cons]
    exact (clauseNames_follows h).bind_eq fun names => ih.bind_eq fun rest => .refl _

theorem importOf_follows (h : t.Degrades E t') : Follows E Eq (importOf t) (importOf t') := by
  rw [importOf, importOf]
  rcases Rel.cases (h.field? "source") with ⟨ho, ho'⟩ | ⟨source, source', ho, ho', hsource⟩
  · rw [ho, ho']
    exact .refl _
  · rw [ho, ho']
    dsimp only
    rw [hsource.text]
    refine (firstOfKind?_follows h.namedChildren "import_clause").bind fun clause clause' hclause => ?_
    cases hclause with
    | none => exact .refl _
    | some hclause =>
      exact (mapM_clauseNames_follows hclause.namedChildren).bind_eq fun names =>
        (anyOfKind_follows hclause.namedChildren "identifier").bind_eq fun isDefault => .refl _

theorem descriptionBefore_follows {before before' : Option Tree} (h : Option.Rel (Tree.Degrades E) before before') :
    Follows E Eq (descriptionBefore before) (descriptionBefore before') := by
  cases h with
  | none => exact .refl _
  | some h =>
    rw [descriptionBefore, descriptionBefore, h.text]
    exact h.kind.follows.bind_eq fun k => .refl _

theorem head?_rel {R : α → β → Prop} {as : List α} {bs : List β} (h : List.Forall₂ R as bs) :
    Option.Rel R as.head? bs.head? := by
  cases h with
  | nil => exact .none
  | cons hab _ => exact .some hab

theorem typeAfter_degrades {o o' : Option Tree} (h : Option.Rel (Tree.Degrades E) o o') : typeAfter o = typeAfter o' := by
  cases h with
  | none => rfl
  | some h =>
    rw [typeAfter, typeAfter, Option.bind_some, Option.bind_some]
    rcases Rel.cases (head?_rel h.namedChildren) with ⟨ho, ho'⟩ | ⟨type, type', ho, ho', htype⟩
    · rw [ho, ho']
    · rw [ho, ho']
      dsimp only
      rw [htype.text]

theorem memberProp_follows {before before' : Option Tree} (hbefore : Option.Rel (Tree.Degrades E) before before')
    (h : t.Degrades E t') : Follows E Eq (memberProp before t) (memberProp before' t') := by
  rw [memberProp, memberProp]
  refine h.kind.follows.bind_eq fun k => .ite ?_ (.refl _)
  rcases Rel.cases (h.field? "name") with ⟨ho, ho'⟩ | ⟨name, name', ho, ho', hname⟩
  · rw [ho, ho']
    exact .refl _
  · rw [ho, ho']
    dsimp only
    rw [hname.text, typeAfter_degrades (h.field? "type")]
    exact (anyOfKind_follows h.children "?").bind_eq fun isOptional =>
      (descriptionBefore_follows hbefore).bind_eq fun description => .refl _

theorem isTopLevel_follows {above above' : List Kind} (h : List.Forall₂ (Kind.Degrades E) above above') :
    Follows E Eq (isTopLevel above) (isTopLevel above') := by
  cases h with
  | nil => exact .refl _
  | cons hparent hrest =>
    unfold isTopLevel
    refine hparent.follows.bind_eq fun parent => .ite (.refl _) (.ite ?_ (.refl _))
    cases hrest with
    | nil => exact .refl _
    | cons hgrandparent _ => exact hgrandparent.follows.bind_eq fun grandparent => .refl _

theorem wrappedValue?_degrades (h : t.Degrades E t') :
    Option.Rel (Tree.Degrades E) t.wrappedValue? t'.wrappedValue? := by
  have harguments : Option.Rel (Tree.Degrades E) ((t.field? "arguments").bind fun arguments => arguments.namedChildren.head?)
      ((t'.field? "arguments").bind fun arguments => arguments.namedChildren.head?) := by
    rcases Rel.cases (h.field? "arguments") with ⟨ho, ho'⟩ | ⟨arguments, arguments', ho, ho', hargs⟩
    · rw [ho, ho']
      exact .none
    · rw [ho, ho']
      exact head?_rel hargs.namedChildren
  rw [Tree.wrappedValue?, Tree.wrappedValue?]
  rcases Rel.cases (h.field? "function") with ⟨ho, ho'⟩ | ⟨callee, callee', ho, ho', hcallee⟩
  · rw [ho, ho']
    exact .none
  · rw [ho, ho', Option.any_some, Option.any_some, hcallee.text]
    split
    · exact harguments
    · exact .none

theorem isComponentValue_follows {t t' : Tree} (h : t.Degrades E t') :
    Follows E Eq (isComponentValue t) (isComponentValue t') := by
  rw [isComponentValue_eq, isComponentValue_eq]
  refine h.kind.follows.bind_eq fun k => .ite (.refl _) (.ite (.refl _) ?_)
  rcases Rel.cases (wrappedValue?_degrades h) with ⟨ho, ho'⟩ | ⟨first, first', ho, ho', hfirst⟩
  · rw [ho, ho']
    exact .refl _
  · rw [ho, ho']
    exact isComponentValue_follows hfirst
termination_by t.size
decreasing_by exact Tree.size_wrappedValue? ho

theorem defaultExportName?_follows (h : t.Degrades E t') :
    Follows E Eq (defaultExportName? t) (defaultExportName? t') := by
  have hdeclared : (((t.field? "declaration").bind (·.field? "name")).map Tree.text) =
      (((t'.field? "declaration").bind (·.field? "name")).map Tree.text) := by
    rcases Rel.cases (h.field? "declaration") with ⟨ho, ho'⟩ | ⟨declaration, declaration', ho, ho', hdeclaration⟩
    · rw [ho, ho']
    · rw [ho, ho', Option.bind_some, Option.bind_some]
      rcases Rel.cases (hdeclaration.field? "name") with ⟨ho, ho'⟩ | ⟨name, name', ho, ho', hname⟩
      · rw [ho, ho']
      · rw [ho, ho', Option.map_some, Option.map_some, hname.text]
  rw [defaultExportName?, defaultExportName?, hdeclared]
  refine (anyOfKind_follows h.children "default").bind_eq fun isDefault => .ite ?_ (.refl _)
  rcases Rel.cases (h.field? "value") with ⟨ho, ho'⟩ | ⟨value, value', ho, ho', hvalue⟩
  · rw [ho, ho']
    exact .refl _
  · rw [ho, ho']
    dsimp only
    rw [hvalue.text]
    exact hvalue.kind.follows.bind_eq fun k => .refl _

/-! ## Visits of degraded nodes -/

/-- A visit, and one of the same node of a degraded tree. -/
structure Visit.Degrades (E : String → Prop) (v v' : Visit) : Prop where
  node : v.node.Degrades E v'.node
  above : List.Forall₂ (Kind.Degrades E) v.above v'.above

variable {v v' : Visit} (m : Component)

theorem addFunction_follows (h : v.Degrades E v') : Follows E Eq (addFunction v m) (addFunction v' m) := by
  rw [addFunction, addFunction]
  refine (isTopLevel_follows h.above).bind_eq fun top => .ite ?_ (.refl _)
  rcases Rel.cases (h.node.field? "name") with ⟨ho, ho'⟩ | ⟨name, name', ho, ho', hname⟩
  · rw [ho, ho']
    exact .refl _
  · rw [ho, ho']
    dsimp only
    rw [hname.text]
    exact .refl _

theorem addClass_follows (h : v.Degrades E v') : Follows E Eq (addClass v m) (addClass v' m) := by
  rw [addClass, addClass]
  refine (isTopLevel_follows h.above).bind_eq fun top => .ite ?_ (.refl _)
  refine (firstOfKind?_follows h.node.children "class_heritage").bind fun heritage heritage' hheritage => ?_
  rcases Rel.cases (h.node.field? "name") with ⟨ho, ho'⟩ | ⟨name, name', ho, ho', hname⟩
  · rw [ho, ho']
    exact .refl _
  · rw [ho, ho']
    cases hheritage with
    | none => exact .refl _
    | some hheritage =>
      dsimp only
      rw [hname.text, hheritage.text]
      exact .refl _

theorem addVariable_follows (h : t.Degrades E t') : Follows E Eq (addVariable t m) (addVariable t' m) := by
  rw [addVariable, addVariable]
  rcases Rel.cases (h.field? "name") with ⟨ho, ho'⟩ | ⟨name, name', ho, ho', hname⟩
  · rw [ho, ho']
    exact .refl _
  · rcases Rel.cases (h.field? "value") with ⟨hv, hv'⟩ | ⟨value, value', hv, hv', hvalue⟩
    · rw [ho, ho', hv, hv']
      exact .refl _
    · rw [ho, ho', hv, hv']
      dsimp only
      rw [hname.text]
      exact hname.kind.follows.bind_eq fun k =>
        .ite ((isComponentValue_follows hvalue).bind_eq fun isComponent => .refl _) (.refl _)

theorem addDefaultExport_follows (h : t.Degrades E t') :
    Follows E Eq (addDefaultExport t m) (addDefaultExport t' m) := by
  rw [addDefaultExport, addDefaultExport]
  exact (defaultExportName?_follows h).bind_eq fun name => .refl _

theorem addImport_follows (h : t.Degrades E t') : Follows E Eq (addImport t m) (addImport t' m) :=
  (importOf_follows h).bind_eq (f := fun i => .ok { m with imports := m.imports ++ i.toList })
    (g := fun i => .ok { m with imports := m.imports ++ i.toList }) fun _ => .refl _

/-! ## Parts that were finished -/

/-- Of two results that are built up step by step, the second one is the first one, or ends with one of some messages, or
with that of the first one, and holds a part of it. -/
def Falls (E : String → Prop) (le : α → α → Prop) (r r' : α × Option String) : Prop :=
  match r'.2 with
  | none => r = r'
  | some e => le r'.1 r.1 ∧ (E e ∨ r.2 = some e)

theorem memberProps_falls {before before' : Option Tree} (hbefore : Option.Rel (Tree.Degrades E) before before')
    (hs : List.Forall₂ (Tree.Degrades E) ts ts') :
    Falls E (· <+: ·) (memberProps before ts) (memberProps before' ts') := by
  induction hs generalizing before before' with
  | nil => exact rfl
  | @cons t t' ts ts' h _ ih =>
    have hmember := memberProp_follows hbefore h
    have hrest := ih (.some h)
    rw [memberProps, memberProps]
    cases hp : memberProp before' t' with
    | error e =>
      rw [hp] at hmember
      refine ⟨List.nil_prefix, hmember.imp_right fun hx => ?_⟩
      rw [hx]
    | ok p =>
      rw [hp] at hmember
      obtain ⟨_, hx, rfl⟩ := hmember
      rw [hx]
      generalize memberProps (some t) ts = r at hrest
      generalize memberProps (some t') ts' = r' at hrest
      obtain ⟨ps', failure'⟩ := r'
      cases failure' with
      | none =>
        obtain rfl : r = _ := hrest
        exact rfl
      | some e => exact ⟨(List.prefix_append_right_inj _).2 hrest.1, hrest.2⟩

theorem addMembers_falls (h : t.Degrades E t') : Falls E Component.Grows (addMembers t m) (addMembers t' m) := by
  have hprops := memberProps_falls .none h.namedChildren
  rw [addMembers, addMembers]
  generalize memberProps none t.namedChildren = r at hprops
  generalize memberProps none t'.namedChildren = r' at hprops
  obtain ⟨ps', failure'⟩ := r'
  cases failure' with
  | none =>
    obtain rfl : r = _ := hprops
    exact rfl
  | some e =>
    exact ⟨⟨rfl, (List.prefix_append_right_inj _).2 hprops.1, List.prefix_rfl, List.prefix_rfl, id⟩, hprops.2⟩

theorem settle_falls {x y : Except String Component} (h : Follows E Eq x y) (hgrows : m.Grows (settle m x).1) :
    Falls E Component.Grows (settle m x) (settle m y) := by
  cases y with
  | ok m' =>
    obtain ⟨_, rfl, rfl⟩ := h
    exact rfl
  | error e =>
    refine ⟨hgrows, h.imp_right fun hx => ?_⟩
    rw [hx]
    rfl

theorem addInterface_falls (h : t.Degrades E t') : Falls E Component.Grows (addInterface t m) (addInterface t' m) := by
  rw [addInterface, addInterface]
  rcases Rel.cases (h.field? "name") with ⟨ho, ho'⟩ | ⟨name, name', ho, ho', hname⟩
  · rw [ho, ho']
    exact rfl
  · rcases Rel.cases (h.field? "body") with ⟨hb, hb'⟩ | ⟨body, body', hb, hb', hbody⟩
    · rw [ho, ho', hb, hb']
      exact rfl
    · rw [ho, ho', hb, hb']
      dsimp only
      rw [hname.text]
      split
      · exact addMembers_falls m hbody
      · exact rfl

theorem addTypeAlias_falls (h : t.Degrades E t') : Falls E Component.Grows (addTypeAlias t m) (addTypeAlias t' m) := by
  have hgrows := (addTypeAlias_adds t m).grows
  revert hgrows
  rw [addTypeAlias, addTypeAlias]
  rcases Rel.cases (h.field? "name") with ⟨ho, ho'⟩ | ⟨name, name', ho, ho', hname⟩
  · rw [ho, ho']
    exact fun _ => rfl
  · rcases Rel.cases (h.field? "value") with ⟨hv, hv'⟩ | ⟨value, value', hv, hv', hvalue⟩
    · rw [ho, ho', hv, hv']
      exact fun _ => rfl
    · rw [ho, ho', hv, hv']
      dsimp only
      rw [hname.text]
      split
      · intro hgrows
        rcases hvalue.kind with hk | ⟨e, he, hk⟩
        · rw [hk]
          split
          · split
            · exact addMembers_falls m hvalue
            · exact rfl
          · exact ⟨.refl m, Or.inr rfl⟩
        · rw [hk]
          exact ⟨hgrows, Or.inl he⟩
      · exact fun _ => rfl

/-- A visit of a degraded node fails and leaves the part that was finished, or does the same. -/
theorem visitNode_falls (h : v.Degrades E v') : Falls E Component.Grows (visitNode v m) (visitNode v' m) := by
  rcases h.node.kind with hk | ⟨e, he, hk⟩
  · rw [visitNode, visitNode, hk]
    split
    · exact ⟨.refl m, Or.inr rfl⟩
    · split
      · exact settle_falls m (addImport_follows m h.node) (settle_adds fun _ => addImport_adds).grows
      split
      · exact addInterface_falls m h.node
      split
      · exact addTypeAlias_falls m h.node
      split
      · exact settle_falls m (addFunction_follows m h) (settle_adds fun _ => addFunction_adds).grows
      split
      · exact settle_falls m (addClass_follows m h) (settle_adds fun _ => addClass_adds).grows
      split
      · exact settle_falls m (addVariable_follows m h.node) (settle_adds fun _ => addVariable_adds).grows
      split
      · exact settle_falls m (addDefaultExport_follows m h.node) (settle_adds fun _ => addDefaultExport_adds).grows
      · exact rfl
  · have hgrows := visitNode_grows v m
    rw [visitNode.eq_def v', hk]
    exact ⟨hgrows, Or.inl he⟩

/-- So does a run. -/
theorem runVisits_falls {vs vs' : List Visit} (h : List.Forall₂ (Visit.Degrades E) vs vs') (m : Component) :
    Falls E Component.Grows (runVisits visitNode vs m) (runVisits visitNode vs' m) := by
  induction h generalizing m with
  | nil => exact rfl
  | @cons v v' vs vs' hv _ ih =>
    have hstep := visitNode_falls m hv
    rw [runVisits, runVisits]
    cases hvisit' : visitNode v' m with
    | mk m' failure' =>
      rw [hvisit'] at hstep
      cases failure' with
      | none =>
        rw [show visitNode v m = (m', none) from hstep]
        exact ih m'
      | some e =>
        obtain ⟨hgrows, he⟩ := hstep
        cases hvisit : visitNode v m with
        | mk m'' failure =>
          rw [hvisit] at hgrows he
          cases failure with
          | none => exact ⟨hgrows.trans (runVisits_grows vs m''), he.imp_right fun h => by cases h⟩
          | some e' => exact ⟨hgrows, he⟩

end

theorem forall₂_flatMap {R : α → β → Prop} {S : γ → δ → Prop} {f : α → List γ} {g : β → List δ} {as : List α} {bs : List β}
    (h : List.Forall₂ R as bs) (hfg : ∀ a ∈ as, ∀ b, R a b → List.Forall₂ S (f a) (g b)) :
    List.Forall₂ S (as.flatMap f) (bs.flatMap g) := by
  induction h with
  | nil => exact .nil
  | cons hab _ ih =>
    rw [List.flatMap_cons, List.flatMap_cons]
    exact List.rel_append (hfg _ (by simp) _ hab) (ih fun a ha => hfg a (by simp [ha]))

/-- A degraded tree is visited as the tree itself. -/
theorem Visit.Degrades.all {v v' : Visit} (h : v.Degrades E v') : List.Forall₂ (Visit.Degrades E) v.all v'.all := by
  obtain ⟨t, above⟩ := v
  obtain ⟨t', above'⟩ := v'
  induction t using Tree.induction generalizing t' above above' with
  | h t ih =>
    rw [Visit.all_eq, Visit.all_eq, Visit.below, Visit.below, List.flatMap_map, List.flatMap_map]
    exact .cons h (forall₂_flatMap h.node.children fun c hc c' hcc' => ih c hc _ _ _ ⟨hcc', .cons h.node.kind h.above⟩)

/-! ## Readable trees behind degraded ones -/

theorem Tree.readable_node {l : Label} {cs : List Tree} :
    (Tree.node l cs).Readable ↔ l.kind.isOk = true ∧ ∀ c ∈ cs, c.Readable := by
  constructor
  · exact fun h => ⟨h _ (mem_preorder_self _), h.children⟩
  · rintro ⟨hl, hcs⟩ u hu
    rw [preorder_eq] at hu
    rcases List.mem_cons.1 hu with rfl | hu
    · exact hl
    · obtain ⟨c, hc, hu⟩ := List.mem_flatMap.1 hu
      exact hcs c hc u hu

/-- Every tree comes from a readable one by failures with its own messages. -/
theorem exists_readable (t : Tree) (h : ∀ u ∈ t.preorder, ∀ e, u.kind = .error e → E e) :
    ∃ t₀ : Tree, t₀.Readable ∧ t₀.Degrades E t := by
  induction t using Tree.induction with
  | h t ih =>
    obtain ⟨l, cs⟩ := t
    have hchildren : ∃ cs₀ : List Tree, (∀ c ∈ cs₀, c.Readable) ∧ List.Forall₂ (Tree.Degrades E) cs₀ cs := by
      have hcs : ∀ c ∈ cs, ∃ c₀ : Tree, c₀.Readable ∧ c₀.Degrades E c := fun c hc =>
        ih c hc fun u hu => h u (Tree.mem_preorder_of_child hc hu)
      clear ih h
      induction cs with
      | nil => exact ⟨[], by simp, .nil⟩
      | cons c cs ih =>
        obtain ⟨c₀, hc₀, hc⟩ := hcs c (by simp)
        obtain ⟨cs₀, hcs₀, hcs⟩ := ih fun d hd => hcs d (by simp [hd])
        exact ⟨c₀ :: cs₀, List.forall_mem_cons.2 ⟨hc₀, hcs₀⟩, .cons hc hcs⟩
    obtain ⟨cs₀, hreadable, hdegrades⟩ := hchildren
    have hroot := h _ (Tree.mem_preorder_self _)
    cases hkind : l.kind with
    | ok k =>
      refine ⟨.node l cs₀, Tree.readable_node.2 ⟨by rw [hkind]; rfl, hreadable⟩, ?_⟩
      exact .node (k := l.kind) (Or.inl rfl) hdegrades
    | error e =>
      refine ⟨.node { l with kind := .ok "" } cs₀, Tree.readable_node.2 ⟨rfl, hreadable⟩, ?_⟩
      exact .node (l := { l with kind := .ok "" }) (k := l.kind) (Or.inr ⟨e, hroot e hkind, hkind⟩) hdegrades

/-! ## Analyses of degraded trees -/

theorem analyzeTree_falls {t t' : Tree} (h : t.Degrades E t') (path : String) :
    Falls E Component.Grows (analyzeTree (.ok t) path) (analyzeTree (.ok t') path) := by
  rw [analyzeTree, analyzeTree, walk_eq, walk_eq]
  exact runVisits_falls (Visit.Degrades.all ⟨h, .nil⟩) _

/-- What is found in a degraded tree is the beginning of what is found in the tree itself. -/
theorem analyzeTree_grows {t t' : Tree} (h : t.Degrades E t') (path : String) :
    (analyzeTree (.ok t') path).1.Grows (analyzeTree (.ok t) path).1 := by
  have hfalls := analyzeTree_falls h path
  rw [Falls] at hfalls
  split at hfalls
  · rw [hfalls]
    exact .refl _
  · exact hfalls.1

theorem analyzeTree_sourcePath (t : Tree) (path : String) : (analyzeTree (.ok t) path).1.sourcePath = path := by
  rw [analyzeTree, walk_eq]
  exact (runVisits_grows _ _).sourcePath

/-- A walk that does not fail has read every node. -/
theorem readable_of_analyzeTree {t : Tree} {path : String} (h : (analyzeTree (.ok t) path).2 = none) : t.Readable := by
  intro u hu
  rw [← Visit.map_node_all ⟨t, []⟩] at hu
  obtain ⟨v, hv, rfl⟩ := List.mem_map.1 hu
  rw [analyzeTree, walk_eq] at h
  obtain ⟨m, hm⟩ := runVisits_none h v hv
  rw [visitNode] at hm
  split at hm
  · cases hm
  · next k hk => rw [hk]; rfl

/-- The failure of an analysis is that of one of the nodes. -/
theorem exists_of_analyzeTree_error {t : Tree} {path e : String} (h : (analyzeTree (.ok t) path).2 = some e) :
    ∃ u ∈ t.preorder, u.kind = .error e := by
  obtain ⟨t₀, hreadable, hdegrades⟩ := exists_readable (E := fun e => ∃ u ∈ t.preorder, u.kind = .error e) t
    fun u hu e he => ⟨u, hu, he⟩
  have hfalls := analyzeTree_falls hdegrades path
  rw [Falls, h, analyzeTree_readable hreadable] at hfalls
  exact hfalls.2.resolve_right fun h => by cases h

/-- The warnings that an analysis leads to. -/
def analysisWarnings (path : String) (r : Component × Option String) : List String :=
  r.2.toList.map (degradedWarning path)

/-- They are recorded when the source of a component is analyzed. -/
theorem analyzeSource_warnings (source file : String) (w : Workspace) :
    ∃ notes, (analyzeSource source file).runOn w =
        (.ok (analyzeTree (.ok (Script.parse (.ofPath file) source)) file).1, { w with notes := w.notes ++ notes }) ∧
      (notes.filter (·.level == .warning)).map (·.message) =
        analysisWarnings file (analyzeTree (.ok (Script.parse (.ofPath file) source)) file) := by
  unfold analyzeSource analysisWarnings
  generalize analyzeTree (.ok (Script.parse (.ofPath file) source)) file = read
  obtain ⟨m, failure⟩ := read
  have hend : ∀ w : Workspace, ∃ notes : List Note, (if m.name.isEmpty then do
      Work.log [⟨.debug, "analyzer", "No component declaration found in " ++ file⟩]; return m
      else return m : Work Component).runOn w = (.ok m, { w with notes := w.notes ++ notes }) ∧
        notes.filter (·.level == .warning) = [] := by
    intro w
    split
    · exact ⟨[_], rfl, rfl⟩
    · exact ⟨[], by rw [List.append_nil]; rfl, rfl⟩
  cases failure with
  | none =>
    obtain ⟨notes, hrun, hnotes⟩ := hend w
    exact ⟨notes, hrun, by rw [hnotes]; rfl⟩
  | some e =>
    obtain ⟨notes, hrun, hnotes⟩ := hend { w with notes := w.notes ++ [⟨.warning, "analyzer", degradedWarning file e⟩] }
    refine ⟨⟨.warning, "analyzer", degradedWarning file e⟩ :: notes, ?_, ?_⟩
    · rw [List.append_cons]
      exact hrun
    · rw [List.filter_cons_of_pos (by rfl), hnotes]
      rfl

/-- Where some nodes of a tree cannot be read, what is found is the beginning of what would be found. The walk reads every
node, so that it comes to one of those nodes: then there is one warning, with the message of such a node, and none when all
nodes can be read. Where there is no tree at all, nothing is found. -/
theorem analyze_degraded {t t' : Tree} (h : t.Degrades E t') (path : String) :
    (analyzeTree (.ok t') path).1.sourcePath = path ∧
      (analyzeTree (.ok t') path).1.props <+: (analyzeTree (.ok t) path).1.props ∧
      (analyzeTree (.ok t') path).1.imports <+: (analyzeTree (.ok t) path).1.imports ∧
      (analyzeTree (.ok t') path).1.exports <+: (analyzeTree (.ok t) path).1.exports ∧
      ((analyzeTree (.ok t') path).1.hasDefaultExport = true → (analyzeTree (.ok t) path).1.hasDefaultExport = true) ∧
      (t'.Readable → analysisWarnings path (analyzeTree (.ok t') path) = []) ∧
      (¬ t'.Readable → ∃ u ∈ t'.preorder, ∃ e, u.kind = .error e ∧
        analysisWarnings path (analyzeTree (.ok t') path) = [degradedWarning path e]) ∧
      ∀ e, analyzeTree (.error e) path = ({ sourcePath := path }, some e) := by
  have hgrows := analyzeTree_grows h path
  refine ⟨analyzeTree_sourcePath t' path, hgrows.props, hgrows.imports, hgrows.exports, hgrows.hasDefaultExport, fun hreadable => ?_,
    fun hunreadable => ?_, fun _ => rfl⟩
  · rw [analysisWarnings, analyzeTree_readable hreadable]
    rfl
  · cases hfailure : (analyzeTree (.ok t') path).2 with
    | none => exact absurd (readable_of_analyzeTree hfailure) hunreadable
    | some e =>
      obtain ⟨u, hu, he⟩ := exists_of_analyzeTree_error hfailure
      exact ⟨u, hu, e, he, by rw [analysisWarnings, hfailure]; rfl⟩

/-- A contract with a comment between two properties, above a default export. -/
def cardTree (comment : Kind) : Tree :=
  .node { kind := .ok "program" } [
    .node { kind := .ok "interface_declaration" } [
      .node { kind := .ok "type_identifier", text := "CardProps", field := some "name" } [],
      .node { kind := .ok "interface_body", field := some "body" } [
        .node { kind := .ok "property_signature" } [
          .node { kind := .ok "property_identifier", text := "label", field := some "name" } []],
        .node { kind := comment, text := "/** Shown first. */" } [],
        .node { kind := .ok "property_signature" } [
          .node { kind := .ok "property_identifier", text := "icon", field := some "name" } []]]],
    .node { kind := .ok "export_statement" } [
      .node { kind := .ok "default", named := false } [],
      .node { kind := .ok "identifier", text := "Card", field := some "value" } []]]

theorem cardTree_degrades (e : String) : (cardTree (.ok "comment")).Degrades (· = e) (cardTree (.error e)) := by
  have hkind : ∀ k : Kind, k.Degrades (· = e) k := fun k => Or.inl rfl
  have hsame : ∀ t : Tree, t.Degrades (· = e) t := .refl
  refine .node (hkind _) (.cons (.node (hkind _) (.cons (hsame _) (.cons (.node (hkind _) ?_) .nil))) (.cons (hsame _) .nil))
  exact .cons (hsame _) (.cons (.node (Or.inr ⟨e, rfl, rfl⟩) .nil) (.cons (hsame _) .nil))

theorem analyze_degraded_card : (cardTree (.ok "comment")).Degrades (· = "lost") (cardTree (.error "lost")) ∧
    (analyzeTree (.ok (cardTree (.error "lost"))) "src/Card.tsx").1.props <+:
      (analyzeTree (.ok (cardTree (.ok "comment"))) "src/Card.tsx").1.props ∧
    (analyzeTree (.ok (cardTree (.error "lost"))) "src/Card.tsx").1.props.map PropSpec.name = ["label"] ∧
    (analyzeTree (.ok (cardTree (.ok "comment"))) "src/Card.tsx").1.props.map PropSpec.name = ["label", "icon"] ∧
    ∃ u ∈ (cardTree (.error "lost")).preorder, ∃ e, u.kind = .error e ∧
      analysisWarnings "src/Card.tsx" (analyzeTree (.ok (cardTree (.error "lost"))) "src/Card.tsx") =
        [degradedWarning "src/Card.tsx" e] := by
  obtain ⟨-, hprops, -, -, -, -, hwarned, -⟩ := analyze_degraded (cardTree_degrades "lost") "src/Card.tsx"
  exact ⟨cardTree_degrades "lost", hprops, by decide +kernel, by decide +kernel, hwarned (by decide)⟩

end Suitewright
