/-
  Lines that a rule has nothing left to do with.

  * `Signal.reaches`: which lines of a suite the rule of a signal changes; `getElem?_mendLines`;
  * `Line.mend_mend`: a rule leaves a line alone that it has changed;
  * `Line.mend_keeps_mend`: so it does after the rules that come later;
  * `Settled`: lines on which the rule of a signal changes nothing; `foldl_settled`: after the rules of signals in the
    order of their kinds the lines are settled for all of them.

  One pair of rules is the exception, `TakesSpread`: an injected attribute whose name begins with `from` can make the
  spread of the required properties look like the end of an import.
-/
import Suitewright.Proofs.Failure.Reading
import Suitewright.Proofs.Repair.Naming

namespace Suitewright

open Text

/-! ## Queries -/

/-- Changes of queries that retire some of them for good, in favour of test identifiers. -/
structure Query.Retires (f : Query → Query) : Prop where
  result : ∀ q, f q = q ∨ ∃ b, f q = .testId b
  testId : ∀ b, f (.testId b) = .testId b

namespace Query

variable {f g : Query → Query}

/-- A query that one change keeps is kept after another one. -/
theorem Retires.keeps (hf : Retires f) (hg : Retires g) {q : Query} (h : f q = q) : f (g q) = g q := by
  rcases hg.result q with hq | ⟨b, hq⟩
  · rw [hq, h]
  · rw [hq, hf.testId]

theorem Retires.idem (hf : Retires f) (q : Query) : f (f q) = f q := by
  rcases hf.result q with hq | ⟨b, hq⟩
  · rw [hq, hq]
  · rw [hq, hf.testId]

theorem withoutRole_retires (role : List Char) : Retires (withoutRole role) where
  result := by
    intro q
    cases q with
    | role r =>
      rw [withoutRole]
      split
      · exact Or.inr ⟨_, rfl⟩
      · exact Or.inl rfl
    | _ => exact Or.inl rfl
  testId := fun _ => rfl

theorem withoutFallback_retires (role : String) : Retires (withoutFallback role) := by
  rw [withoutFallback]
  split
  · refine ⟨fun q => ?_, fun _ => rfl⟩
    cases q with
    | status => exact Or.inr ⟨_, rfl⟩
    | _ => exact Or.inl rfl
  · refine ⟨fun q => ?_, fun _ => rfl⟩
    cases q with
    | image => exact Or.inr ⟨_, rfl⟩
    | _ => exact Or.inl rfl

theorem withoutText_retires (m : Component) : Retires (withoutText m) where
  result := by
    intro q
    cases q with
    | text v =>
      rw [withoutText]
      split
      · exact Or.inr ⟨_, rfl⟩
      · exact Or.inl rfl
    | _ => exact Or.inl rfl
  testId := fun _ => rfl

end Query

/-! ## Style classes -/

/-- A style class that was replaced belongs to buttons. -/
theorem familyClass_cases (family n : List Char) :
    familyClass family n = n ∨ ∃ v, familyClass family n = "btn--".toList ++ v := by
  rw [familyClass]
  split
  · exact Or.inr ⟨_, rfl⟩
  · exact Or.inl rfl

theorem familyClass_button {family : List Char} (h : family.head?.any (· != 'b') = true) (v : List Char) :
    familyClass family ("btn--".toList ++ v) = "btn--".toList ++ v := by
  cases family with
  | nil => cases h
  | cons c family =>
    have hc : (c == 'b') = false := by simpa using h
    have hnone : after? (c :: family ++ ['-', '-']) ("btn--".toList ++ v) = none := by
      show (if c == 'b' then _ else none) = none
      rw [hc]
      rfl
    rw [familyClass, hnone]

theorem familyClass_idem {family other : List Char} (h : family.head?.any (· != 'b') = true) {n : List Char}
    (hn : familyClass family n = n) : familyClass family (familyClass other n) = familyClass other n := by
  rcases familyClass_cases other n with ho | ⟨v, ho⟩
  · rw [ho, hn]
  · rw [ho, familyClass_button h]

theorem familyClass_self {family : List Char} (h : family.head?.any (· != 'b') = true) (n : List Char) :
    familyClass family (familyClass family n) = familyClass family n := by
  rcases familyClass_cases family n with hn | ⟨v, hn⟩
  · rw [hn, hn]
  · rw [hn, familyClass_button h]

/-- The rule for style classes leaves an assertion alone that it has changed. -/
theorem replacingClass_idem (n : List Char) :
    (Line.replacingClass n).onAssertion Line.replacingClass = Line.replacingClass n := by
  by_cases hdisabled : n = "disabled".toList
  · rw [Line.replacingClass, if_pos hdisabled]
    rfl
  by_cases hloading : n = "loading".toList
  · rw [Line.replacingClass, if_neg hdisabled, if_pos hloading]
    rfl
  · have hsize : "size".toList.head?.any (· != 'b') = true := by decide
    have hvariant : "variant".toList.head?.any (· != 'b') = true := by decide
    have hclass : Line.replacingClass n = .classed (familyClass "variant".toList (familyClass "size".toList n)) := by
      rw [Line.replacingClass, if_neg hdisabled, if_neg hloading]
    have hother : ∀ k, (k = n ∨ ∃ v, k = "btn--".toList ++ v) → k ≠ "disabled".toList ∧ k ≠ "loading".toList := by
      rintro k (rfl | ⟨v, rfl⟩)
      · exact ⟨hdisabled, hloading⟩
      · refine ⟨fun e => ?_, fun e => ?_⟩ <;> exact absurd (List.cons.inj e).1 (by decide)
    have hresult : familyClass "variant".toList (familyClass "size".toList n) = n ∨
        ∃ v, familyClass "variant".toList (familyClass "size".toList n) = "btn--".toList ++ v := by
      rcases familyClass_cases "size".toList n with hn | ⟨v, hn⟩
      · rw [hn]
        exact familyClass_cases _ _
      · rw [hn, familyClass_button hvariant]
        exact Or.inr ⟨v, rfl⟩
    obtain ⟨hd, hl⟩ := hother _ hresult
    rw [hclass, Line.onAssertion, Line.replacingClass, if_neg hd, if_neg hl,
      familyClass_idem hsize (familyClass_self hsize n), familyClass_self hvariant]

/-! ## Single lines -/

namespace Line

variable {m : Component} {path : String} {s t : Signal}

theorem redirect_idem (module target : List Char) (l : Line) :
    (l.redirect module target).redirect module target = l.redirect module target := by
  have hmodule : ∀ k, (if (if k = module then target else k) = module then target else if k = module then target else k) =
      if k = module then target else k := by
    intro k
    by_cases hk : k = module
    · simp [hk]
    · simp [hk]
  cases l with
  | named content k => exact congrArg (named content) (hmodule k)
  | default name k => exact congrArg (default name) (hmodule k)
  | _ => rfl

/-- Modules that were redirected are not found again, wherever another rule redirects them to. -/
theorem redirect_keeps_redirect {module other target : List Char} {l : Line}
    (h : l.redirect module target = l) :
    (l.redirect other target).redirect module target = l.redirect other target := by
  have hmodule : ∀ k, (if k = module then target else k) = k →
      (if (if k = other then target else k) = module then target else if k = other then target else k) =
        if k = other then target else k := by
    intro k hk
    by_cases ho : k = other
    · simp [ho]
    · simpa [ho] using hk
  cases l with
  | named content k => exact congrArg (named content) (hmodule k (named.inj h).2)
  | default name k => exact congrArg (default name) (hmodule k (default.inj h).2)
  | _ => rfl

theorem byDefault_idem (component symbol : List Char) (l : Line) :
    (l.byDefault component symbol).byDefault component symbol = l.byDefault component symbol := by
  cases l with
  | named content k =>
    by_cases h : namesSymbol symbol content = true
    · rw [byDefault, if_pos h]
      rfl
    · rw [byDefault, if_neg h, byDefault, if_neg h]
  | render spread attributes =>
    cases spread with
    | false => rfl
    | true =>
      rw [byDefault]
      split
      · rfl
      · next h => rw [byDefault, if_neg h]
  | _ => rfl

theorem inject_idem (a : Attribute) (l : Line) : (l.inject a).inject a = l.inject a := by
  cases l with
  | render spread attributes =>
    rw [inject]
    split
    · next h => rw [inject, if_pos h]
    · have hnamed : namedIn a.name none (attributesText spread (attributes ++ [a])) = true := by
        rw [attributesText_concat]
        exact namedIn_attribute a _
      rw [inject, if_pos hnamed]
  | _ => rfl

/-- A line that names an attribute does so after another one was injected. -/
theorem inject_keeps_inject {a b : Attribute} {l : Line} (h : l.inject a = l) :
    (l.inject b).inject a = l.inject b := by
  cases l with
  | render spread attributes =>
    have hnamed : namedIn a.name none (attributesText spread attributes) = true := by
      rw [inject] at h
      split at h
      · assumption
      · exact absurd (render.inj h).2 (by simp)
    rw [inject]
    split
    · exact h
    · have hafter : namedIn a.name none (attributesText spread (attributes ++ [b])) = true := by
        rw [attributesText_concat]
        exact namedIn_append hnamed b.chars
      rw [inject, if_pos hafter]
  | _ => rfl

theorem onQuery_idem {f : Query → Query} (hf : Query.Retires f) (l : Line) : (l.onQuery f).onQuery f = l.onQuery f := by
  cases l with
  | query frame q => exact congrArg (query frame) (hf.idem q)
  | _ => rfl

theorem onQuery_keeps_onQuery {f g : Query → Query} (hf : Query.Retires f) (hg : Query.Retires g) {l : Line}
    (h : l.onQuery f = l) : (l.onQuery g).onQuery f = l.onQuery g := by
  cases l with
  | query frame q => exact congrArg (query frame) (hf.keeps hg (query.inj h).2)
  | _ => rfl

/-- A rule leaves a line alone that it has changed. -/
theorem mend_mend (l : Line) : (l.mend m path s).mend m path s = l.mend m path s := by
  cases s with
  | quotedLiteral | malformedClosure => rfl
  | unresolvedImport module => exact redirect_idem _ _ l
  | namedImportMissing symbol => exact byDefault_idem _ _ l
  | roleNotFound role => exact onQuery_idem (Query.withoutRole_retires _) l
  | missingProp prop line => exact inject_idem _ l
  | classMismatch =>
    cases l with
    | classed n => exact replacingClass_idem n
    | _ => rfl
  | textNotFound => exact onQuery_idem (Query.withoutText_retires m) l
  | statusOrImageRole role => exact onQuery_idem (Query.withoutFallback_retires role) l

end Line

/-- The rule for names that are not exported finds the spread of the required properties after the rule for missing
properties: the component's name ends with `import`, the name that is not exported is the one of the spread, and the
missing property's name begins with `from`. -/
def TakesSpread (m : Component) (s t : Signal) : Prop :=
  "import".toList <:+ m.displayName.toList ∧ s = .namedImportMissing "requiredProps" ∧
    ∃ prop line, t = .missingProp prop line ∧ "from".toList <+: prop.toList

namespace Line

variable {m : Component} {path : String} {s t : Signal}

/-- After an injection the spread is taken for the names of an import as little as before, unless the attribute
begins as the end of an import does. -/
theorem inject_keeps_byDefault {symbol prop : String} (hsymbol : IsWord symbol.toList)
    (h : ∀ line, ¬ TakesSpread m (.namedImportMissing symbol) (.missingProp prop line)) {l : Line}
    (hl : l.byDefault m.displayName.toList symbol.toList = l) :
    (l.inject (attributeOf m prop)).byDefault m.displayName.toList symbol.toList = l.inject (attributeOf m prop) := by
  cases l with
  | render spread attributes =>
    rw [inject]
    split
    · exact hl
    · cases spread with
      | false => rfl
      | true =>
        have hnot : ¬ ("import".toList.isSuffixOf m.displayName.toList &&
            namesSymbol symbol.toList "...requiredProps".toList && startsFrom attributes) = true := by
          intro htaken
          rw [byDefault, if_pos htaken] at hl
          cases (render.inj hl).1
        rw [byDefault, if_neg]
        intro htaken
        rw [Bool.and_eq_true, Bool.and_eq_true, namesSymbol_spread hsymbol, decide_eq_true_eq] at htaken
        obtain ⟨⟨himport, hspread⟩, hfrom⟩ := htaken
        cases attributes with
        | nil =>
          have hprop : "from".toList <+: prop.toList := by
            rw [← attributeOf_name m prop]
            exact List.isPrefixOf_iff_prefix.1 hfrom
          refine h none ⟨List.isSuffixOf_iff_suffix.1 himport, ?_, prop, none, rfl, hprop⟩
          rw [String.toList_inj.1 hspread]
        | cons a attributes =>
          refine hnot ?_
          rw [Bool.and_eq_true, Bool.and_eq_true, namesSymbol_spread hsymbol, decide_eq_true_eq]
          exact ⟨⟨himport, hspread⟩, hfrom⟩
  | _ => exact hl

theorem redirect_keeps_byDefault {component symbol module target : List Char} {l : Line}
    (h : l.redirect module target = l) :
    (l.byDefault component symbol).redirect module target = l.byDefault component symbol := by
  cases l with
  | named content k =>
    rw [byDefault]
    split
    · exact congrArg (default symbol) (named.inj h).2
    · exact h
  | render spread attributes =>
    cases spread with
    | false => rfl
    | true =>
      rw [byDefault]
      split <;> rfl
  | _ => exact h

theorem byDefault_keeps_byDefault {component symbol other : List Char} {l : Line}
    (h : l.byDefault component symbol = l) :
    (l.byDefault component other).byDefault component symbol = l.byDefault component other := by
  cases l with
  | named content k =>
    rw [byDefault]
    split
    · rfl
    · exact h
  | render spread attributes =>
    cases spread with
    | false => rfl
    | true =>
      rw [byDefault.eq_2 component other]
      split
      · rfl
      · exact h
  | _ => exact h

/-! ### Rules for other lines -/

section
variable {l : Line}

/-- A rule that has nothing to do with the lines that another rule makes keeps what it had left alone. -/
theorem onQuery_keeps_mend (hs : ∀ frame q, (query frame q).mend m path s = query frame q) (f : Query → Query)
    (h : l.mend m path s = l) : (l.onQuery f).mend m path s = l.onQuery f := by
  cases l with
  | query frame q => exact hs frame (f q)
  | _ => exact h

theorem inject_keeps_mend (hs : ∀ spread attributes, (render spread attributes).mend m path s = render spread attributes)
    (a : Attribute) (h : l.mend m path s = l) : (l.inject a).mend m path s = l.inject a := by
  cases l with
  | render spread attributes =>
    rw [inject]
    split <;> exact hs _ _
  | _ => exact h

theorem replacingClass_keeps_mend (hfixed : ∀ text, (fixed text).mend m path s = fixed text)
    (hs : ∀ n, (classed n).mend m path s = classed n) (h : l.mend m path s = l) :
    (l.onAssertion replacingClass).mend m path s = l.onAssertion replacingClass := by
  cases l with
  | classed n =>
    rw [onAssertion, replacingClass]
    split
    · exact hfixed _
    · split
      · exact hfixed _
      · exact hs _
  | _ => exact h

end

/-- A rule that left a line alone does so after a rule of the same or a later kind. -/
theorem mend_keeps_mend (hs : s.IsPlain) (hrank : s.rank ≤ t.rank) (hspread : ¬ TakesSpread m s t)
    {l : Line} (h : l.mend m path s = l) : (l.mend m path t).mend m path s = l.mend m path t := by
  cases s with
  | quotedLiteral | malformedClosure => rfl
  | unresolvedImport module =>
    cases t with
    | quotedLiteral | malformedClosure => exact h
    | unresolvedImport other => exact redirect_keeps_redirect h
    | namedImportMissing symbol => exact redirect_keeps_byDefault h
    | roleNotFound | textNotFound | statusOrImageRole => exact onQuery_keeps_mend (fun _ _ => rfl) _ h
    | missingProp prop line => exact inject_keeps_mend (fun _ _ => rfl) _ h
    | classMismatch => exact replacingClass_keeps_mend (fun _ => rfl) (fun _ => rfl) h
  | namedImportMissing symbol =>
    cases t with
    | quotedLiteral | malformedClosure | unresolvedImport => exact absurd hrank (by simp [Signal.rank])
    | namedImportMissing other => exact byDefault_keeps_byDefault h
    | roleNotFound | textNotFound | statusOrImageRole => exact onQuery_keeps_mend (fun _ _ => rfl) _ h
    | missingProp prop line =>
      refine inject_keeps_byDefault hs (fun line' htaken => hspread ?_) h
      obtain ⟨himport, hsymbol, prop', line', heq, hfrom⟩ := htaken
      obtain ⟨rfl, -⟩ := Signal.missingProp.inj heq
      exact ⟨himport, hsymbol, prop, line, rfl, hfrom⟩
    | classMismatch => exact replacingClass_keeps_mend (fun _ => rfl) (fun _ => rfl) h
  | roleNotFound role =>
    have hrole := Query.withoutRole_retires role.toList
    cases t with
    | quotedLiteral | malformedClosure | unresolvedImport | namedImportMissing =>
      exact absurd hrank (by simp [Signal.rank])
    | roleNotFound other => exact onQuery_keeps_onQuery hrole (Query.withoutRole_retires _) h
    | missingProp prop line => exact inject_keeps_mend (fun _ _ => rfl) _ h
    | classMismatch => exact replacingClass_keeps_mend (fun _ => rfl) (fun _ => rfl) h
    | textNotFound => exact onQuery_keeps_onQuery hrole (Query.withoutText_retires m) h
    | statusOrImageRole other => exact onQuery_keeps_onQuery hrole (Query.withoutFallback_retires other) h
  | missingProp prop line =>
    cases t with
    | quotedLiteral | malformedClosure | unresolvedImport | namedImportMissing | roleNotFound =>
      exact absurd hrank (by simp [Signal.rank])
    | missingProp other line' => exact inject_keeps_inject h
    | classMismatch => exact replacingClass_keeps_mend (fun _ => rfl) (fun _ => rfl) h
    | textNotFound | statusOrImageRole => exact onQuery_keeps_mend (fun _ _ => rfl) _ h
  | classMismatch =>
    cases t with
    | quotedLiteral | malformedClosure | unresolvedImport | namedImportMissing | roleNotFound | missingProp =>
      exact absurd hrank (by simp [Signal.rank])
    | classMismatch => exact mend_mend l
    | textNotFound | statusOrImageRole => exact onQuery_keeps_mend (fun _ _ => rfl) _ h
  | textNotFound =>
    have htext := Query.withoutText_retires m
    cases t with
    | textNotFound => exact mend_mend l
    | statusOrImageRole other => exact onQuery_keeps_onQuery htext (Query.withoutFallback_retires other) h
    | _ => exact absurd hrank (by simp [Signal.rank])
  | statusOrImageRole role =>
    cases t with
    | statusOrImageRole other =>
      exact onQuery_keeps_onQuery (Query.withoutFallback_retires role) (Query.withoutFallback_retires other) h
    | _ => exact absurd hrank (by simp [Signal.rank])

/-- Whether a line renders the component. -/
def isRender : Line → Bool
  | render _ _ => true
  | _ => false

theorem isRender_mend (l : Line) : (l.mend m path t).isRender = l.isRender := by
  cases l with
  | render spread attributes =>
    cases t with
    | namedImportMissing symbol =>
      cases spread with
      | false => rfl
      | true =>
        rw [mend, byDefault]
        split <;> rfl
    | missingProp prop line =>
      rw [mend, inject]
      split <;> rfl
    | _ => rfl
  | named content module =>
    cases t with
    | namedImportMissing symbol =>
      rw [mend, byDefault]
      split <;> rfl
    | _ => rfl
  | classed n =>
    cases t with
    | classMismatch =>
      rw [mend, onAssertion, replacingClass]
      split
      · rfl
      · split <;> rfl
    | _ => rfl
  | fixed | default | query => cases t <;> rfl

end Line

/-! ## Whole suites -/

section
variable {m : Component} {path : String} {s t : Signal} {d : List Line}

/-- Whether the rule of a signal reaches the line with an index. The rule for missing properties reaches the rendering
line nearest to the one it is told, other rules reach all lines. -/
def Signal.reaches : Signal → List Line → Nat → Bool
  | missingProp _ line, d, i => nearestLine? line (renderLines 1 d) = some (i + 1)
  | _, _, _ => true

theorem renderLines_pos {n k : Nat} (h : k ∈ renderLines n d) : n ≤ k := by
  obtain ⟨d₁, -, -, -, -, rfl⟩ := mem_renderLines h
  exact Nat.le_add_right n _

/-- What the rule of a signal makes of each line of a suite. -/
theorem getElem?_mendLines (i : Nat) :
    (mendLines m path d s)[i]? = d[i]?.map fun l => if s.reaches d i then l.mend m path s else l := by
  have hmap : ∀ f : Line → Line, (d.map f)[i]? = d[i]?.map fun l => if true then f l else l := fun f => by
    rw [List.getElem?_map]
    rfl
  cases s with
  | missingProp prop line =>
    rw [mendLines, injectInto]
    cases hk : nearestLine? line (renderLines 1 d) with
    | none => simp [Signal.reaches, hk]
    | some k =>
      have hpos := renderLines_pos (nearestLine?_mem hk)
      have hindex : k - 1 = i ↔ k = i + 1 := by omega
      dsimp only
      rw [List.getElem?_modify]
      cases hl : d[i]? with
      | none => simp
      | some l => by_cases h : k = i + 1 <;> simp [Signal.reaches, hk, hindex, h, Line.mend]
  | _ => exact hmap _

theorem renderLines_cons (n : Nat) (l : Line) (d : List Line) :
    renderLines n (l :: d) = if l.isRender then n :: renderLines (n + 1) d else renderLines (n + 1) d := by
  cases l <;> rfl

theorem renderLines_congr {d d' : List Line} (h : d.map Line.isRender = d'.map Line.isRender) (n : Nat) :
    renderLines n d = renderLines n d' := by
  induction d generalizing d' n with
  | nil =>
    obtain rfl := List.map_eq_nil_iff.1 h.symm
    rfl
  | cons l d ih =>
    obtain ⟨l', d', rfl⟩ : ∃ l' e, d' = l' :: e := by
      cases d' with
      | nil => cases h
      | cons l' e => exact ⟨l', e, rfl⟩
    obtain ⟨hl, hd⟩ := List.cons.inj h
    rw [renderLines_cons, renderLines_cons, hl, ih hd]

/-- The rule of a signal keeps the places of the rendering lines, and so what other rules reach. -/
theorem reaches_mendLines (i : Nat) : s.reaches (mendLines m path d t) i = s.reaches d i := by
  have hrender : (mendLines m path d t).map Line.isRender = d.map Line.isRender := by
    refine List.ext_getElem? fun j => ?_
    rw [List.getElem?_map, List.getElem?_map, getElem?_mendLines, Option.map_map]
    congr 1
    funext l
    dsimp only [Function.comp]
    split
    · exact Line.isRender_mend l
    · rfl
  cases s with
  | missingProp prop line => rw [Signal.reaches, Signal.reaches, renderLines_congr hrender]
  | _ => rfl

/-- Lines on which the rule of a signal changes nothing. -/
def Settled (m : Component) (path : String) (s : Signal) (d : List Line) : Prop :=
  ∀ i l, d[i]? = some l → s.reaches d i = true → l.mend m path s = l

theorem Settled.mendLines_eq (h : Settled m path s d) : mendLines m path d s = d := by
  refine List.ext_getElem? fun i => ?_
  rw [getElem?_mendLines]
  cases hl : d[i]? with
  | none => rfl
  | some l =>
    rw [Option.map_some]
    split
    · next hreaches => rw [h i l hl hreaches]
    · rfl

/-- After its rule lines are settled for a signal. -/
theorem settled_mendLines (d : List Line) : Settled m path s (mendLines m path d s) := by
  intro i l hl hreaches
  rw [reaches_mendLines] at hreaches
  rw [getElem?_mendLines] at hl
  obtain ⟨l', -, rfl⟩ := Option.map_eq_some_iff.1 hl
  rw [if_pos hreaches]
  exact Line.mend_mend l'

/-- Settled lines are settled after the rule of a signal of the same or a later kind. -/
theorem Settled.after (hs : s.IsPlain) (hrank : s.rank ≤ t.rank) (hspread : ¬ TakesSpread m s t)
    (h : Settled m path s d) : Settled m path s (mendLines m path d t) := by
  intro i l hl hreaches
  rw [reaches_mendLines] at hreaches
  rw [getElem?_mendLines] at hl
  obtain ⟨l', hl', rfl⟩ := Option.map_eq_some_iff.1 hl
  have hsettled := h i l' hl' hreaches
  split
  · exact Line.mend_keeps_mend hs hrank hspread hsettled
  · exact hsettled

variable {signals : List Signal}

theorem Settled.after_all (hs : s.IsPlain) (hrank : ∀ t ∈ signals, s.rank ≤ t.rank)
    (hspread : ∀ t ∈ signals, ¬ TakesSpread m s t) (h : Settled m path s d) :
    Settled m path s (signals.foldl (mendLines m path) d) := by
  induction signals generalizing d with
  | nil => exact h
  | cons t signals ih =>
    exact ih (fun u hu => hrank u (by simp [hu])) (fun u hu => hspread u (by simp [hu]))
      (h.after hs (hrank t (by simp)) (hspread t (by simp)))

/-- After the rules of signals in the order of their kinds lines are settled for each of them. -/
theorem foldl_settled (hs : ∀ s ∈ signals, s.IsPlain) (hsorted : Sorted signals)
    (hspread : ∀ s ∈ signals, ∀ t ∈ signals, ¬ TakesSpread m s t) (d : List Line) :
    ∀ s ∈ signals, Settled m path s (signals.foldl (mendLines m path) d) := by
  induction signals generalizing d with
  | nil => exact fun _ h => nomatch h
  | cons t signals ih =>
    obtain ⟨hfirst, hrest⟩ := List.pairwise_cons.1 hsorted
    intro s hmem
    rcases List.mem_cons.1 hmem with rfl | hmem
    · rw [List.foldl_cons]
      exact (settled_mendLines d).after_all (hs s (by simp)) hfirst
        fun u hu => hspread s (by simp) u (by simp [hu])
    · exact ih (fun u hu => hs u (by simp [hu])) hrest
        (fun u hu v hv => hspread u (by simp [hu]) v (by simp [hv])) _ s hmem

theorem foldl_of_settled (h : ∀ s ∈ signals, Settled m path s d) : signals.foldl (mendLines m path) d = d := by
  induction signals with
  | nil => rfl
  | cons t signals ih =>
    rw [List.foldl_cons, (h t (by simp)).mendLines_eq]
    exact ih fun u hu => h u (by simp [hu])

/-- The rules of signals in the order of their kinds change nothing when they are applied once more. -/
theorem foldl_foldl (hs : ∀ s ∈ signals, s.IsPlain) (hsorted : Sorted signals)
    (hspread : ∀ s ∈ signals, ∀ t ∈ signals, ¬ TakesSpread m s t) (d : List Line) :
    signals.foldl (mendLines m path) (signals.foldl (mendLines m path) d) = signals.foldl (mendLines m path) d :=
  foldl_of_settled (foldl_settled hs hsorted hspread d)

end

end Suitewright
