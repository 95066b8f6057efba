/-
  What the rule for missing properties makes of a suite.

  * `nearestLine?`: the site nearest to a line, by the lines of the sites alone;
  * `Line.inject`: a rendering line with one more attribute, unless it names it already;
  * `injectInto_cases`: all that an injection can do; `injectProp_textOf`: the rule is such an injection.
-/
import Suitewright.Proofs.Repair.Sites

namespace Suitewright

open Text

/-! ## The nearest line -/

/-- The nearer of two lines to a line, the first of them when both are as near. -/
def nearer (n : Int) (best k : Nat) : Nat :=
  if ((k : Int) - n).natAbs < ((best : Int) - n).natAbs then k else best

/-- The line nearest to a given one, the first of several; without a line the first one. -/
def nearestLine? (line : Option Int) : List Nat → Option Nat
  | [] => none
  | k :: rest =>
    match line with
    | none => some k
    | some n => some (rest.foldl (nearer n) k)

/-- A fold that keeps the best so far or takes the next one ends at one of them. -/
theorem foldl_mem {α : Type} {f : α → α → α} (hf : ∀ best t, f best t = best ∨ f best t = t) (best : α)
    (rest : List α) : rest.foldl f best ∈ best :: rest := by
  induction rest generalizing best with
  | nil => simp
  | cons t rest ih =>
    rw [List.foldl_cons]
    rcases List.mem_cons.1 (ih (f best t)) with h | h
    · rw [h]
      rcases hf best t with ht | ht <;> simp [ht]
    · simp [h]

theorem nearestLine?_mem {line : Option Int} {ks : List Nat} {k : Nat} (h : nearestLine? line ks = some k) :
    k ∈ ks := by
  cases ks with
  | nil => cases h
  | cons j rest =>
    cases line with
    | none => simp [Option.some.inj h]
    | some n =>
      obtain rfl := Option.some.inj h
      refine foldl_mem (fun best t => ?_) j rest
      rw [nearer]
      split
      · exact Or.inr rfl
      · exact Or.inl rfl

/-- Which site is nearest is told by the lines of the sites. -/
theorem nearestSite?_line (line : Option Int) (sites : List Site) :
    (nearestSite? line sites).map Site.line = nearestLine? line (sites.map Site.line) := by
  cases sites with
  | nil => rfl
  | cons s rest =>
    cases line with
    | none => rfl
    | some n =>
      have hfold : ∀ best : Site, (rest.foldl (fun best t =>
          if ((t.line : Int) - n).natAbs < ((best.line : Int) - n).natAbs then t else best) best).line =
            (rest.map Site.line).foldl (nearer n) best.line := by
        induction rest with
        | nil => exact fun _ => rfl
        | cons t rest ih =>
          intro best
          rw [List.foldl_cons, List.map_cons, List.foldl_cons, ih]
          congr 1
          rw [nearer]
          split <;> rfl
      exact congrArg some (hfold s)

theorem nearestSite?_mem {line : Option Int} {sites : List Site} {s : Site} (h : nearestSite? line sites = some s) :
    s ∈ sites := by
  cases sites with
  | nil => cases h
  | cons t rest =>
    cases line with
    | none => simp [Option.some.inj h]
    | some n =>
      obtain rfl := Option.some.inj h
      refine foldl_mem (fun best u => ?_) t rest
      split
      · exact Or.inr rfl
      · exact Or.inl rfl

/-! ## Rendering lines -/

/-- The numbers of the rendering lines, from a line on. -/
def renderLines : Nat → List Line → List Nat
  | _, [] => []
  | n, .render _ _ :: d => n :: renderLines (n + 1) d
  | n, _ :: d => renderLines (n + 1) d

theorem sitesOf_lines {component : List Char} (d : List Line) (index n : Nat) :
    (sitesOf component index n d).map Site.line = renderLines n d := by
  induction d generalizing index n with
  | nil => rfl
  | cons l d ih =>
    rw [sitesOf, List.map_append, ih]
    cases l <;> rfl

theorem mem_renderLines {d : List Line} {n k : Nat} (h : k ∈ renderLines n d) :
    ∃ d₁ spread attributes d₂, d = d₁ ++ .render spread attributes :: d₂ ∧ k = n + d₁.length := by
  induction d generalizing n with
  | nil => cases h
  | cons l d ih =>
    have hrest : k ∈ renderLines (n + 1) d →
        ∃ d₁ spread attributes d₂, l :: d = d₁ ++ .render spread attributes :: d₂ ∧ k = n + d₁.length := by
      intro h
      obtain ⟨d₁, spread, attributes, d₂, rfl, rfl⟩ := ih h
      exact ⟨l :: d₁, spread, attributes, d₂, rfl, by simp; omega⟩
    cases l with
    | render spread attributes =>
      rcases List.mem_cons.1 h with rfl | h
      · exact ⟨[], spread, attributes, d, rfl, rfl⟩
      · exact hrest h
    | _ => exact hrest h

/-! ## Injections -/

/-- A rendering line with one more attribute, unless it names it already. -/
def Line.inject (a : Attribute) : Line → Line
  | render spread attributes =>
    if namedIn a.name none (attributesText spread attributes) then render spread attributes
    else render spread (attributes ++ [a])
  | l => l

/-- The lines with an attribute injected into the rendering line nearest to a line. -/
def injectInto (a : Attribute) (line : Option Int) (d : List Line) : List Line :=
  match nearestLine? line (renderLines 1 d) with
  | some k => d.modify (k - 1) (Line.inject a)
  | none => d

theorem modify_append {α : Type} (f : α → α) (l₁ : List α) (x : α) (l₂ : List α) :
    (l₁ ++ x :: l₂).modify l₁.length f = l₁ ++ f x :: l₂ := by
  induction l₁ with
  | nil => rfl
  | cons y l₁ ih => simpa using ih

/-- All that an injection can do: nothing, or change one rendering line. -/
theorem injectInto_cases (a : Attribute) (line : Option Int) (d : List Line) :
    (nearestLine? line (renderLines 1 d) = none ∧ injectInto a line d = d) ∨
      ∃ d₁ spread attributes d₂, d = d₁ ++ .render spread attributes :: d₂ ∧
        nearestLine? line (renderLines 1 d) = some (1 + d₁.length) ∧
        injectInto a line d = d₁ ++ (Line.render spread attributes).inject a :: d₂ := by
  rw [injectInto]
  cases hk : nearestLine? line (renderLines 1 d) with
  | none => exact Or.inl ⟨rfl, rfl⟩
  | some k =>
    obtain ⟨d₁, spread, attributes, d₂, rfl, rfl⟩ := mem_renderLines (nearestLine?_mem hk)
    refine Or.inr ⟨d₁, spread, attributes, d₂, rfl, rfl, ?_⟩
    have hlength : 1 + d₁.length - 1 = d₁.length := by omega
    dsimp only
    rw [hlength, modify_append]

theorem Line.inject_formed {component : List Char} {a : Attribute} {l : Line} (h : l.Formed component)
    (ha : a.Formed) : (l.inject a).Formed component := by
  cases l with
  | render spread attributes =>
    rw [inject]
    split
    · exact h
    · intro b hb
      rcases List.mem_append.1 hb with hb | hb
      · exact h b hb
      · obtain rfl := List.mem_singleton.1 hb
        exact ha
  | _ => exact h

theorem injectInto_formed {component : List Char} {a : Attribute} {line : Option Int} {d : List Line}
    (hd : ∀ l ∈ d, l.Formed component) (ha : a.Formed) : ∀ l ∈ injectInto a line d, l.Formed component := by
  rcases injectInto_cases a line d with ⟨-, h⟩ | ⟨d₁, spread, attributes, d₂, rfl, -, h⟩
  · rw [h]
    exact hd
  · intro l hl
    rw [h] at hl
    rcases List.mem_append.1 hl with hl | hl
    · exact hd l (List.mem_append_left _ hl)
    · rcases List.mem_cons.1 hl with rfl | hl
      · exact Line.inject_formed (hd _ (by simp)) ha
      · exact hd l (by simp [hl])

/-- The site that a missing property is injected at. -/
theorem nearestSite?_textOf {name : String} (hc : IsWord name.toList) {d : List Line}
    (hd : ∀ l ∈ d, l.Formed name.toList) (line : Option Int) :
    (nearestLine? line (renderLines 1 d) = none ∧
        nearestSite? line (findSites (Line.textOf name.toList d) name) = none) ∨
      ∃ d₁ spread attributes d₂, d = d₁ ++ .render spread attributes :: d₂ ∧
        nearestLine? line (renderLines 1 d) = some (1 + d₁.length) ∧
        nearestSite? line (findSites (Line.textOf name.toList d) name) =
          some (renderSite name.toList (Line.textOf name.toList d₁).length (1 + d₁.length) spread attributes) := by
  have hline := nearestSite?_line line (sitesOf name.toList 0 1 d)
  rw [sitesOf_lines] at hline
  rw [findSites_textOf hc hd]
  cases hs : nearestSite? line (sitesOf name.toList 0 1 d) with
  | none =>
    rw [hs] at hline
    exact Or.inl ⟨hline.symm, rfl⟩
  | some s =>
    obtain ⟨d₁, spread, attributes, d₂, hd₁, rfl⟩ := mem_sitesOf (nearestSite?_mem hs)
    rw [hs] at hline
    refine Or.inr ⟨d₁, spread, attributes, d₂, hd₁, hline.symm, ?_⟩
    rw [Nat.zero_add]

/-- The text of a rendering line up to the end of its attributes. -/
def renderText (component : List Char) (spread : Bool) (attributes : List Attribute) : List Char :=
  bodyIndent ++ (openerText component ++ attributesText spread attributes)

theorem attributesText_concat (spread : Bool) (attributes : List Attribute) (a : Attribute) :
    attributesText spread (attributes ++ [a]) = attributesText spread attributes ++ ' ' :: a.chars := by
  simp [attributesText]

theorem renderText_concat (component : List Char) (spread : Bool) (attributes : List Attribute) (a : Attribute) :
    renderText component spread (attributes ++ [a]) = renderText component spread attributes ++ ' ' :: a.chars := by
  rw [renderText, renderText, attributesText_concat, List.append_assoc, List.append_assoc]

theorem textOf_render (component : List Char) (d₁ : List Line) (spread : Bool) (attributes : List Attribute)
    (d₂ : List Line) : Line.textOf component (d₁ ++ .render spread attributes :: d₂) =
      (Line.textOf component d₁ ++ renderText component spread attributes) ++
        (" />);".toList ++ '\n' :: Line.textOf component d₂) := by
  have hopen : "        render(<".toList = bodyIndent ++ "render(<".toList := by decide
  have hopener : openerText component = "render(<".toList ++ component := rfl
  rw [Line.textOf, Line.textOf, Line.textOf, List.map_append, joinLines_append, List.map_cons, joinLines_cons,
    Line.chars_render, renderText, hopen, hopener]
  simp only [List.append_assoc]

theorem take_drop_length {u v w : List Char} {n : Nat} (h : n = u.length) :
    (u ++ v).take n ++ w ++ (u ++ v).drop n = u ++ (w ++ v) := by
  rw [h, List.take_left, List.drop_left, List.append_assoc]

/-- What the rule for missing properties makes of a suite. -/
theorem injectProp_textOf {m : Component} {prop : String} {a : Attribute} (hc : IsWord m.displayName.toList)
    {d : List Line} (hd : ∀ l ∈ d, l.Formed m.displayName.toList) (hname : a.name = prop.toList)
    (hchars : a.chars = (defaultAttribute m prop).toList) (line : Option Int) :
    injectProp m prop line (Line.textOf m.displayName.toList d) =
      Line.textOf m.displayName.toList (injectInto a line d) := by
  have hinjection := nearestSite?_textOf hc hd line
  rcases injectInto_cases a line d with ⟨hnone, hsame⟩ | ⟨d₁, spread, attributes, d₂, heq, hk, hinto⟩
  · rcases hinjection with ⟨-, hs⟩ | ⟨_, _, _, _, -, hs, -⟩
    · rw [hsame, injectProp, injection?, hs]
      rfl
    · rw [hnone] at hs
      cases hs
  · rcases hinjection with ⟨hs, -⟩ | ⟨e₁, spread', attributes', e₂, heq', hk', hs⟩
    · rw [hk] at hs
      cases hs
    · -- both find the same line
      have hlength : d₁.length = e₁.length := by
        rw [hk, Option.some.injEq] at hk'
        omega
      obtain ⟨rfl, hcons⟩ := List.append_inj (heq.symm.trans heq') hlength
      obtain ⟨hrender, rfl⟩ := List.cons.inj hcons
      obtain ⟨rfl, rfl⟩ := Line.render.inj hrender
      have hfound : injection? m prop line (Line.textOf m.displayName.toList d) =
          if namedIn prop.toList none (attributesText spread attributes) then none
          else some (renderSite m.displayName.toList (Line.textOf m.displayName.toList d₁).length (1 + d₁.length) spread
            attributes, defaultAttribute m prop) := by
        rw [injection?, hs]
        rfl
      rw [hinto, Line.inject, injectProp, hfound, hname]
      by_cases hnamed : namedIn prop.toList none (attributesText spread attributes) = true
      · rw [if_pos hnamed, if_pos hnamed, ← heq]
      · have hstop : (renderSite m.displayName.toList (Line.textOf m.displayName.toList d₁).length (1 + d₁.length) spread
            attributes).stop =
              (Line.textOf m.displayName.toList d₁ ++ renderText m.displayName.toList spread attributes).length := by
          have hindent : bodyIndent.length = 8 := by decide
          simp only [renderSite, renderText, List.length_append, hindent]
          omega
        rw [if_neg hnamed, if_neg hnamed]
        dsimp only
        rw [← hchars, heq, textOf_render, textOf_render, renderText_concat, take_drop_length hstop]
        simp only [List.append_assoc, List.cons_append]

end Suitewright
