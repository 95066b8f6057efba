/-
  Sites and the texts before them.

  * `opener?_eq_some`, `opener?_front`: what an opener is;
  * `sitesAfter`: the sites of a source from a place on, told by the text before it;
  * `sitesAfter_flat`: a text without angle brackets has no site;
  * `sitesAfter_render`: where an element is written there is one, with the attributes that were written.
-/
import Suitewright.Proofs.Repair.Attributes
import Suitewright.Proofs.Text.Replaced

namespace Suitewright

open Text

/-! ## Openers -/

section
variable {component cs r u : List Char}

/-- An opener is `render(`, blanks and `<` with the component's name, where a word ends. -/
theorem opener?_eq_some : Site.opener? component cs = some r ↔
    ∃ blanks, blanks.all isBlank = true ∧ cs = "render(".toList ++ (blanks ++ ('<' :: component ++ r)) ∧
      atWordEdge (some (component.getLast?.getD '<')) r.head? = true := by
  have hskip : ∀ blanks, blanks.all isBlank = true →
      skipBlanks (blanks ++ ('<' :: component ++ r)) = '<' :: component ++ r := by
    intro blanks h
    rw [skipBlanks, List.dropWhile_append_of_pos (List.all_eq_true.1 h)]
    rfl
  simp only [Site.opener?, Option.bind_eq_bind, Option.bind_eq_some_iff, after?_eq_some, Option.ite_none_right_eq_some]
  constructor
  · rintro ⟨rest, rfl, r', hrest, hedge, h⟩
    obtain rfl := Option.some.inj h
    refine ⟨rest.takeWhile isBlank, List.all_takeWhile, ?_, hedge⟩
    rw [← hrest, skipBlanks, List.takeWhile_append_dropWhile]
  · rintro ⟨blanks, hblanks, rfl, hedge⟩
    exact ⟨_, rfl, r, hskip blanks hblanks, hedge, rfl⟩

/-- The same where what follows the opener ends as the whole text does. -/
theorem opener?_append_eq_some {x : List Char} : Site.opener? component (x ++ u) = some (r ++ u) ↔
    ∃ blanks, blanks.all isBlank = true ∧ x = "render(".toList ++ (blanks ++ ('<' :: component ++ r)) ∧
      atWordEdge (some (component.getLast?.getD '<')) (r ++ u).head? = true := by
  have hsplit : ∀ blanks, "render(".toList ++ (blanks ++ ('<' :: component ++ (r ++ u))) =
      "render(".toList ++ (blanks ++ ('<' :: component ++ r)) ++ u := fun blanks => by simp only [List.append_assoc]
  simp only [opener?_eq_some, hsplit, List.append_left_inj]

/-- Before what follows it an opener stands alone. -/
theorem opener?_front {o : List Char} (h : Site.opener? component (o ++ u) = some u) :
    ∃ blanks, blanks.all isBlank = true ∧ o = "render(".toList ++ (blanks ++ '<' :: component) ∧
      atWordEdge (some (component.getLast?.getD '<')) u.head? = true := by
  obtain ⟨blanks, hblanks, rfl, hedge⟩ := (opener?_append_eq_some (r := [])).1 h
  exact ⟨blanks, hblanks, by rw [List.append_nil], hedge⟩

/-- Without an angle bracket there is no opener. -/
theorem opener?_flat (h : '<' ∉ cs) : Site.opener? component cs = none := by
  rw [Option.eq_none_iff_forall_ne_some]
  intro r hr
  obtain ⟨blanks, -, rfl, -⟩ := opener?_eq_some.1 hr
  exact h (by simp)

theorem openerText_eq : openerText component = "render(".toList ++ '<' :: component := by
  have hopen : "render(<".toList = "render(".toList ++ ['<'] := by decide
  show "render(<".toList ++ component = _
  rw [hopen, List.append_assoc]
  rfl

/-- Where an opener's blanks stand nothing is rendered. -/
theorem render_not_behind {x blanks : List Char} (blanks' : List Char) (hx : x ≠ []) (hblanks : blanks.all isBlank = true) :
    x ++ ("render(".toList ++ blanks') ≠ "render(".toList ++ blanks := by
  intro h
  rw [← List.append_assoc] at h
  rcases List.append_eq_append_iff.1 h with ⟨t, hlong, -⟩ | ⟨t, hparts, rfl⟩
  · have hlength := congrArg List.length hlong
    have := List.length_pos_iff.2 hx
    simp only [List.length_append] at hlength
    omega
  · -- the parenthesis would be a blank
    have ht : t ≠ [] := by
      rintro rfl
      have := List.length_pos_iff.2 hx
      have hlength := congrArg List.length hparts
      simp only [List.length_append, List.length_nil] at hlength
      omega
    have hlast := congrArg List.getLast? hparts
    rw [getLast?_of_ne_nil (by decide), getLast?_of_ne_nil ht] at hlast
    cases List.all_eq_true.1 hblanks '(' (List.mem_append_left _ (List.mem_of_getLast? hlast.symm))

theorem bracket_not_mem_render {blanks : List Char} (h : blanks.all isBlank = true) : '<' ∉ "render(".toList ++ blanks := by
  rw [List.mem_append, not_or]
  exact ⟨by decide, not_mem_of_class h (by decide)⟩

/-- Before an opener no other one begins, unless there is an angle bracket. -/
theorem opener?_before (hu : '<' ∉ u) (v : List Char) :
    ∀ w, w <:+ u → w ≠ [] → Site.opener? component (w ++ (openerText component ++ v)) = none := by
  intro w hw hne
  rw [Option.eq_none_iff_forall_ne_some]
  intro r hr
  obtain ⟨blanks, hblanks, hsplit, -⟩ := opener?_eq_some.1 hr
  have hleft : '<' ∉ w ++ "render(".toList := by
    rw [List.mem_append, not_or]
    exact ⟨fun hmem => hu (hw.subset hmem), by decide⟩
  rw [openerText_eq, List.append_assoc, List.cons_append, ← List.append_assoc, ← List.append_assoc] at hsplit
  obtain ⟨hparts, -⟩ := eq_of_append_first hleft (bracket_not_mem_render hblanks) hsplit
  exact render_not_behind [] hne hblanks (by rw [List.append_nil, hparts])

end

/-! ## Sites from a place on -/

/-- The sites of a source from a place on, when `before` is the text before the place. -/
def sitesAfter (component before rest : List Char) : List Site :=
  Site.sitesFrom component 0 before.length (before.count '\n' + 1) rest

/-- The site of an element, told by the text before it, its opener and its attributes. -/
def siteAfter (before opener attributes : List Char) : Site where
  start := before.length
  stop := before.length + opener.length + attributes.length
  attributes := attributes
  line := before.count '\n' + 1

section
variable {component before opener u v a : List Char}

theorem findSites_eq_sitesAfter (source : List Char) (component : String) :
    findSites source component = sitesAfter component.toList [] source := rfl

theorem sitesAfter_pass (h : ∀ w, w <:+ u → w ≠ [] → Site.opener? component (w ++ v) = none) :
    sitesAfter component before (u ++ v) = sitesAfter component (before ++ u) v := by
  rw [sitesAfter, sitesFrom_pass h, sitesAfter, List.length_append, List.count_append, Nat.add_right_comm]

/-- A text without angle brackets has no site. -/
theorem sitesAfter_flat (h : '<' ∉ u) : sitesAfter component before u = [] := by
  have hpass : sitesAfter component before (u ++ []) = sitesAfter component (before ++ u) [] :=
    sitesAfter_pass fun w hw _ => opener?_flat (by rw [List.append_nil]; exact fun hmem => h (hw.subset hmem))
  rw [List.append_nil] at hpass
  rw [hpass]
  rfl

theorem siteHere?_after (before : List Char) (h : Site.opener? component (opener ++ v) = some v) :
    Site.siteHere? component before.length (before.count '\n' + 1) (opener ++ v) =
      (Site.openTag? 0 none v).map fun body => siteAfter before opener (Site.dropBlankEnd body) := by
  rw [Site.siteHere?, h]
  cases hbody : Site.openTag? 0 none v with
  | none =>
    simp only [Option.bind_eq_bind, Option.bind_some, hbody]
    rfl
  | some body =>
    simp only [Option.bind_eq_bind, Option.bind_some, hbody, List.length_append, Nat.add_sub_cancel]
    rfl

/-- At an opener there may be a site; the next one begins behind the opener. -/
theorem sitesAfter_opener (h : Site.opener? component (opener ++ v) = some v) (hne : opener ≠ []) :
    sitesAfter component before (opener ++ v) =
      ((Site.openTag? 0 none v).map fun body => siteAfter before opener (Site.dropBlankEnd body)).toList ++
        sitesAfter component (before ++ opener) v := by
  have hhere := siteHere?_after before h
  obtain ⟨c, o, rfl⟩ := List.exists_cons_of_ne_nil hne
  have hlength : Site.openerLength component (c :: o ++ v) - 1 = o.length := by
    rw [Site.openerLength, h]
    simp only [List.cons_append, List.length_cons, List.length_append]
    omega
  rw [List.cons_append] at hhere hlength ⊢
  rw [sitesAfter, Site.sitesFrom, hhere, hlength, sitesFrom_skip, sitesAfter]
  congr 2
  · simp only [List.length_append, List.length_cons]
    omega
  · rw [List.count_append, lineAfter_count]
    omega

/-- Where an element is written there is a site, with the attributes that were written. -/
theorem sitesAfter_render (hc : IsWord component) (ha : IsAttributes a) (hu : '<' ∉ u) (rest : List Char) :
    sitesAfter component before (u ++ (openerText component ++ (a ++ (" />".toList ++ rest)))) =
      siteAfter (before ++ u) (openerText component) a ::
        sitesAfter component (before ++ u ++ openerText component) (a ++ (" />".toList ++ rest)) := by
  have hbody : Site.openTag? 0 none (a ++ (" />".toList ++ rest)) = some (a ++ [' ']) := by
    rw [openTag?_append ha.balanced]
    rfl
  have hopener : Site.opener? component (openerText component ++ (a ++ (" />".toList ++ rest))) =
      some (a ++ (" />".toList ++ rest)) := by
    obtain ⟨w, hw⟩ : ∃ w, a ++ (" />".toList ++ rest) = ' ' :: w := ha.spaced ("/>".toList ++ rest)
    rw [hw, opener?_append hc]
  rw [sitesAfter_pass (opener?_before hu _), sitesAfter_opener hopener (List.cons_ne_nil _ _), hbody, Option.map_some, ha.trimmed]
  rfl

end

end Suitewright
