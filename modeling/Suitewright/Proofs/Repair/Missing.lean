/-
  The rule for missing properties, whatever the suite.

  * `nearestSite?_eq_argmin`: the site that the rule changes; `argmin_sites`: the first of those nearest to a line;
  * `defaultOf`: the default of a property as an attribute; `defaultOf_insertable`: it can be inserted, if it is clear;
  * `IsCut`: how a suite is cut at a site; `IsCut.concat`, `IsCut.mem`: the site with one more attribute;
  * `named_behind`: what is read on through an attribute names it;
  * `missingProp_local`: the rule changes the nearest site and nothing else, and with a compact name of the component it
    changes nothing a second time.
-/
import Mathlib.Data.List.MinMax
import Suitewright.Proofs.Repair.Ending
import Suitewright.Proofs.Repair.Naming
import Suitewright.Proofs.Repair.Neighbours
import Suitewright.Proofs.Suite.Foreign

namespace Suitewright

open Text

/-! ## The nearest site -/

/-- How far a site is from a line; without a line no site is far. -/
def Site.distance (line : Option Int) (s : Site) : Nat :=
  match line with
  | none => 0
  | some n => ((s.line : Int) - n).natAbs

section
variable {line : Option Int} {s t : Site}

theorem distance_of_line (line : Option Int) (h : s.line = t.line) : s.distance line = t.distance line := by
  simp only [Site.distance, h]

theorem foldl_nearer (n : Int) (best : Site) (rest : List Site) :
    rest.foldl (List.argAux fun t best => t.distance (some n) < best.distance (some n)) (some best) =
      some (rest.foldl (fun best t =>
        if ((t.line : Int) - n).natAbs < ((best.line : Int) - n).natAbs then t else best) best) := by
  induction rest generalizing best with
  | nil => rfl
  | cons t rest ih =>
    rw [List.foldl_cons, List.foldl_cons, ← ih]
    congr 1
    exact (apply_ite some _ _ _).symm

theorem foldl_first (best : Site) (rest : List Site) :
    rest.foldl (List.argAux fun t best => t.distance none < best.distance none) (some best) = some best := by
  induction rest with
  | nil => rfl
  | cons t rest ih => exact ih

/-- The site that the rule changes is the first of those that are nearest to the line. -/
theorem nearestSite?_eq_argmin (line : Option Int) (sites : List Site) :
    nearestSite? line sites = sites.argmin (Site.distance line) := by
  cases sites with
  | nil => rfl
  | cons s rest =>
    cases line with
    | none => exact (foldl_first s rest).symm
    | some n => exact (foldl_nearer n s rest).symm

variable {source : List Char} {component : String}

/-- Of two sites of a text the one that comes first begins first. -/
theorem start_lt_of_idxOf (hs : s ∈ findSites source component) (ht : t ∈ findSites source component)
    (h : (findSites source component).idxOf s < (findSites source component).idxOf t) : s.start < t.start := by
  have hsorted : (findSites source component).Pairwise fun s t => s.start < t.start := sitesFrom_sorted
  have := List.pairwise_iff_getElem.1 hsorted _ _ (List.idxOf_lt_length_of_mem hs) (List.idxOf_lt_length_of_mem ht) h
  rwa [List.getElem_idxOf, List.getElem_idxOf] at this

theorem idxOf_le_iff (hs : s ∈ findSites source component) (ht : t ∈ findSites source component) :
    (findSites source component).idxOf s ≤ (findSites source component).idxOf t ↔ s.start ≤ t.start := by
  constructor
  · intro hle
    rcases Nat.lt_or_eq_of_le hle with hlt | heq
    · exact Nat.le_of_lt (start_lt_of_idxOf hs ht hlt)
    · rw [(List.idxOf_inj hs).1 heq]
  · intro hle
    rw [← Nat.not_lt]
    intro hlt
    have := start_lt_of_idxOf ht hs hlt
    omega

/-- Sites of a text that begin at one place are the same. -/
theorem eq_of_start (hs : s ∈ findSites source component) (ht : t ∈ findSites source component) (h : s.start = t.start) :
    s = t :=
  (List.idxOf_inj hs).1 (Nat.le_antisymm ((idxOf_le_iff hs ht).2 (Nat.le_of_eq h)) ((idxOf_le_iff ht hs).2 (Nat.le_of_eq h.symm)))

/-- Among the sites of a text the first of several is the one that begins first. -/
theorem argmin_sites : (findSites source component).argmin (Site.distance line) = some s ↔
    s ∈ findSites source component ∧ (∀ t ∈ findSites source component, s.distance line ≤ t.distance line) ∧
      ∀ t ∈ findSites source component, t.distance line ≤ s.distance line → s.start ≤ t.start := by
  rw [List.argmin_eq_some_iff]
  refine and_congr_right fun hs => and_congr_right fun _ => forall_congr' fun t => imp_congr_right fun ht => ?_
  exact imp_congr_right fun _ => idxOf_le_iff hs ht

end

/-! ## Default attributes -/

/-- Attributes that can be inserted into an element: their name is a hyphenated word, and they hold neither an angle bracket
nor a line feed. -/
structure Attribute.Insertable (a : Attribute) : Prop extends a.Sealed where
  named_word : IsName a.name
  flat : '<' ∉ a.chars
  unbroken : '\n' ∉ a.chars

/-- The default of a property of a component as an attribute, whatever the property's type. -/
def defaultOf (m : Component) (prop : String) : Attribute :=
  match m.prop? prop with
  | some p => p.written
  | none => namedAttribute prop

/-- Defaults that hold no quote, no angle bracket and no line feed, if they are texts. -/
def ClearDefault (m : Component) (prop : String) : Prop :=
  ∀ p, m.prop? prop = some p → ∀ v, p.literal? = some v → '"' ∉ v.toList ∧ '<' ∉ v.toList ∧ '\n' ∉ v.toList

section
variable {m : Component} {prop : String}

theorem defaultOf_chars (hname : IsName prop.toList) : (defaultOf m prop).chars = (defaultAttribute m prop).toList := by
  rw [defaultOf, defaultAttribute]
  cases m.prop? prop with
  | some p => exact p.inlineDefault_toList.symm
  | none => exact namedAttribute_chars hname.2

theorem defaultOf_name (m : Component) (prop : String) : (defaultOf m prop).name = prop.toList := by
  rw [defaultOf]
  cases hp : m.prop? prop with
  | some p => exact p.written_name.trans (congrArg String.toList (prop?_mem hp).2)
  | none => exact namedAttribute_name prop

theorem defaultOf_sealed (hname : IsName prop.toList) (hclear : ClearDefault m prop) : (defaultOf m prop).Sealed := by
  rw [defaultOf]
  cases hp : m.prop? prop with
  | some p =>
    obtain rfl := (prop?_mem hp).2
    exact p.written_sealed hname.1 (all_firm_of_nameChar hname.2) fun v hv => (hclear p hp v hv).1
  | none => exact (namedAttribute_formed hname.1 hname.2).sealed

theorem lacks_name {x : Char} (hx : x ∈ foreign) (hname : IsName prop.toList) : Lacks x prop := by
  have htable : ∀ x ∈ foreign, isNameChar x = false := forall_foreign.2 (by decide)
  exact not_mem_of_class hname.2 (htable x hx)

/-- A clear default holds no foreign character. -/
theorem lacks_defaultAttribute {x : Char} (hx : x ∈ foreign) (hname : IsName prop.toList) (hclear : ClearDefault m prop) :
    Lacks x (defaultAttribute m prop) := by
  have hprop := lacks_name hx hname
  rw [defaultAttribute]
  cases hp : m.prop? prop with
  | some p =>
    obtain rfl := (prop?_mem hp).2
    refine .inlineDefault hx hprop fun hfunction hboolean hnumeric => ?_
    obtain ⟨-, hbracket, hline⟩ := hclear p hp _ (PropSpec.literal?_eq_some hfunction hboolean hnumeric)
    simp only [foreign, List.mem_cons, List.not_mem_nil, or_false] at hx
    rcases hx with rfl | rfl
    · exact hline
    · exact hbracket
  | none => exact hprop.namedDefault hx

theorem defaultOf_insertable (hname : IsName prop.toList) (hclear : ClearDefault m prop) : (defaultOf m prop).Insertable := by
  have hlacks : ∀ x ∈ foreign, x ∉ (defaultOf m prop).chars := fun x hx => by
    rw [defaultOf_chars hname]
    exact lacks_defaultAttribute hx hname hclear
  exact ⟨defaultOf_sealed hname hclear, by rwa [defaultOf_name], hlacks '<' (by decide), hlacks '\n' (by decide)⟩

end

/-! ## Cuts -/

/-- How a text is cut at a site: the opener, the attributes up to the blanks at their end, and the rest. -/
structure IsCut (component o a w : List Char) : Prop where
  opener : Site.opener? component (o ++ (a ++ w)) = some (a ++ w)
  body : ∃ blanks, blanks.all isBlank = true ∧ Site.openTag? 0 none (a ++ w) = some (a ++ blanks)
  trimmed : Site.dropBlankEnd a = a

section
variable {component b o a w u body : List Char} {depth : Int} {quote : Option Char} {added : Attribute}

/-- At each site a text can be cut. -/
theorem exists_cut {source : List Char} {component : String} {s : Site} (h : s ∈ findSites source component) :
    ∃ b o a w, source = b ++ (o ++ (a ++ w)) ∧ s = siteAfter b o a ∧ IsCut component.toList o a w := by
  obtain ⟨b, v, rfl, -, hsite⟩ := mem_sitesFrom h
  obtain ⟨r, body, hr, hbody, rfl⟩ := siteHere?_eq_some.1 hsite
  obtain ⟨blanks', -, hsplit, -⟩ := opener?_eq_some.1 hr
  obtain ⟨o, rfl⟩ : ∃ o, v = o ++ r := ⟨"render(".toList ++ (blanks' ++ '<' :: component.toList), by
    rw [hsplit]
    simp only [List.append_assoc, List.cons_append]⟩
  obtain ⟨blanks, hblanks, hparts⟩ := exists_blanks body
  obtain ⟨close, rfl⟩ : ∃ close, r = body ++ close := by
    obtain ⟨rest, rfl | rfl⟩ := exists_close hbody
    · exact ⟨_, rfl⟩
    · exact ⟨_, rfl⟩
  have hrest : body ++ close = Site.dropBlankEnd body ++ (blanks ++ close) := by
    rw [← List.append_assoc, ← hparts]
  refine ⟨b, o, Site.dropBlankEnd body, blanks ++ close, by rw [hrest], ?_, ?_, ⟨blanks, hblanks, ?_⟩, ?_⟩
  · rw [siteAfter, @List.length_append _ o, Nat.add_sub_cancel, Nat.zero_add, Nat.add_comm 1]
  · rwa [← hrest]
  · rw [← hrest, ← hparts]
    exact hbody
  · conv_rhs => rw [hparts, dropBlankEnd_append_blanks hblanks]

namespace IsCut

/-- What follows the attributes closes the element behind blanks. -/
theorem ends (h : IsCut component o a w) : ∃ blanks close rest, w = blanks ++ close ∧ blanks.all isBlank = true ∧
    Site.openTag? 0 none (a ++ w) = some (a ++ blanks) ∧ (close = '>' :: rest ∨ close = '/' :: '>' :: rest) := by
  obtain ⟨blanks, hblanks, hbody⟩ := h.body
  obtain ⟨rest, hw | hw⟩ := exists_close hbody
  · rw [List.append_assoc] at hw
    exact ⟨blanks, _, rest, List.append_cancel_left hw, hblanks, hbody, Or.inl rfl⟩
  · rw [List.append_assoc] at hw
    exact ⟨blanks, _, rest, List.append_cancel_left hw, hblanks, hbody, Or.inr rfl⟩

theorem gap (h : IsCut component o a w) : IsGap w := by
  obtain ⟨blanks, _, rest, rfl, hblanks, -, rfl | rfl⟩ := h.ends
  · exact ⟨blanks, '>', rest, rfl, hblanks, rfl, by decide, fun _ => Or.inl rfl⟩
  · exact ⟨blanks, '/', '>' :: rest, rfl, hblanks, rfl, by decide, fun _ => Or.inr ⟨rfl, rfl⟩⟩

/-- What follows the attributes does not close the element together with their last character. -/
theorem follows (h : IsCut component o a w) : MayFollow a w := by
  obtain ⟨blanks, close, rest, rfl, hblanks, hbody, -⟩ := h.ends
  intro hlast hhead
  cases blanks with
  | nil =>
    obtain ⟨u, rfl⟩ := List.getLast?_eq_some_iff.1 hlast
    rw [List.append_nil, List.append_assoc] at hbody
    exact not_close_behind rfl hbody hhead
  | cons d blanks =>
    obtain rfl : d = '>' := Option.some.inj hhead
    cases List.all_eq_true.1 hblanks '>' (by simp)

/-- The same of the whole text before the end of the attributes, as no opener before a gap ends with `/`. -/
theorem all_follows (h : IsCut component o a w) (b : List Char) : MayFollow (b ++ (o ++ a)) w := by
  intro hlast
  cases a with
  | nil =>
    obtain ⟨blanks, -, rfl, hedge⟩ := opener?_front h.opener
    have hparts : b ++ ("render(".toList ++ (blanks ++ '<' :: component) ++ []) =
        (b ++ ("render(".toList ++ blanks)) ++ '<' :: component := by simp
    rw [hparts, getLast?_of_ne_nil (List.cons_ne_nil _ _), List.getLast?_cons, Option.some.injEq] at hlast
    rw [hlast, List.nil_append, atWordEdge, h.gap.not_word] at hedge
    cases hedge
  | cons c a =>
    refine h.follows ?_
    rwa [← List.append_assoc, getLast?_of_ne_nil (List.cons_ne_nil c a)] at hlast

/-- The attributes are read through, whatever follows them. -/
theorem through (h : IsCut component o a w) (hu : MayFollow a u) :
    Site.openTag? 0 none (a ++ u) = (Site.openTag? 0 none u).map (a ++ ·) := by
  obtain ⟨blanks, close, rest, rfl, hblanks, hbody, -⟩ := h.ends
  rcases openTag?_within 0 none a with ⟨e, hlength, he⟩ | hpass
  · rw [he _ h.follows] at hbody
    have := congrArg List.length (Option.some.inj hbody)
    rw [List.length_append] at this
    omega
  · have hplain : ∀ c ∈ blanks, c ≠ '>' ∧ c ≠ '/' := fun c hc =>
      have hblank := List.all_eq_true.1 hblanks c hc
      ⟨ne_of_class hblank rfl, ne_of_class hblank rfl⟩
    have hquote : (turns 0 none a).2.all Site.isQuote = true := turns_quote rfl
    rw [hpass _ h.follows, openTag?_through hplain, turns_blanks hblanks hquote, Option.map_map] at hbody
    obtain ⟨e, he, hparts⟩ := Option.map_eq_some_iff.1 hbody
    obtain rfl : e = [] := by simpa using hparts
    obtain ⟨hdepth, hnone⟩ := Prod.mk.inj (openTag?_nil he)
    rw [hpass u hu, hdepth, hnone]

theorem closed (h : IsCut component o a w) :
    ∃ blanks, blanks.all isBlank = true ∧ Site.openTag? 0 none w = some blanks := by
  obtain ⟨blanks, hblanks, hbody⟩ := h.body
  rw [h.through h.follows] at hbody
  obtain ⟨e, he, hparts⟩ := Option.map_eq_some_iff.1 hbody
  exact ⟨blanks, hblanks, by rw [he, List.append_cancel_left hparts]⟩

/-- A cut tells the site. -/
theorem siteHere (h : IsCut component o a w) :
    Site.siteHere? component b.length (b.count '\n' + 1) (o ++ (a ++ w)) = some (siteAfter b o a) := by
  obtain ⟨blanks, hblanks, hbody⟩ := h.body
  rw [siteHere?_after b h.opener, hbody, Option.map_some, dropBlankEnd_append_blanks hblanks, h.trimmed]

end IsCut

/-! ## One more attribute -/

/-- An attribute without angle brackets makes a gap. -/
theorem gap_attribute (ha : added.Insertable) (w : List Char) : IsGap (' ' :: added.chars ++ w) := by
  obtain ⟨r, hchars, -⟩ := added.chars_name
  obtain ⟨c, n, hn⟩ := List.exists_cons_of_ne_nil ha.named
  have hc : isFirm c = true := List.all_eq_true.1 ha.firm c (by simp [hn])
  rw [isFirm, Bool.and_eq_true, Bool.not_eq_true'] at hc
  have hflat := ha.flat
  rw [hchars, hn] at hflat ⊢
  refine ⟨[' '], c, _, rfl, rfl, hc.2, ?_, fun h => absurd h (List.cons_ne_nil _ _)⟩
  rintro rfl
  exact hflat (by simp)

/-- What is read on through an attribute names it. -/
theorem named_behind (ha : added.Insertable) (hw : IsGap w)
    (h : Site.openTag? depth quote (' ' :: added.chars ++ w) = some body) (u : List Char) :
    namedIn added.name none (Site.dropBlankEnd (u ++ body)) = true := by
  obtain ⟨r, hchars, hr⟩ := added.chars_name
  have hplain : ∀ c ∈ ' ' :: added.name, c ≠ '>' ∧ c ≠ '/' := by
    rw [List.forall_mem_cons]
    refine ⟨by decide, fun c hc => ?_⟩
    have hinert := List.all_eq_true.1 (all_inert_of_firm ha.firm) c hc
    exact ⟨ne_of_class hinert rfl, ne_of_class hinert rfl⟩
  have hsplit : ' ' :: added.chars ++ w = (' ' :: added.name) ++ (r ++ w) := by rw [hchars]; simp
  rw [hsplit, openTag?_through hplain] at h
  obtain ⟨body', hbody', rfl⟩ := Option.map_eq_some_iff.1 h
  have hnext : (r ++ w).head?.any isNameChar = false := by
    rcases hr with rfl | hr
    · exact hw.not_name
    · rw [List.head?_append, hr]
      rfl
  obtain ⟨n, c, hn⟩ : ∃ n c, added.name = n ++ [c] :=
    ⟨_, _, (List.dropLast_concat_getLast ha.named).symm⟩
  have hc : isBlank c = false := isBlank_of_isNameChar (List.all_eq_true.1 ha.named_word.2 c (by simp [hn]))
  have hdropped : Site.dropBlankEnd (u ++ (' ' :: added.name ++ body')) =
      (u ++ [' ']) ++ (added.name ++ Site.dropBlankEnd body') := by
    have hbehind := dropBlankEnd_behind (u ++ ' ' :: n) hc body'
    rw [hn]
    simpa using hbehind
  rw [hdropped, namedIn_iff_exists]
  exact ⟨u ++ [' '], Site.dropBlankEnd body', rfl, by rw [List.getLast?_concat]; rfl, dropBlankEnd_front hbody' hnext⟩

/-- The cut with one more attribute. -/
theorem IsCut.concat (h : IsCut component o a w) (ha : added.Insertable) :
    IsCut component o (a ++ ' ' :: added.chars) w := by
  have hgap := gap_attribute ha w
  refine ⟨?_, ?_, ?_⟩
  · have hopener := h.opener
    rw [← List.append_assoc] at hopener
    have := opener?_replace (fun _ => h.gap.not_word.trans hgap.not_word.symm) hopener
    rwa [List.append_assoc, ← List.append_assoc a] at this
  · obtain ⟨blanks, hblanks, hclosed⟩ := h.closed
    have hspace : MayFollow a (' ' :: added.chars ++ w) := fun _ => by simp
    refine ⟨blanks, hblanks, ?_⟩
    rw [List.append_assoc, h.through hspace, openTag?_append ha.balanced, hclosed]
    simp only [Option.map_some, List.append_assoc]
  · obtain ⟨v, c, hchars, hc⟩ := ha.last
    have hlast : Site.dropBlankEnd ((a ++ ' ' :: v) ++ [c]) = (a ++ ' ' :: v) ++ [c] := dropBlankEnd_behind _ hc []
    rw [hchars]
    simpa using hlast

/-- The site with one more attribute is a site of the changed text. -/
theorem IsCut.mem {component : String} (h : IsCut component.toList o a w) (ha : added.Insertable)
    (hs : siteAfter b o a ∈ findSites (b ++ (o ++ (a ++ w))) component) :
    siteAfter b o (a ++ ' ' :: added.chars) ∈ findSites (b ++ (o ++ (a ++ ' ' :: added.chars ++ w))) component := by
  have hcut := h.concat ha
  refine sitesFrom_ahead h.opener hcut.opener hs (Nat.zero_add _).symm ?_
  rw [Nat.zero_add, Nat.add_comm 1]
  exact hcut.siteHere

/-- The site with one more attribute names it. -/
theorem IsCut.named (h : IsCut component o a w) (ha : added.Insertable) :
    namedIn added.name none (a ++ ' ' :: added.chars) = true := by
  obtain ⟨blanks, hblanks, hclosed⟩ := h.closed
  have hadded : Site.openTag? 0 none (' ' :: added.chars ++ w) = some (' ' :: added.chars ++ blanks) := by
    rw [openTag?_append ha.balanced, hclosed]
    rfl
  have hnamed := named_behind ha h.gap hadded a
  rwa [← List.append_assoc, dropBlankEnd_append_blanks hblanks, (h.concat ha).trimmed] at hnamed

/-- After an insertion at the nearest site the nearest one names the attribute, if the component has a compact name. -/
theorem IsCut.nearest_named {component : String} {line : Option Int} (h : IsCut component.toList o a w)
    (hc : IsCompact component.toList) (ha : added.Insertable)
    (hs : (findSites (b ++ (o ++ (a ++ w))) component).argmin (Site.distance line) = some (siteAfter b o a)) {t : Site}
    (ht : (findSites (b ++ (o ++ (a ++ ' ' :: added.chars ++ w))) component).argmin (Site.distance line) = some t) :
    namedIn added.name none t.attributes = true := by
  obtain ⟨hs, hsnear, hsfirst⟩ := argmin_sites.1 hs
  obtain ⟨ht, htnear, htfirst⟩ := argmin_sites.1 ht
  have hs' := h.mem ha hs
  have hlength : b.length < (b ++ (o ++ a)).length := by
    obtain ⟨blanks, -, rfl, -⟩ := opener?_front h.opener
    simp only [List.length_append, List.length_cons]
    omega
  have hspace : MayFollow (b ++ (o ++ a)) (' ' :: added.chars ++ w) := fun _ => by simp
  have hmem := ht
  have hsource : b ++ (o ++ (a ++ ' ' :: added.chars ++ w)) = (b ++ (o ++ a)) ++ (' ' :: added.chars ++ w) := by
    simp only [List.append_assoc]
  have hold : b ++ (o ++ (a ++ w)) = (b ++ (o ++ a)) ++ w := by simp only [List.append_assoc]
  have hdistance := htnear _ hs'
  have hstart := htfirst _ hs'
  rw [hsource] at hmem
  rcases sitesFrom_gap hc h.gap (gap_attribute ha w) (by simpa using ha.flat) (by simpa using ha.unbroken)
      (h.all_follows b) hspace (Nat.zero_le _) hmem with hmem | ⟨s, hmem, hlines, hbehind, hbehind'⟩ | ⟨u, depth, quote, body, hbody, hattributes⟩
  · -- a site of the old text is not nearer than the changed one, and does not come before it
    rw [← hold] at hmem
    have hle := hsnear t hmem
    have hle' := hsfirst t hmem hdistance
    rw [eq_of_start ht hs' (Nat.le_antisymm (hstart hle) hle')]
    exact h.named ha
  · -- behind the insertion no site is nearer than the changed one
    rw [← hold] at hmem
    have hle : (siteAfter b o a).distance line ≤ t.distance line := by
      rw [← distance_of_line line hlines]
      exact hsnear s hmem
    have : t.start ≤ b.length := hstart hle
    omega
  · rw [hattributes]
    exact named_behind ha h.gap hbody u

end

/-! ## The rule -/

section
variable {m : Component} {prop : String} {line : Option Int} {source : List Char}

/-- Without a site that lacks the property nothing changes. -/
theorem injectProp_same (h : ∀ s, (findSites source m.displayName).argmin (Site.distance line) = some s →
    hasAttribute s.attributes prop = true) : injectProp m prop line source = source := by
  rw [injectProp, injection?, nearestSite?_eq_argmin]
  cases hs : (findSites source m.displayName).argmin (Site.distance line) with
  | none => rfl
  | some s =>
    rw [Option.bind_eq_bind, Option.bind_some, h s hs]
    rfl

/-- At a site that lacks the property its default is inserted. -/
theorem injectProp_cut {b o a w : List Char}
    (hs : (findSites (b ++ (o ++ (a ++ w))) m.displayName).argmin (Site.distance line) = some (siteAfter b o a))
    (hlacks : ¬hasAttribute a prop = true) :
    injectProp m prop line (b ++ (o ++ (a ++ w))) = b ++ (o ++ (a ++ ' ' :: (defaultAttribute m prop).toList ++ w)) := by
  have hstop : (siteAfter b o a).stop = (b ++ (o ++ a)).length := by
    simp only [siteAfter, List.length_append, Nat.add_assoc]
  have hsplit : b ++ (o ++ (a ++ w)) = (b ++ (o ++ a)) ++ w := by simp only [List.append_assoc]
  have hfound : injection? m prop line (b ++ (o ++ (a ++ w))) = some (siteAfter b o a, defaultAttribute m prop) := by
    rw [injection?, nearestSite?_eq_argmin, hs]
    exact if_neg hlacks
  rw [injectProp, hfound]
  dsimp only
  rw [hsplit, take_drop_length hstop]
  simp only [List.append_assoc]

end

/-- The rule for a missing property changes nothing without a site or if the nearest site has the property; otherwise it
inserts a space and the default at the end of that site's attributes. The site is there afterwards with the property, if
this has a hyphenated word as its name and its default is clear, and with a compact name of the component the rule changes
nothing a second time. -/
theorem missingProp_local (m : Component) (path prop : String) (line : Option Int) (source : String) :
    ∃ revised, (Signal.missingProp prop line).mend source m path = .ok revised ∧
      (findSites source.toList m.displayName = [] ∧ revised = source ∨
        ∃ s, (findSites source.toList m.displayName).argmin (Site.distance line) = some s ∧
          if hasAttribute s.attributes prop then revised = source
          else
            (∃ before after, source.toList = before ++ after ∧ before.length = s.stop ∧
              revised.toList = before ++ (' ' :: (defaultAttribute m prop).toList ++ after)) ∧
            (IsName prop.toList → ClearDefault m prop → ∃ s' ∈ findSites revised.toList m.displayName,
              s'.start = s.start ∧ s'.attributes = s.attributes ++ ' ' :: (defaultAttribute m prop).toList ∧
                hasAttribute s'.attributes prop = true)) ∧
      (IsName prop.toList → ClearDefault m prop → IsCompact m.displayName.toList →
        (Signal.missingProp prop line).mend revised m path = .ok revised) := by
  have hmend : ∀ text : String, (Signal.missingProp prop line).mend text m path =
      .ok (.ofList (injectProp m prop line text.toList)) := fun _ => rfl
  have hsame : ∀ text : String, injectProp m prop line text.toList = text.toList →
      (Signal.missingProp prop line).mend text m path = .ok text := by
    intro text h
    rw [hmend, h, String.ofList_toList]
  cases hs : (findSites source.toList m.displayName).argmin (Site.distance line) with
  | none =>
    have hsource := hsame source (injectProp_same fun s h => by rw [hs] at h; cases h)
    exact ⟨source, hsource, Or.inl ⟨List.argmin_eq_none.1 hs, rfl⟩, fun _ _ _ => hsource⟩
  | some s =>
    by_cases hnamed : hasAttribute s.attributes prop = true
    · have hsource := hsame source (injectProp_same fun t h => by rw [← Option.some.inj (hs.symm.trans h)]; exact hnamed)
      exact ⟨source, hsource, Or.inr ⟨s, rfl, by rw [if_pos hnamed]⟩, fun _ _ _ => hsource⟩
    · obtain ⟨b, o, a, w, hsource, rfl, hcut⟩ := exists_cut (argmin_sites.1 hs).1
      rw [hsource] at hs
      have hrevised := injectProp_cut hs hnamed
      rw [← hsource] at hrevised
      have hprop := defaultOf_name m prop
      refine ⟨_, hmend source, Or.inr ⟨_, rfl, ?_⟩, ?_⟩
      · rw [if_neg hnamed, String.toList_ofList, hrevised]
        refine ⟨⟨b ++ (o ++ a), w, by rw [hsource]; simp only [List.append_assoc], ?_, by simp only [List.append_assoc]⟩, ?_⟩
        · simp only [siteAfter, List.length_append, Nat.add_assoc]
        · intro hname hclear
          have hadded := defaultOf_insertable hname hclear
          have hmem := hcut.mem hadded (argmin_sites.1 hs).1
          have hnames := hcut.named hadded
          rw [hprop, defaultOf_chars hname] at hnames
          rw [defaultOf_chars hname] at hmem
          exact ⟨_, hmem, rfl, rfl, hnames⟩
      · intro hname hclear hcompact
        refine hsame _ ?_
        rw [String.toList_ofList, hrevised, ← defaultOf_chars hname]
        refine injectProp_same fun t ht => ?_
        have hnames := hcut.nearest_named hcompact (defaultOf_insertable hname hclear) hs ht
        rwa [hprop] at hnames

/-- A component with a label. -/
def labelled : Component := { name := "C", props := [⟨"label", ⟨"string"⟩, false, none⟩] }

/-- Two elements, the second one with an attribute. -/
def pairSource : String := "render(<C />);\nrender(<C size />);\n"

theorem missingProp_local_pair : IsName "label".toList ∧ ClearDefault labelled "label" ∧ IsCompact labelled.displayName.toList ∧
    ∃ revised, (Signal.missingProp "label" (some 2)).mend pairSource labelled "" = .ok revised ∧
      (∃ s' ∈ findSites revised.toList labelled.displayName, s'.start = 15 ∧
        s'.attributes = " size label=\"Test Label\"".toList) ∧
      (Signal.missingProp "label" (some 2)).mend revised labelled "" = .ok revised := by
  have hname : IsName "label".toList := by unfold IsName; decide
  have hclear : ClearDefault labelled "label" := by
    intro p hp v hv
    obtain rfl := Option.some.inj hp
    obtain rfl := Option.some.inj hv
    decide
  have hcompact : IsCompact labelled.displayName.toList := by decide
  obtain ⟨revised, hmend, hchange, hagain⟩ := missingProp_local labelled "" "label" (some 2) pairSource
  refine ⟨hname, hclear, hcompact, revised, hmend, ?_, hagain hname hclear hcompact⟩
  have hsites : (findSites pairSource.toList labelled.displayName).argmin (Site.distance (some 2)) =
      some { start := 15, stop := 29, attributes := " size".toList, line := 2 } := by decide
  rcases hchange with ⟨hnone, -⟩ | ⟨s, hs, hchange⟩
  · cases (List.argmin_eq_none.2 hnone).symm.trans hsites
  · obtain rfl := Option.some.inj (hs.symm.trans hsites)
    obtain ⟨-, hafter⟩ := (if_neg (by decide)).mp hchange
    obtain ⟨s', hs', hstart, hattributes, -⟩ := hafter hname hclear
    exact ⟨s', hs', hstart, hattributes.trans (by decide)⟩

/-- Of a text the rule for a missing property makes another one that it changes again. -/
def ChangesAgain (component source revised : String) : Prop :=
  (Signal.missingProp "p" (some 2)).mend source { name := component } "" = .ok revised ∧
    (Signal.missingProp "p" (some 2)).mend revised { name := component } "" ≠ .ok revised

theorem ChangesAgain.of_mend {component source revised third : String}
    (h : (Signal.missingProp "p" (some 2)).mend source { name := component } "" = .ok revised)
    (h' : (Signal.missingProp "p" (some 2)).mend revised { name := component } "" = .ok third) (hne : third ≠ revised) :
    ChangesAgain component source revised := by
  refine ⟨h, ?_⟩
  rw [h']
  exact fun h => hne (Except.ok.inj h)

/-- With a blank in the component's name an insertion may complete an opener on a later line, and with `>` in it an
insertion may break one that another opener overlaps; there the next insertion finds a site that lacks the property. -/
theorem missingProp_local_open : IsName "p".toList ∧
    (ClearDefault { name := "C p" } "p" ∧
      ChangesAgain "C p" "render(<C p\nrender(<C />);" "render(<C p\nrender(<C p=\"test-p\" />);") ∧
    (ClearDefault { name := "C>render" } "p" ∧
      ChangesAgain "C>render" "render(<C>render x render(\n<C>render(<C>render />);"
        "render(<C>render x render(\n<C p=\"test-p\">render(<C>render />);") := by
  have hname : IsName "p".toList := by unfold IsName; decide
  have hblank : (Signal.missingProp "p" (some 2)).mend "render(<C p\nrender(<C p=\"test-p\" />);" { name := "C p" } "" =
      .ok "render(<C p\nrender(<C p=\"test-p\" p=\"test-p\" />);" := by rfl
  have hgreater : (Signal.missingProp "p" (some 2)).mend
      "render(<C>render x render(\n<C p=\"test-p\">render(<C>render />);" { name := "C>render" } "" =
        .ok "render(<C>render x render(\n<C p=\"test-p\">render(<C>render p=\"test-p\" />);" := by rfl
  exact ⟨hname, ⟨fun _ hp => (nomatch hp), .of_mend (by rfl) hblank (by decide)⟩,
    fun _ hp => (nomatch hp), .of_mend (by rfl) hgreater (by decide)⟩

end Suitewright
