/-
  Where the component is rendered in a suite.

  * `tagStates`: what a text makes of the state of reading an element; `Balanced`: nothing;
  * `Attribute.Sealed`: attributes whose quotes and braces are closed; `IsAttributes`: texts that are read as attributes;
  * `findSites_textOf`: a suite has one site for each of its rendering lines.
-/
import Suitewright.Proofs.Repair.Patterns

namespace Suitewright

open Text

/-! ## Elements -/

section
variable {depth : Int} {quote : Option Char} {u v : List Char}

/-- The state after a character that does not close an element: the depth of braces, and the quote that is open. -/
def tagState (depth : Int) (quote : Option Char) (c : Char) : Option (Int × Option Char) :=
  match quote with
  | some q => some (depth, if c == q then none else some q)
  | none =>
    if Site.isQuote c then some (depth, some c)
    else if c == '\x7b' then some (depth + 1, none)
    else if c == '\x7d' then some (depth - 1, none)
    else if depth == 0 && (c == '>' || c == '/') then none
    else some (depth, none)

/-- The state after a text in which no character closes an element. -/
def tagStates : Int → Option Char → List Char → Option (Int × Option Char)
  | depth, quote, [] => some (depth, quote)
  | depth, quote, c :: cs => (tagState depth quote c).bind fun s => tagStates s.1 s.2 cs

theorem tagStates_append (u v : List Char) :
    tagStates depth quote (u ++ v) = (tagStates depth quote u).bind fun s => tagStates s.1 s.2 v := by
  induction u generalizing depth quote with
  | nil => rfl
  | cons c u ih =>
    rw [List.cons_append, tagStates, tagStates, Option.bind_assoc]
    congr 1
    funext s
    exact ih

theorem openTag?_cons {c : Char} {s : Int × Option Char} (h : tagState depth quote c = some s) (v : List Char) :
    Site.openTag? depth quote (c :: v) = (Site.openTag? s.1 s.2 v).map (c :: ·) := by
  cases quote with
  | some q =>
    cases h
    rfl
  | none =>
    simp only [tagState] at h
    rw [Site.openTag?]
    split at h
    · next hq =>
      cases h
      rw [if_pos hq]
    · next hq =>
      rw [if_neg hq]
      split at h
      · next hb =>
        cases h
        rw [if_pos hb]
      · next hb =>
        rw [if_neg hb]
        split at h
        · next hb' =>
          cases h
          rw [if_pos hb']
        · next hb' =>
          rw [if_neg hb']
          split at h
          · cases h
          · next hclose =>
            cases h
            rw [if_neg]
            simp only [Bool.and_eq_true, Bool.or_eq_true] at hclose ⊢
            rintro ⟨hd, hc⟩
            exact hclose ⟨hd, hc.imp id And.left⟩

/-- Reading an element goes on after a text that does not close it. -/
theorem openTag?_append {s : Int × Option Char} (h : tagStates depth quote u = some s) (v : List Char) :
    Site.openTag? depth quote (u ++ v) = (Site.openTag? s.1 s.2 v).map (u ++ ·) := by
  induction u generalizing depth quote with
  | nil =>
    obtain rfl : (depth, quote) = s := Option.some.inj h
    show Site.openTag? depth quote v = (Site.openTag? depth quote v).map _
    cases Site.openTag? depth quote v <;> rfl
  | cons c u ih =>
    rw [tagStates, Option.bind_eq_some_iff] at h
    obtain ⟨t, ht, hu⟩ := h
    rw [List.cons_append, openTag?_cons ht, ih hu, Option.map_map]
    rfl

/-- Texts after which an element is read on as before them, when it is not between quotes or braces. -/
def Balanced (u : List Char) : Prop := tagStates 0 none u = some (0, none)

instance (u : List Char) : Decidable (Balanced u) := inferInstanceAs (Decidable (tagStates 0 none u = some (0, none)))

theorem Balanced.append (hu : Balanced u) (hv : Balanced v) : Balanced (u ++ v) := by
  rw [Balanced, tagStates_append, hu]
  exact hv

theorem tagStates_quoted {q : Char} (h : q ∉ u) : tagStates depth (some q) u = some (depth, some q) := by
  induction u with
  | nil => rfl
  | cons c u ih =>
    have hc : (c == q) = false := beq_eq_false_iff_ne.2 fun e => h (by simp [e])
    rw [tagStates, tagState, hc]
    exact ih fun hmem => h (by simp [hmem])

end

/-! ## Sealed attributes -/

section
variable {depth : Int} {quote : Option Char} {u v : List Char} {c : Char}

/-- Characters that mean nothing to the reading of an element. -/
def isInert (c : Char) : Bool := !(Site.isQuote c || c == '\x7b' || c == '\x7d' || c == '>' || c == '/')

theorem tagState_inert (h : isInert c = true) : tagState depth none c = some (depth, none) := by
  simp only [isInert, Bool.not_eq_true', Bool.or_eq_false_iff] at h
  obtain ⟨⟨⟨⟨hquote, hopen⟩, hclose⟩, hgreater⟩, hslash⟩ := h
  simp only [tagState, hquote, hopen, hclose, hgreater, hslash, Bool.or_false, Bool.and_false, Bool.false_eq_true, if_false]

theorem tagStates_inert (h : u.all isInert = true) : tagStates depth none u = some (depth, none) := by
  induction u with
  | nil => rfl
  | cons c u ih =>
    obtain ⟨hc, hu⟩ := Bool.and_eq_true_iff.1 (List.all_cons.symm.trans h)
    rw [tagStates, tagState_inert hc]
    exact ih hu

theorem isInert_of_isTame (h : isTame c = true) : isInert c = true := by
  have hne : ∀ d, isTame d = false → (c == d) = false := fun d hd => beq_eq_false_iff_ne.2 (isTame_ne h hd)
  have hgrave : (c.toNat == 96) = false := by
    rw [beq_eq_false_iff_ne]
    intro hn
    exact isTame_ne h (by decide) (show c = Char.ofNat 96 by rw [← hn, Char.ofNat_toNat])
  simp only [isInert, Site.isQuote, hne '"' rfl, hne '\'' rfl, hne '\x7b' rfl, hne '\x7d' rfl, hne '>' rfl, hne '/' rfl,
    hgrave, Bool.or_false, Bool.not_false]

/-- Characters of names: they mean nothing to the reading of an element and are no blanks. -/
def isFirm (c : Char) : Bool := isInert c && !isBlank c

theorem isFirm_of_isNameChar (h : isNameChar c = true) : isFirm c = true := by
  rw [isFirm, isInert_of_isTame (isTame_of_isNameChar h), isBlank_of_isNameChar h]
  rfl

theorem all_firm_of_nameChar (h : u.all isNameChar = true) : u.all isFirm = true :=
  List.all_eq_true.2 fun c hc => isFirm_of_isNameChar (List.all_eq_true.1 h c hc)

theorem all_inert_of_firm (h : u.all isFirm = true) : u.all isInert = true :=
  List.all_eq_true.2 fun c hc => (Bool.and_eq_true_iff.1 (List.all_eq_true.1 h c hc)).1

end

namespace Attribute

/-- Attributes that close the quotes and braces of their value. -/
def Closed : Attribute → Prop
  | flag _ => True
  | text _ v => '"' ∉ v
  | expr _ v => tagStates 1 none v = some (1, none)

/-- Attributes that have a name and close the quotes and braces of their value. -/
structure Sealed (a : Attribute) : Prop where
  named : a.name ≠ []
  firm : a.name.all isFirm = true
  closed : a.Closed

variable {a : Attribute}

/-- An element is read on after a sealed attribute as before it. -/
theorem Sealed.balanced (h : a.Sealed) : Balanced (' ' :: a.chars) := by
  have hspace : Balanced [' '] := by decide
  have hname : Balanced a.name := tagStates_inert (all_inert_of_firm h.firm)
  refine hspace.append ?_
  cases a with
  | flag n => exact hname
  | text n v =>
    have hvalue : Balanced ('=' :: '"' :: (v ++ ['"'])) := by
      show tagStates 0 (some '"') (v ++ ['"']) = some (0, none)
      rw [tagStates_append, tagStates_quoted h.closed]
      rfl
    exact Balanced.append hname hvalue
  | expr n v =>
    have hvalue : Balanced ('=' :: '\x7b' :: (v ++ ['\x7d'])) := by
      show tagStates 1 none (v ++ ['\x7d']) = some (0, none)
      have hclosed : tagStates 1 none v = some (1, none) := h.closed
      rw [tagStates_append, hclosed]
      rfl
    exact Balanced.append hname hvalue

/-- No sealed attribute ends with a blank. -/
theorem Sealed.last (h : a.Sealed) : ∃ u c, a.chars = u ++ [c] ∧ isBlank c = false := by
  cases a with
  | flag n =>
    have hne : n ≠ [] := h.named
    have hfirm : isFirm (n.getLast hne) = true := List.all_eq_true.1 h.firm _ (List.getLast_mem hne)
    rw [isFirm, Bool.and_eq_true, Bool.not_eq_true'] at hfirm
    exact ⟨n.dropLast, n.getLast hne, (List.dropLast_concat_getLast hne).symm, hfirm.2⟩
  | text n v => exact ⟨n ++ ('=' :: '"' :: v), '"', by simp [chars], rfl⟩
  | expr n v => exact ⟨n ++ ('=' :: '\x7b' :: v), '\x7d', by simp [chars], rfl⟩

/-- What the rules for suites leave of attributes is sealed. -/
theorem Formed.sealed (h : a.Formed) : a.Sealed := by
  obtain ⟨hne, hname, hvalue⟩ := h
  refine ⟨hne, all_firm_of_nameChar hname, ?_⟩
  cases a with
  | flag n => trivial
  | text n v => exact not_mem_of_class hvalue (by decide)
  | expr n v =>
    rcases hvalue with hconst | ⟨-, hv⟩
    · exact (by decide : ∀ v ∈ constants, tagStates 1 none v = some (1, none)) v hconst
    · exact tagStates_inert (List.all_eq_true.2 fun c hc =>
        isInert_of_isTame (isTame_of_isNameChar (isNameChar_of_isAlphanum (List.all_eq_true.1 hv c hc))))

end Attribute

/-- Texts that are read as attributes of an element: they are balanced, begin with a space and do not end with a blank. -/
structure IsAttributes (u : List Char) : Prop where
  balanced : Balanced u
  spaced : ∀ rest, ∃ v, u ++ ' ' :: rest = ' ' :: v
  trimmed : Site.dropBlankEnd (u ++ [' ']) = u

theorem dropBlankEnd_concat (u : List Char) {c : Char} (hc : isBlank c = false) {blanks : List Char}
    (h : blanks.all isBlank = true) : Site.dropBlankEnd ((u ++ [c]) ++ blanks) = u ++ [c] := by
  rw [Site.dropBlankEnd, List.reverse_append, dropWhile_reverse_blanks h, List.reverse_append, List.reverse_singleton,
    List.singleton_append, List.dropWhile_cons, hc]
  simp

theorem IsAttributes.nil : IsAttributes [] := ⟨rfl, fun rest => ⟨rest, rfl⟩, rfl⟩

theorem IsAttributes.spread : IsAttributes spreadAttribute := ⟨by decide, fun rest => ⟨_, rfl⟩, by decide⟩

/-- One more attribute. -/
theorem IsAttributes.concat {u : List Char} (hu : IsAttributes u) {a : Attribute} (ha : a.Sealed) :
    IsAttributes (u ++ ' ' :: a.chars) := by
  obtain ⟨v, c, hchars, hc⟩ := ha.last
  refine ⟨hu.balanced.append ha.balanced, fun rest => ?_, ?_⟩
  · rw [List.append_assoc]
    exact hu.spaced _
  rw [hchars, show u ++ ' ' :: (v ++ [c]) = (u ++ ' ' :: v) ++ [c] by simp]
  exact dropBlankEnd_concat _ hc rfl

theorem IsAttributes.append_flatMap {u : List Char} (hu : IsAttributes u) {as : List Attribute} (h : ∀ a ∈ as, a.Sealed) :
    IsAttributes (u ++ as.flatMap fun a => ' ' :: a.chars) := by
  induction as generalizing u with
  | nil => simpa using hu
  | cons a as ih =>
    rw [List.flatMap_cons, ← List.append_assoc]
    exact ih (hu.concat (h a (by simp))) fun b hb => h b (by simp [hb])

theorem attributesText_isAttributes {spread : Bool} {attributes : List Attribute} (h : ∀ a ∈ attributes, a.Formed) :
    IsAttributes (attributesText spread attributes) := by
  have hfront : IsAttributes (if spread then spreadAttribute else []) := by
    cases spread with
    | true => exact .spread
    | false => exact .nil
  exact hfront.append_flatMap fun a ha => (h a ha).sealed

/-! ## Openers -/

section
variable {component u v : List Char} {index line : Nat}

theorem opener?_needs {cs r : List Char} (h : Site.opener? component cs = some r) :
    "render".toList ++ ['('] <+: cs := by
  simp only [Site.opener?, Option.bind_eq_bind, Option.bind_eq_some_iff] at h
  obtain ⟨rest, hr, -⟩ := h
  exact ⟨rest, (after?_eq_some.1 hr).symm⟩

theorem rendering_ends : Mark.Ends .rendering "render".toList '(' := ⟨fun _ => rfl, by decide⟩

/-- The line after a text, told with or without its first character. -/
theorem lineAfter_count (c : Char) (u : List Char) : Site.lineAfter c line + u.count '\n' = line + (c :: u).count '\n' := by
  rw [Site.lineAfter, List.count_cons]
  split <;> omega

theorem sitesFrom_skip :
    Site.sitesFrom component u.length index line (u ++ v) =
      Site.sitesFrom component 0 (index + u.length) (line + u.count '\n') v := by
  induction u generalizing index line with
  | nil => rfl
  | cons c u ih =>
    rw [List.length_cons, List.cons_append, Site.sitesFrom, ih, lineAfter_count]
    congr 1
    omega

/-- Where no opener begins there is no site. -/
theorem sitesFrom_pass (h : ∀ w, w <:+ u → w ≠ [] → Site.opener? component (w ++ v) = none) :
    Site.sitesFrom component 0 index line (u ++ v) =
      Site.sitesFrom component 0 (index + u.length) (line + u.count '\n') v := by
  induction u generalizing index line with
  | nil => rfl
  | cons c u ih =>
    have hnone : Site.opener? component (c :: (u ++ v)) = none := h (c :: u) List.suffix_rfl (by simp)
    have hhere : Site.siteHere? component index line (c :: (u ++ v)) = none := by rw [Site.siteHere?, hnone]; rfl
    have hlength : Site.openerLength component (c :: (u ++ v)) = 0 := by rw [Site.openerLength, hnone]
    rw [List.cons_append, Site.sitesFrom, hhere, hlength, Option.toList_none, List.nil_append, Nat.zero_sub,
      ih fun w hw hne => h w (hw.trans (List.suffix_cons c u)) hne, lineAfter_count, List.length_cons]
    congr 1
    omega

/-- A line without the mark of a rendering has no site. -/
theorem sitesFrom_absent {l rest : List Char} (h : Mark.rendering.Absent l) (hl : '\n' ∉ l) :
    Site.sitesFrom component 0 index line (l ++ '\n' :: rest) =
      Site.sitesFrom component 0 (index + l.length + 1) (line + 1) rest := by
  have hnone : ∀ w, w <:+ l → Site.opener? component (w ++ '\n' :: rest) = none := by
    intro w hw
    cases hr : Site.opener? component (w ++ '\n' :: rest) with
    | none => rfl
    | some r => exact absurd (opener?_needs hr) (h.not_prefix rendering_ends.1 rendering_ends.2 hw)
  have hbreak : Site.sitesFrom component 0 (index + l.length) (line + 0) (['\n'] ++ rest) = _ :=
    sitesFrom_pass fun w hw hne => by
      rw [List.suffix_cons_iff, List.suffix_nil] at hw
      rcases hw with rfl | rfl
      · exact hnone [] List.nil_suffix
      · exact absurd rfl hne
  rw [sitesFrom_pass fun w hw _ => hnone w hw, List.count_eq_zero.2 hl]
  exact hbreak

/-- The opener of an element, up to the component's name. -/
def openerText (component : List Char) : List Char := "render(<".toList ++ component

theorem opener?_append (hc : IsWord component) (v : List Char) :
    Site.opener? component (openerText component ++ ' ' :: v) = some (' ' :: v) := by
  have hparts : openerText component ++ ' ' :: v = "render(".toList ++ (('<' :: component) ++ ' ' :: v) := by
    show "render(<".toList ++ component ++ ' ' :: v = _
    have hopen : "render(<".toList = "render(".toList ++ ['<'] := rfl
    rw [hopen]
    simp only [List.append_assoc, List.cons_append, List.nil_append]
  have hskip : skipBlanks (('<' :: component) ++ ' ' :: v) = ('<' :: component) ++ ' ' :: v := rfl
  obtain ⟨c, hlast⟩ : ∃ c, component.getLast? = some c := by
    cases hl : component.getLast? with
    | none => exact absurd (List.getLast?_eq_none_iff.1 hl) hc.1
    | some c => exact ⟨c, rfl⟩
  have hword : isWordChar c = true := List.all_eq_true.1 hc.2 c (List.mem_of_getLast? hlast)
  have hedge : atWordEdge (some (component.getLast?.getD '<')) (' ' :: v).head? = true := by
    simp [hlast, atWordEdge, hword, show isWordChar ' ' = false from rfl]
  rw [Site.opener?, hparts, after?_append]
  simp only [Option.bind_eq_bind, Option.bind_some, hskip, after?_append, hedge, if_true]

/-- The site of a rendering line. -/
def renderSite (component : List Char) (index line : Nat) (spread : Bool) (attributes : List Attribute) : Site where
  start := index + 8
  stop := index + 8 + (openerText component).length + (attributesText spread attributes).length
  attributes := attributesText spread attributes
  line := line

theorem opener?_render (hc : IsWord component) {spread : Bool} {attributes : List Attribute}
    (h : ∀ a ∈ attributes, a.Formed) (rest : List Char) :
    Site.opener? component (openerText component ++ (attributesText spread attributes ++ (" />);".toList ++ rest))) =
      some (attributesText spread attributes ++ (" />);".toList ++ rest)) := by
  obtain ⟨v, hv⟩ : ∃ v, attributesText spread attributes ++ (" />);".toList ++ rest) = ' ' :: v :=
    (attributesText_isAttributes h).spaced ("/>);".toList ++ rest)
  rw [hv, opener?_append hc]

theorem siteHere?_render (hc : IsWord component) {spread : Bool} {attributes : List Attribute}
    (h : ∀ a ∈ attributes, a.Formed) (rest : List Char) :
    Site.siteHere? component (index + 8) line
        (openerText component ++ (attributesText spread attributes ++ (" />);".toList ++ rest))) =
      some (renderSite component index line spread attributes) := by
  have hread : IsAttributes (attributesText spread attributes) := attributesText_isAttributes h
  have hbody : Site.openTag? 0 none (attributesText spread attributes ++ (" />);".toList ++ rest)) =
      some (attributesText spread attributes ++ [' ']) := by
    rw [openTag?_append hread.balanced]
    rfl
  rw [Site.siteHere?, opener?_render hc h]
  simp only [Option.bind_eq_bind, Option.bind_some, hbody, hread.trimmed, List.length_append,
    Nat.add_sub_cancel]
  rfl

/-- No opener begins in the indentation of a line. -/
theorem opener?_indent : ∀ w, w <:+ "        ".toList → w ≠ [] → ∀ v, Site.opener? component (w ++ v) = none := by
  intro w hw hne v
  cases hr : Site.opener? component (w ++ v) with
  | none => rfl
  | some r =>
    obtain ⟨c, w, rfl⟩ := List.exists_cons_of_ne_nil hne
    have htable : ∀ c ∈ "        ".toList, 'r' ≠ c := List.forall_mem_ne.2 (by decide)
    exact absurd (List.cons_prefix_cons.1 (opener?_needs hr)).1 (htable c (hw.subset (by simp)))

section
variable {spread : Bool} {attributes : List Attribute}

theorem Line.chars_render_opener : (Line.render spread attributes).chars component =
    "        ".toList ++ (openerText component ++ (attributesText spread attributes ++ " />);".toList)) := by
  have hopen : "        render(<".toList = "        ".toList ++ "render(<".toList := by decide
  have hopener : openerText component = "render(<".toList ++ component := rfl
  rw [Line.chars_render, hopen, hopener]
  simp only [List.append_assoc]

/-- Behind the opener a rendering line renders nothing more. -/
theorem attributesText_absent (h : ∀ a ∈ attributes, a.Formed) :
    Mark.rendering.Absent (attributesText spread attributes ++ " />);".toList) := by
  have hspread : Mark.rendering.Safe (if spread then spreadAttribute else []) := fun before => by
    cases spread <;> rfl
  have hclose : Mark.rendering.Safe (" />);".toList ++ ['\n']) := fun before => rfl
  have := hspread.append ((Line.safe_attributes h).append hclose)
  exact Mark.Safe.absent (by simpa only [attributesText, List.append_assoc] using this)

/-- A rendering line has one site. -/
theorem sitesFrom_render (hc : IsWord component) (h : ∀ a ∈ attributes, a.Formed) (rest : List Char) :
    Site.sitesFrom component 0 index line ((Line.render spread attributes).chars component ++ '\n' :: rest) =
      renderSite component index line spread attributes ::
        Site.sitesFrom component 0 (index + ((Line.render spread attributes).chars component).length + 1) (line + 1)
          rest := by
  have hline : '\n' ∉ (Line.render spread attributes).chars component := fun hmem => by
    have hformed : (Line.render spread attributes).Formed component := h
    have := Line.isLine hc hformed _ hmem
    cases this
  obtain ⟨t, ht⟩ : ∃ t, openerText component = 'r' :: t := ⟨_, rfl⟩
  rw [Line.chars_render_opener] at hline ⊢
  have hline₁ : '\n' ∉ t := fun hmem => hline (by simp [ht, hmem])
  have hline₂ : '\n' ∉ attributesText spread attributes ++ " />);".toList := fun hmem =>
    hline (List.mem_append_right _ (List.mem_append_right _ hmem))
  have hwhole : "        ".toList ++ (openerText component ++ (attributesText spread attributes ++ " />);".toList)) ++
      '\n' :: rest = "        ".toList ++ (openerText component ++
        (attributesText spread attributes ++ (" />);".toList ++ '\n' :: rest))) := by
    simp only [List.append_assoc]
  have hhere : Site.siteHere? component (index + 8) line (openerText component ++
      (attributesText spread attributes ++ (" />);".toList ++ '\n' :: rest))) =
        some (renderSite component index line spread attributes) := siteHere?_render hc h _
  have hlength : Site.openerLength component (openerText component ++
      (attributesText spread attributes ++ (" />);".toList ++ '\n' :: rest))) - 1 = t.length := by
    rw [Site.openerLength, opener?_render hc h, ht]
    simp only [List.length_append, List.length_cons]
    omega
  have hafter : ∀ i n, Site.sitesFrom component 0 i n
      (attributesText spread attributes ++ (" />);".toList ++ '\n' :: rest)) = Site.sitesFrom component 0
        (i + (attributesText spread attributes ++ " />);".toList).length + 1) (n + 1) rest := by
    intro i n
    rw [← List.append_assoc]
    exact sitesFrom_absent (attributesText_absent h) hline₂
  rw [hwhole, sitesFrom_pass fun w hw hne => opener?_indent w hw hne _]
  show Site.sitesFrom component 0 (index + 8) line _ = _
  rw [ht, List.cons_append] at hhere hlength ⊢
  rw [Site.sitesFrom, hhere, hlength, sitesFrom_skip, hafter, List.count_eq_zero.2 hline₁]
  have hbreak : Site.lineAfter 'r' line = line := rfl
  have hindent : "        ".toList.length = 8 := by decide
  have hlen : ("        ".toList ++ ('r' :: t ++ (attributesText spread attributes ++ " />);".toList))).length =
      8 + (t.length + 1) + (attributesText spread attributes ++ " />);".toList).length := by
    rw [List.length_append, List.length_append, hindent, List.length_cons]
    omega
  rw [hbreak, hlen, Nat.add_zero, Option.toList_some, List.singleton_append]
  congr 2
  omega

end

/-! ## Sites of a suite -/

/-- The sites of a line. -/
def Line.sites (component : List Char) (index line : Nat) : Line → List Site
  | render spread attributes => [renderSite component index line spread attributes]
  | _ => []

/-- The sites of lines. -/
def sitesOf (component : List Char) : (index line : Nat) → List Line → List Site
  | _, _, [] => []
  | index, line, l :: d =>
    l.sites component index line ++ sitesOf component (index + (l.chars component).length + 1) (line + 1) d

theorem sitesFrom_textOf (hc : IsWord component) {d : List Line} (hd : ∀ l ∈ d, l.Formed component) :
    Site.sitesFrom component 0 index line (Line.textOf component d) = sitesOf component index line d := by
  induction d generalizing index line with
  | nil => rfl
  | cons l d ih =>
    have hl := hd l (by simp)
    have hd' : ∀ l' ∈ d, l'.Formed component := fun l' hl' => hd l' (by simp [hl'])
    have habsent : Mark.rendering ∉ l.marks → l.sites component index line = [] →
        Site.sitesFrom component 0 index line (Line.textOf component (l :: d)) =
          sitesOf component index line (l :: d) := by
      intro hm hsites
      have hline : '\n' ∉ l.chars component := fun hmem => by
        have := Line.isLine hc hl _ hmem
        cases this
      rw [Line.textOf, List.map_cons, joinLines_cons, sitesFrom_absent (Line.absent hc hl hm) hline, ← Line.textOf,
        ih hd', sitesOf, hsites, List.nil_append]
    cases l with
    | render spread attributes =>
      rw [Line.textOf, List.map_cons, joinLines_cons, sitesFrom_render hc hl, ← Line.textOf, ih hd']
      rfl
    | query frame q => exact habsent (by cases q <;> simp [Line.marks, Query.marks]) rfl
    | fixed | named | default | classed => exact habsent (by simp [Line.marks]) rfl

/-- A suite has one site for each of its rendering lines. -/
theorem findSites_textOf {name : String} (hc : IsWord name.toList) {d : List Line}
    (hd : ∀ l ∈ d, l.Formed name.toList) :
    findSites (Line.textOf name.toList d) name = sitesOf name.toList 0 1 d :=
  sitesFrom_textOf hc hd

/-- Where a site of a suite stands. -/
theorem mem_sitesOf {s : Site} {d : List Line} (h : s ∈ sitesOf component index line d) :
    ∃ d₁ spread attributes d₂, d = d₁ ++ .render spread attributes :: d₂ ∧
      s = renderSite component (index + (Line.textOf component d₁).length) (line + d₁.length) spread attributes := by
  induction d generalizing index line with
  | nil => cases h
  | cons l d ih =>
    rcases List.mem_append.1 h with h | h
    · cases l with
      | render spread attributes => exact ⟨[], spread, attributes, d, rfl, List.mem_singleton.1 h⟩
      | _ => cases h
    · obtain ⟨d₁, spread, attributes, d₂, rfl, rfl⟩ := ih h
      refine ⟨l :: d₁, spread, attributes, d₂, rfl, ?_⟩
      rw [Line.textOf, Line.textOf, List.map_cons, joinLines_cons, List.length_append, List.length_cons,
        List.length_cons]
      congr 1 <;> omega

end

end Suitewright
