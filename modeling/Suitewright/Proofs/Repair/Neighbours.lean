/-
  Sites beside a change.

  * `mem_sitesFrom`, `sitesFrom_sorted`: the sites of a text, and their order;
  * `opener?_ahead`, `sitesFrom_ahead`: what changes behind an opener leaves it where it is reached;
  * `IsGap`, `opener?_gap`: texts between attributes and the end of an element, into which no opener reaches;
  * `sitesFrom_gap`: what an insertion before a gap makes of the sites of a text.
-/
import Suitewright.Proofs.Repair.Scanning

namespace Suitewright

open Text

section
variable {component x z z' u v w cs r : List Char} {skip index line : Nat} {s t : Site}

/-! ## The sites of a text -/

theorem siteHere?_eq_some : Site.siteHere? component index line cs = some s ↔
    ∃ r body, Site.opener? component cs = some r ∧ Site.openTag? 0 none r = some body ∧
      s = { start := index, stop := index + (cs.length - r.length) + (Site.dropBlankEnd body).length,
            attributes := Site.dropBlankEnd body, line := line } := by
  simp only [Site.siteHere?, Option.bind_eq_bind, Option.bind_eq_some_iff, Option.some.injEq, pure, eq_comm (a := s)]
  constructor
  · rintro ⟨r, hr, body, hbody, h⟩
    exact ⟨r, body, hr, hbody, h⟩
  · rintro ⟨r, body, hr, hbody, h⟩
    exact ⟨r, hr, body, hbody, h⟩

/-- Each site begins at some place of the text, behind what belongs to the last opener. -/
theorem mem_sitesFrom (h : s ∈ Site.sitesFrom component skip index line cs) : ∃ u v, cs = u ++ v ∧ skip ≤ u.length ∧
    Site.siteHere? component (index + u.length) (line + u.count '\n') v = some s := by
  induction cs generalizing skip index line with
  | nil => cases skip <;> cases h
  | cons c cs ih =>
    have hlater : ∀ {skip'}, s ∈ Site.sitesFrom component skip' (index + 1) (Site.lineAfter c line) cs → skip ≤ skip' + 1 →
        ∃ u v, c :: cs = u ++ v ∧ skip ≤ u.length ∧
          Site.siteHere? component (index + u.length) (line + u.count '\n') v = some s := by
      intro skip' h hskip
      obtain ⟨u, v, rfl, hle, hsite⟩ := ih h
      refine ⟨c :: u, v, rfl, by rw [List.length_cons]; omega, ?_⟩
      rw [List.length_cons, Nat.add_comm u.length, ← Nat.add_assoc]
      rwa [lineAfter_count] at hsite
    cases skip with
    | succ skip => exact hlater h (Nat.le_refl _)
    | zero =>
      rcases List.mem_append.1 h with h | h
      · exact ⟨[], c :: cs, rfl, Nat.le_refl _, Option.mem_toList.1 h⟩
      · exact hlater h (Nat.zero_le _)

theorem siteHere?_start (h : Site.siteHere? component index line cs = some s) : s.start = index ∧ s.line = line := by
  obtain ⟨r, body, -, -, rfl⟩ := siteHere?_eq_some.1 h
  exact ⟨rfl, rfl⟩

theorem sitesFrom_start (h : s ∈ Site.sitesFrom component skip index line cs) : index + skip ≤ s.start := by
  obtain ⟨u, v, -, hle, hsite⟩ := mem_sitesFrom h
  rw [(siteHere?_start hsite).1]
  omega

/-- Sites stand in the order in which they begin. -/
theorem sitesFrom_sorted : (Site.sitesFrom component skip index line cs).Pairwise fun s t => s.start < t.start := by
  induction cs generalizing skip index line with
  | nil => cases skip <;> exact .nil
  | cons c cs ih =>
    cases skip with
    | succ skip => exact ih
    | zero =>
      rw [Site.sitesFrom, List.pairwise_append]
      refine ⟨?_, ih, fun s hs t ht => ?_⟩
      · cases Site.siteHere? component index line (c :: cs) with
        | none => exact .nil
        | some s => exact List.pairwise_singleton _ s
      · rw [(siteHere?_start (Option.mem_toList.1 hs)).1]
        have := sitesFrom_start ht
        omega

/-! ## Changes behind an opener -/

/-- An opener before a text is one before another text, if that goes on as the first one. -/
theorem opener?_replace (hedge : r = [] → u.head?.any isWordChar = v.head?.any isWordChar)
    (h : Site.opener? component (x ++ u) = some (r ++ u)) : Site.opener? component (x ++ v) = some (r ++ v) := by
  obtain ⟨blanks, hblanks, hx, hword⟩ := opener?_append_eq_some.1 h
  refine opener?_append_eq_some.2 ⟨blanks, hblanks, hx, ?_⟩
  cases r with
  | nil =>
    rw [List.nil_append, atWordEdge] at hword ⊢
    rw [← hedge rfl, hword]
  | cons c r => exact hword

/-- An opener that begins before another one ends before it. -/
theorem opener?_ahead {o : List Char} (ho : Site.opener? component (o ++ z) = some z) (hx : x ≠ [])
    (h : Site.opener? component (x ++ (o ++ z)) = some r) : ∃ r', r' ≠ [] ∧ r = r' ++ z := by
  obtain ⟨blanks', hblanks', rfl, -⟩ := opener?_front ho
  obtain ⟨blanks, hblanks, hsplit, -⟩ := opener?_eq_some.1 h
  by_cases hbracket : '<' ∈ x
  · obtain ⟨x₁, x₂, rfl, hx₁⟩ := List.eq_append_cons_of_mem hbracket
    have hsplit : x₁ ++ '<' :: (x₂ ++ ("render(".toList ++ (blanks' ++ '<' :: component) ++ z)) =
        ("render(".toList ++ blanks) ++ '<' :: (component ++ r) := by
      simpa only [List.append_assoc, List.cons_append] using hsplit
    obtain ⟨-, hrest⟩ := eq_of_append_first hx₁ (bracket_not_mem_render hblanks) hsplit
    have hlength := congrArg List.length hrest
    simp only [List.length_append, List.length_cons] at hlength
    have hsuffix : z <:+ r := by
      refine List.suffix_of_suffix_length_le ⟨_, (List.append_assoc _ _ _)⟩ ⟨component, hrest.symm⟩ ?_
      omega
    obtain ⟨r', rfl⟩ := hsuffix
    refine ⟨r', ?_, rfl⟩
    rintro rfl
    rw [List.nil_append] at hlength
    omega
  · have hsplit : (x ++ ("render(".toList ++ blanks')) ++ '<' :: (component ++ z) =
        ("render(".toList ++ blanks) ++ '<' :: (component ++ r) := by
      simpa only [List.append_assoc, List.cons_append] using hsplit
    have hleft : '<' ∉ x ++ ("render(".toList ++ blanks') := by
      rw [List.mem_append, not_or]
      exact ⟨hbracket, bracket_not_mem_render hblanks'⟩
    exact absurd (eq_of_append_first hleft (bracket_not_mem_render hblanks) hsplit).1 (render_not_behind blanks' hx hblanks)

theorem openerLength_ahead {o : List Char} (ho : Site.opener? component (o ++ z) = some z)
    (ho' : Site.opener? component (o ++ z') = some z') (hx : x ≠ []) :
    Site.openerLength component (x ++ (o ++ z)) = Site.openerLength component (x ++ (o ++ z')) := by
  have hmoved : ∀ {z : List Char} (z' : List Char) {r : List Char}, Site.opener? component (o ++ z) = some z →
      Site.opener? component (x ++ (o ++ z)) = some r →
        ∃ r', r = r' ++ z ∧ Site.opener? component (x ++ (o ++ z')) = some (r' ++ z') := by
    intro z z' r ho h
    obtain ⟨r', hne, rfl⟩ := opener?_ahead ho hx h
    rw [← List.append_assoc] at h ⊢
    exact ⟨r', rfl, opener?_replace (fun h => absurd h hne) h⟩
  cases h : Site.opener? component (x ++ (o ++ z)) with
  | some r =>
    obtain ⟨r', rfl, h'⟩ := hmoved z' ho h
    rw [Site.openerLength, Site.openerLength, h, h']
    simp only [List.length_append]
    omega
  | none =>
    cases h' : Site.opener? component (x ++ (o ++ z')) with
    | none => rw [Site.openerLength, Site.openerLength, h, h']
    | some r' =>
      obtain ⟨_, -, hsome⟩ := hmoved z ho' h'
      cases h.symm.trans hsome

/-- A site stays where it is when the text behind its opener changes. -/
theorem sitesFrom_ahead {o : List Char} (ho : Site.opener? component (o ++ z) = some z)
    (ho' : Site.opener? component (o ++ z') = some z') (hs : s ∈ Site.sitesFrom component skip index line (x ++ (o ++ z)))
    (hstart : s.start = index + x.length)
    (hsite : Site.siteHere? component (index + x.length) (line + x.count '\n') (o ++ z') = some t) :
    t ∈ Site.sitesFrom component skip index line (x ++ (o ++ z')) := by
  induction x generalizing skip index line with
  | nil =>
    obtain rfl : skip = 0 := by
      have := sitesFrom_start hs
      rw [hstart, List.length_nil] at this
      omega
    rw [List.nil_append]
    cases hcons : o ++ z' with
    | nil => rw [hcons] at hsite; cases hsite
    | cons c cs =>
      rw [hcons] at hsite
      exact List.mem_append_left _ (Option.mem_toList.2 hsite)
  | cons c x ih =>
    have hindex : index + (c :: x).length = index + 1 + x.length := by rw [List.length_cons]; omega
    rw [← lineAfter_count, hindex] at hsite
    rw [hindex] at hstart
    cases skip with
    | succ skip => exact ih hs hstart hsite
    | zero =>
      -- an opener before the site is the same in both texts, and so is what is skipped for it
      have hlength := openerLength_ahead (x := c :: x) ho ho' (List.cons_ne_nil c x)
      rw [List.cons_append] at hs hlength ⊢
      rw [List.cons_append] at hlength
      rw [Site.sitesFrom, List.mem_append] at hs ⊢
      rw [← hlength]
      refine Or.inr (ih (hs.resolve_left fun hhere => ?_) hstart hsite)
      rw [(siteHere?_start (Option.mem_toList.1 hhere)).1] at hstart
      omega

/-! ## Changes before a gap -/

/-- Texts between the attributes of an element and what closes it: there a blank, `>` or `/>` stands, and after blanks no
element begins. -/
def IsGap (u : List Char) : Prop :=
  ∃ blanks c rest, u = blanks ++ c :: rest ∧ blanks.all isBlank = true ∧ isBlank c = false ∧ c ≠ '<' ∧
    (blanks = [] → c = '>' ∨ c = '/' ∧ rest.head? = some '>')

/-- Names of components that hold no blank and no `>`. -/
def IsCompact (component : List Char) : Prop := ∀ c ∈ component, isBlank c = false ∧ c ≠ '>'

instance (component : List Char) : Decidable (IsCompact component) :=
  List.decidableBAll _ component

/-- A gap begins with a blank, `>` or `/>`. -/
theorem IsGap.head (h : IsGap u) :
    ∃ c rest, u = c :: rest ∧ (isBlank c = true ∨ c = '>' ∨ c = '/' ∧ rest.head? = some '>') := by
  obtain ⟨blanks, c, rest, rfl, hblanks, -, -, hclose⟩ := h
  cases blanks with
  | nil => exact ⟨c, rest, rfl, Or.inr (hclose rfl)⟩
  | cons b blanks => exact ⟨b, _, rfl, Or.inl (List.all_eq_true.1 hblanks b (by simp))⟩

theorem IsGap.not_name (h : IsGap u) : u.head?.any isNameChar = false := by
  obtain ⟨c, rest, rfl, hc⟩ := h.head
  rw [List.head?_cons, Option.any_some]
  rcases hc with hc | rfl | ⟨rfl, -⟩
  · cases hname : isNameChar c with
    | false => rfl
    | true => cases (isBlank_of_isNameChar hname).symm.trans hc
  · rfl
  · rfl

theorem IsGap.not_word (h : IsGap u) : u.head?.any isWordChar = false := by
  have hname := h.not_name
  cases hhead : u.head? with
  | none => rfl
  | some c =>
    rw [hhead, Option.any_some, isNameChar, Bool.or_eq_false_iff] at hname
    exact hname.2

/-- A gap does not begin in the name with which an opener ends: the name would hold a blank or a `>`, or end with `/`,
where no word ends. -/
theorem IsGap.not_in_name (hc : IsCompact component) (hw : w ≠ []) (hgap : IsGap (w ++ r)) (hsuffix : w <:+ '<' :: component)
    (hedge : atWordEdge (some (component.getLast?.getD '<')) r.head? = true) : False := by
  obtain ⟨e, rest, hhead, he⟩ := hgap.head
  obtain ⟨d, t, rfl⟩ := List.exists_cons_of_ne_nil hw
  obtain ⟨rfl, rfl⟩ := List.cons.inj hhead
  have hname : IsCompact ('<' :: component) := List.forall_mem_cons.2 ⟨by decide, hc⟩
  obtain ⟨hblank, hgreater⟩ := hname d (hsuffix.subset (by simp))
  rcases he with he | he | ⟨rfl, hnext⟩
  · cases hblank.symm.trans he
  · exact hgreater he
  · cases t with
    | nil =>
      have hlast : ('<' :: component).getLast? = some '/' := by
        obtain ⟨v, hv⟩ := hsuffix
        rw [← hv, List.getLast?_concat]
      rw [List.getLast?_cons, Option.some.injEq] at hlast
      have hnext : r.head? = some '>' := hnext
      rw [hlast, hnext] at hedge
      cases hedge
    | cons f t =>
      obtain rfl : f = '>' := Option.some.inj hnext
      exact (hname '>' (hsuffix.subset (by simp))).2 rfl

/-- A gap does not begin before the blanks of an opener. -/
theorem IsGap.not_in_render {w r : List Char} (hw : w ≠ []) (hgap : IsGap (w ++ r)) (hsuffix : w <:+ "render(".toList) :
    False := by
  obtain ⟨e, rest, hhead, he⟩ := hgap.head
  obtain ⟨d, t, rfl⟩ := List.exists_cons_of_ne_nil hw
  obtain ⟨rfl, -⟩ := List.cons.inj hhead
  have hrender : ("render(".toList.all fun c => !isBlank c && (c != '>' && c != '/')) = true := by decide
  have hd := List.all_eq_true.1 hrender d (hsuffix.subset (by simp))
  simp only [Bool.and_eq_true, Bool.not_eq_true', bne_iff_ne] at hd
  obtain ⟨hblank, hgreater, hslash⟩ := hd
  rcases he with he | he | ⟨he, -⟩
  · cases hblank.symm.trans he
  · exact hgreater he
  · exact hslash he

/-- Behind the blanks with which a gap begins no element begins. -/
theorem IsGap.not_opening {blanks : List Char} (hblanks : blanks.all isBlank = true) : ¬ IsGap (blanks ++ '<' :: r) := by
  rintro ⟨blanks', c, rest, hgap, hblanks', hc, hopen, -⟩
  obtain ⟨-, hbracket, -⟩ := eq_of_append_class hblanks hblanks' (by decide) hc hgap
  exact hopen hbracket.symm

/-- No opener of a component with a compact name reaches into a gap. -/
theorem opener?_gap (hc : IsCompact component) (hu : IsGap u) (h : Site.opener? component (x ++ u) = some r) :
    ∃ r', r' <:+ x ∧ r = r' ++ u := by
  obtain ⟨blanks, hblanks, hsplit, hedge⟩ := opener?_eq_some.1 h
  have hsplit : x ++ u = ("render(".toList ++ (blanks ++ '<' :: component)) ++ r := by
    rw [hsplit]
    simp only [List.append_assoc, List.cons_append]
  rcases List.append_eq_append_iff.1 hsplit with ⟨t, ht, rfl⟩ | ⟨t, rfl, rfl⟩
  · by_cases hempty : t = []
    · subst hempty
      exact ⟨[], List.nil_suffix, rfl⟩
    -- the gap would begin in the opener: in the name, at one of its blanks, or before them
    exfalso
    have hsuffix : t <:+ "render(".toList ++ (blanks ++ '<' :: component) := ⟨x, ht.symm⟩
    rcases suffix_append_cases hsuffix with hsuffix | ⟨w, hw, hne, rfl⟩
    · rcases suffix_append_cases hsuffix with hsuffix | ⟨w, hw, -, rfl⟩
      · exact hu.not_in_name hc hempty hsuffix hedge
      · have hwblank : w.all isBlank = true :=
          List.all_eq_true.2 fun c hmem => List.all_eq_true.1 hblanks c (hw.subset hmem)
        rw [List.append_assoc, List.cons_append] at hu
        exact IsGap.not_opening hwblank hu
    · rw [List.append_assoc] at hu
      exact hu.not_in_render hne hw
  · exact ⟨t, List.suffix_append _ _, rfl⟩

/-- Before one gap there is the same opener as before another one. -/
theorem opener?_gap_replace (hc : IsCompact component) (hu : IsGap u) (hv : IsGap v)
    (h : Site.opener? component (x ++ u) = some r) :
    ∃ r', r' <:+ x ∧ r = r' ++ u ∧ Site.opener? component (x ++ v) = some (r' ++ v) := by
  obtain ⟨r', hsuffix, rfl⟩ := opener?_gap hc hu h
  exact ⟨r', hsuffix, rfl, opener?_replace (fun _ => hu.not_word.trans hv.not_word.symm) h⟩

/-- A text without angle brackets before a gap has no opener. -/
theorem opener?_gap_flat (hc : IsCompact component) (hu : IsGap u) (hx : '<' ∉ x) : Site.opener? component (x ++ u) = none := by
  rw [Option.eq_none_iff_forall_ne_some]
  intro r hr
  obtain ⟨r', -, rfl⟩ := opener?_gap hc hu hr
  obtain ⟨blanks, -, rfl, -⟩ := opener?_append_eq_some.1 hr
  exact hx (by simp)

theorem openerLength_gap (hc : IsCompact component) (hu : IsGap u) (hv : IsGap v) :
    Site.openerLength component (x ++ u) = Site.openerLength component (x ++ v) ∧
      Site.openerLength component (x ++ u) ≤ x.length := by
  cases h : Site.opener? component (x ++ u) with
  | some r =>
    obtain ⟨r', hsuffix, rfl, h'⟩ := opener?_gap_replace hc hu hv h
    have := hsuffix.length_le
    rw [Site.openerLength, Site.openerLength, h, h']
    simp only [List.length_append]
    omega
  | none =>
    cases h' : Site.opener? component (x ++ v) with
    | none =>
      rw [Site.openerLength, Site.openerLength, h, h']
      exact ⟨rfl, Nat.zero_le _⟩
    | some r' =>
      obtain ⟨_, -, -, hsome⟩ := opener?_gap_replace hc hv hu h'
      cases h.symm.trans hsome

/-- Where a text begins changes nothing but where its sites begin. -/
theorem sitesFrom_moved (index : Nat) {index' : Nat} (h : t ∈ Site.sitesFrom component skip index' line cs) :
    ∃ s ∈ Site.sitesFrom component skip index line cs, s.line = t.line := by
  induction cs generalizing skip index index' line with
  | nil => cases skip <;> cases h
  | cons c cs ih =>
    cases skip with
    | succ skip => exact ih (index + 1) h
    | zero =>
      rcases List.mem_append.1 h with h | h
      · obtain ⟨r, body, hr, hbody, rfl⟩ := siteHere?_eq_some.1 (Option.mem_toList.1 h)
        exact ⟨_, List.mem_append_left _ (Option.mem_toList.2 (siteHere?_eq_some.2 ⟨r, body, hr, hbody, rfl⟩)), rfl⟩
      · obtain ⟨s, hs, hline⟩ := ih (index + 1) h
        exact ⟨s, List.mem_append_right _ hs, hline⟩

theorem MayFollow.suffix {r : List Char} (h : MayFollow x u) (hr : r <:+ x) : MayFollow r u := by
  obtain ⟨y, rfl⟩ := hr
  intro hlast
  refine h ?_
  rw [List.getLast?_append, hlast]
  rfl

/-- A site that is there after an insertion before a gap was there before, or its attributes are read on through the
insertion. -/
theorem siteHere?_gap (hc : IsCompact component) {addition : List Char} (hw : IsGap w) (hadded : IsGap (addition ++ w))
    (hfollows : MayFollow x w) (hfollows' : MayFollow x (addition ++ w))
    (h : Site.siteHere? component index line (x ++ (addition ++ w)) = some t) :
    Site.siteHere? component index line (x ++ w) = some t ∨
      ∃ u depth quote body, Site.openTag? depth quote (addition ++ w) = some body ∧
        t.attributes = Site.dropBlankEnd (u ++ body) := by
  obtain ⟨r, body, hr, hbody, rfl⟩ := siteHere?_eq_some.1 h
  obtain ⟨r', hsuffix, rfl, hr'⟩ := opener?_gap_replace hc hadded hw hr
  rcases openTag?_within 0 none r' with ⟨e, -, he⟩ | hpass
  · -- the element is closed before the insertion
    rw [he _ (hfollows'.suffix hsuffix)] at hbody
    obtain rfl := Option.some.inj hbody
    refine Or.inl (siteHere?_eq_some.2 ⟨_, e, hr', he _ (hfollows.suffix hsuffix), ?_⟩)
    congr 1
    simp only [List.length_append]
    omega
  · rw [hpass _ (hfollows'.suffix hsuffix)] at hbody
    obtain ⟨body', hbody', rfl⟩ := Option.map_eq_some_iff.1 hbody
    exact Or.inr ⟨r', _, _, body', hbody', rfl⟩

/-- What an insertion before a gap makes of the sites of a text: a site that is there afterwards was there before, stands
behind the insertion on the line of one that was there before, or has attributes that are read on through it. -/
theorem sitesFrom_gap (hc : IsCompact component) {addition : List Char} (hw : IsGap w) (hadded : IsGap (addition ++ w))
    (hflat : '<' ∉ addition) (hline : '\n' ∉ addition) (hfollows : MayFollow x w) (hfollows' : MayFollow x (addition ++ w))
    (hskip : skip ≤ x.length) (h : t ∈ Site.sitesFrom component skip index line (x ++ (addition ++ w))) :
    t ∈ Site.sitesFrom component skip index line (x ++ w) ∨
      (∃ s ∈ Site.sitesFrom component skip index line (x ++ w),
        s.line = t.line ∧ index + x.length ≤ s.start ∧ index + x.length ≤ t.start) ∨
      ∃ u depth quote body, Site.openTag? depth quote (addition ++ w) = some body ∧
        t.attributes = Site.dropBlankEnd (u ++ body) := by
  induction x generalizing skip index line with
  | nil =>
    obtain rfl : skip = 0 := Nat.le_zero.1 hskip
    have hstart := sitesFrom_start h
    rw [List.nil_append, sitesFrom_pass fun v hv _ => opener?_gap_flat hc hw fun hmem => hflat (hv.subset hmem),
      List.count_eq_zero.2 hline] at h
    obtain ⟨s, hs, hlines⟩ := sitesFrom_moved index h
    exact Or.inr (Or.inl ⟨s, hs, hlines, sitesFrom_start hs, hstart⟩)
  | cons c x ih =>
    have hindex : index + (c :: x).length = index + 1 + x.length := by rw [List.length_cons]; omega
    rw [hindex]
    cases skip with
    | succ skip => exact ih hfollows.tail hfollows'.tail (Nat.le_of_succ_le_succ hskip) h
    | zero =>
      obtain ⟨hlength, hle⟩ := openerLength_gap (x := c :: x) hc hadded hw
      rw [List.cons_append, Site.sitesFrom, List.mem_append, Option.mem_toList] at h
      have hcons : ∀ {s}, s ∈ Site.sitesFrom component 0 index line (c :: x ++ w) ↔
          Site.siteHere? component index line (c :: x ++ w) = some s ∨
            s ∈ Site.sitesFrom component (Site.openerLength component (c :: x ++ (addition ++ w)) - 1) (index + 1)
              (Site.lineAfter c line) (x ++ w) := by
        intro s
        rw [hlength, List.cons_append, Site.sitesFrom, List.mem_append, Option.mem_toList]
      rcases h with h | h
      · rw [← List.cons_append] at h
        rcases siteHere?_gap hc hw hadded hfollows hfollows' h with h | h
        · exact Or.inl (hcons.2 (Or.inl h))
        · exact Or.inr (Or.inr h)
      · have hskip : Site.openerLength component (c :: x ++ (addition ++ w)) - 1 ≤ x.length := by
          rw [List.length_cons] at hle
          omega
        rcases ih hfollows.tail hfollows'.tail hskip h with h | ⟨s, hs, hrest⟩ | h
        · exact Or.inl (hcons.2 (Or.inr h))
        · exact Or.inr (Or.inl ⟨s, hcons.2 (Or.inr hs), hrest⟩)
        · exact Or.inr (Or.inr h)

end

end Suitewright
