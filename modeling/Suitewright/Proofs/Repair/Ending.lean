/-
  Suites keep their last line feed.

  * `endsOnLine_doubleQuoted?`, `endsOnLine_leadingComma?`, ...: no match of a rule ends with a line break;
  * `sitesFrom_stop`: the attributes of a site end before the text does;
  * `mend_ends`, `repair_ends`: a repaired suite ends with a line feed, as `suite_ends`: the suite of a component does.
-/
import Suitewright.Proofs.Failure.Reading
import Suitewright.Proofs.Repair.Injection
import Suitewright.Proofs.Repair.Leftovers
import Suitewright.Suite.Render

namespace Suitewright

open Text

/-! ## The patterns of the rules -/

theorem endsOnLine_doubleQuoted? : EndsOnLine fun _ => doubleQuoted? := by
  intro _ cs a rest h
  obtain ⟨value, -, -, rfl, -⟩ := doubleQuoted?_eq_some h
  exact ⟨'=' :: '"' :: '\'' :: (value ++ ['\'']), '"', by decide, by simp [twiceQuoted]⟩

theorem Spaced.last {parts : List (List Char)} {c : Char} {v : List Char} (h : Spaced parts v)
    (hlast : parts.getLast? = some [c]) : ∃ u, v = u ++ [c] := by
  induction parts generalizing v with
  | nil => cases hlast
  | cons part parts ih =>
    obtain ⟨z, w, -, hw, rfl⟩ := h
    cases parts with
    | nil =>
      obtain rfl : part = [c] := Option.some.inj hlast
      obtain rfl : w = [] := hw
      exact ⟨z, by simp⟩
    | cons next parts =>
      rw [List.getLast?_cons_cons] at hlast
      obtain ⟨u, rfl⟩ := ih hw hlast
      exact ⟨z ++ (part ++ u), by simp⟩

theorem endsOnLine_leadingComma? : EndsOnLine fun _ => leadingComma? := by
  intro _ cs a rest h
  obtain ⟨name, t, -, ht, rfl, -⟩ := leadingComma?_iff.1 h
  obtain ⟨u, rfl⟩ := ht.last rfl
  exact ⟨attributeText name u, '\x7d', by decide, by simp [attributeText]⟩

theorem endsOnLine_danglingClosure? : EndsOnLine fun _ => danglingClosure? := by
  intro _ cs a rest h
  obtain ⟨name, t, -, ht, rfl, -⟩ := danglingClosure?_eq_some h
  obtain ⟨u, rfl⟩ : ∃ u, t = u ++ ['\x7d'] := by
    rcases ht with ht | ht <;> exact ht.last rfl
  exact ⟨attributeText name ('(' :: ')' :: u), '\x7d', by decide, by simp [attributeText]⟩

theorem endsOnLine_importOf? (module target : List Char) : EndsOnLine (importOf? module target) := by
  intro before cs a rest h
  obtain ⟨-, names, blanks, q, himports, rfl, -⟩ := importOf?_eq_some h
  refine ⟨"import".toList ++ (names ++ ("from".toList ++ (blanks ++ q :: module))), q, ?_, by simp⟩
  rcases Bool.or_eq_true_iff.1 himports.quote with hq | hq <;> rw [beq_iff_eq.1 hq] <;> decide

theorem importEnd?_from {cs r : List Char} (h : importEnd? cs = some r) : ∃ u, cs = u ++ ("from".toList ++ r) := by
  simp only [importEnd?, Option.bind_eq_bind, Option.bind_eq_some_iff] at h
  obtain ⟨rest, hbrace, hfrom⟩ := h
  have hcs : cs = cs.takeWhile (· != '\x7d') ++ ('\x7d' :: rest) := by
    have := after?_eq_some.1 hbrace
    rw [← show cs.dropWhile (· != '\x7d') = '\x7d' :: rest from this]
    exact List.takeWhile_append_dropWhile.symm
  have hrest : rest = rest.takeWhile isBlank ++ ("from".toList ++ r) := by
    rw [← after?_eq_some.1 hfrom]
    exact List.takeWhile_append_dropWhile.symm
  exact ⟨cs.takeWhile (· != '\x7d') ++ ('\x7d' :: rest.takeWhile isBlank), by
    rw [List.append_assoc, List.cons_append, ← hrest, ← hcs]⟩

theorem symbolHere?_from {symbol cs r : List Char} {before : Option Char} (h : symbolHere? symbol before cs = some r) :
    ∃ u, cs = u ++ ("from".toList ++ r) := by
  rw [symbolHere?] at h
  split at h
  · split at h
    · next rest hafter =>
      split at h
      · obtain ⟨u, rfl⟩ := importEnd?_from h
        exact ⟨symbol ++ u, by rw [after?_eq_some.1 hafter, List.append_assoc]⟩
      · cases h
    · cases h
  · cases h

theorem symbolInBraces?_from {symbol cs r : List Char} {before : Option Char}
    (h : symbolInBraces? symbol before cs = some r) : ∃ u, cs = u ++ ("from".toList ++ r) := by
  induction cs generalizing before with
  | nil => exact symbolHere?_from h
  | cons c cs ih =>
    rw [symbolInBraces?, Option.or_eq_some_iff] at h
    rcases h with h | ⟨-, h⟩
    · split at h
      · cases h
      · obtain ⟨u, rfl⟩ := ih h
        exact ⟨c :: u, rfl⟩
    · exact symbolHere?_from h

theorem endsOnLine_namedImportOf? (symbol : List Char) (text : List Char → List Char → List Char) :
    EndsOnLine fun _ cs => (namedImportOf? symbol cs).map fun rest => (text cs rest, rest) := by
  intro _ cs a rest h
  obtain ⟨rest', himport, heq⟩ := Option.map_eq_some_iff.1 h
  obtain ⟨-, rfl⟩ := Prod.mk.inj heq
  obtain ⟨blanks, v, -, rfl, hv⟩ := namedImportOf?_eq_some himport
  obtain ⟨u, rfl⟩ := symbolInBraces?_from hv
  exact ⟨"import".toList ++ (blanks ++ '\x7b' :: (u ++ "fro".toList)), 'm', by decide, by simp⟩

theorem endsOnLine_fixed? {text replacement u : List Char} {c : Char} (htext : text = u ++ [c]) (hc : isLineBreak c = false) :
    EndsOnLine fun _ => fixed? text replacement := by
  intro _ cs a rest h
  obtain ⟨rest', hafter, heq⟩ := Option.map_eq_some_iff.1 h
  obtain ⟨-, rfl⟩ := Prod.mk.inj heq
  exact ⟨u, c, hc, by rw [after?_eq_some.1 hafter, htext]; simp⟩

theorem endsOnLine_familyClass? (family : String) : EndsOnLine fun _ => familyClass? family := by
  intro _ cs a rest h
  obtain ⟨value, -, -, rfl, -⟩ := familyClass?_eq_some h
  have hend : assertionEnd = "\")".toList ++ [';'] := by decide
  refine ⟨assertionStart ++ (family.toList ++ ['-', '-'] ++ value ++ "\")".toList), ';', by decide, ?_⟩
  rw [assertion, hend]
  simp

theorem endsOnLine_textToTestId (m : Component) : EndsOnLine fun _ => textToTestId m := by
  intro _ cs a rest h
  obtain ⟨⟨v, ⟨c, w, -, -, rfl⟩, rfl⟩, -⟩ := textToTestId_eq_some h
  exact ⟨"screen.getByText(".toList ++ ("test".toList ++ c :: w), ')', by decide, by simp⟩

theorem endsOnLine_imageToIcon : EndsOnLine fun _ => imageToIcon := by
  intro _ cs a rest h
  obtain ⟨⟨t, ht, rfl⟩, -⟩ := imageToIcon_eq_some h
  rcases ht with rfl | rfl
  · have hquery : imageQuery = imageQuery.dropLast ++ [')'] := by decide
    exact ⟨imageQuery.dropLast, ')', by decide, by rw [hquery]; simp⟩
  · have hend : Query.iconEnd = Query.iconEnd.dropLast ++ [')'] := by decide
    exact ⟨imageQuery ++ Query.iconEnd.dropLast, ')', by decide, by rw [hend]; simp⟩

/-! ## Missing properties -/

theorem openTag?_length {depth : Int} {quote : Option Char} {cs body : List Char}
    (h : Site.openTag? depth quote cs = some body) : body.length < cs.length := by
  induction cs generalizing depth quote body with
  | nil => cases h
  | cons c cs ih =>
    have hmap : ∀ {depth quote}, (Site.openTag? depth quote cs).map (c :: ·) = some body → body.length < (c :: cs).length := by
      intro depth quote hsome
      obtain ⟨body', hbody, rfl⟩ := Option.map_eq_some_iff.1 hsome
      exact Nat.succ_lt_succ (ih hbody)
    cases quote with
    | some q => exact hmap h
    | none =>
      rw [Site.openTag?] at h
      repeat' split at h
      all_goals first
        | exact hmap h
        | (obtain rfl := Option.some.inj h; exact Nat.succ_pos _)

theorem dropBlankEnd_length (cs : List Char) : (Site.dropBlankEnd cs).length ≤ cs.length := by
  rw [Site.dropBlankEnd, List.length_reverse]
  exact (List.dropWhile_suffix isBlank).length_le.trans (Nat.le_of_eq List.length_reverse)

theorem opener?_suffix {component cs rest : List Char} (h : Site.opener? component cs = some rest) : rest.length ≤ cs.length := by
  simp only [Site.opener?, Option.bind_eq_bind, Option.bind_eq_some_iff] at h
  obtain ⟨r₁, h₁, r₂, h₂, h⟩ := h
  split at h
  · obtain rfl := Option.some.inj h
    have hskip : (skipBlanks r₁).length ≤ r₁.length := (List.dropWhile_suffix _).length_le
    rw [after?_eq_some.1 h₂, List.length_append] at hskip
    rw [after?_eq_some.1 h₁, List.length_append]
    omega
  · cases h

theorem siteHere?_stop {component cs : List Char} {index line : Nat} {s : Site}
    (h : Site.siteHere? component index line cs = some s) : s.stop < index + cs.length := by
  simp only [Site.siteHere?, Option.bind_eq_bind, Option.bind_eq_some_iff] at h
  obtain ⟨rest, hrest, body, hbody, heq⟩ := h
  obtain rfl := Option.some.inj heq
  have := opener?_suffix hrest
  have := openTag?_length hbody
  have := dropBlankEnd_length body
  dsimp only
  omega

/-- Attributes of a site end before the text does. -/
theorem sitesFrom_stop {component : List Char} {skip index line : Nat} {cs : List Char} :
    ∀ s ∈ Site.sitesFrom component skip index line cs, s.stop < index + cs.length := by
  induction cs generalizing skip index line with
  | nil => cases skip <;> exact fun _ h => (List.not_mem_nil h).elim
  | cons c cs ih =>
    have hlater : ∀ {skip line}, ∀ s ∈ Site.sitesFrom component skip (index + 1) line cs, s.stop < index + (c :: cs).length := by
      intro skip line s hs
      have := ih s hs
      rw [List.length_cons]
      omega
    cases skip with
    | succ skip => exact hlater
    | zero =>
      intro s hs
      rw [Site.sitesFrom, List.mem_append, Option.mem_toList] at hs
      rcases hs with hs | hs
      · exact siteHere?_stop hs
      · exact hlater s hs

theorem injectProp_getLast? {m : Component} {prop : String} {line : Option Int} {source : List Char}
    (h : source.getLast? = some '\n') : (injectProp m prop line source).getLast? = some '\n' := by
  rw [injectProp]
  cases hinjection : injection? m prop line source with
  | none => exact h
  | some found =>
    obtain ⟨site, addition⟩ := found
    simp only [injection?, Option.bind_eq_bind, Option.bind_eq_some_iff] at hinjection
    obtain ⟨site', hsite, heq⟩ := hinjection
    split at heq
    · cases heq
    · obtain ⟨rfl, -⟩ := Prod.mk.inj (Option.some.inj heq)
      have hstop := sitesFrom_stop site' (nearestSite?_mem hsite)
      rw [Nat.zero_add] at hstop
      have hne : source.drop site'.stop ≠ [] := mt List.drop_eq_nil_iff.1 (Nat.not_le.2 hstop)
      have hsource := h
      rw [← List.take_append_drop site'.stop source, getLast?_of_ne_nil hne] at hsource
      dsimp only
      rw [List.append_cons, getLast?_of_ne_nil hne, hsource]

/-! ## Repairs -/

/-- A suite that ends with a line feed. -/
def EndsWithNewline (source : String) : Prop := source.toList.getLast? = some '\n'

theorem suite_ends (m : Component) : EndsWithNewline m.suite := by
  rw [EndsWithNewline, Component.suite, Component.renderSuite, String.toList_append, getLast?_of_ne_nil (by decide)]
  rfl

theorem defaultImport_getLast? {symbol : String} {source revised : List Char} (h : defaultImport symbol source = .ok revised)
    (hlast : source.getLast? = some '\n') : revised.getLast? = some '\n' := by
  obtain ⟨parts, -, h⟩ := bind_eq_ok.1 h
  obtain rfl := Except.ok.inj h
  exact (endsOnLine_namedImportOf? symbol.toList fun cs rest =>
    Template.fill parts (cs.take (cs.length - rest.length))).replaceFrom hlast

theorem endsOnLine_roleQuery (role : String) (replacement : List Char) :
    EndsOnLine fun _ => fixed? (roleQuery role) replacement := by
  refine endsOnLine_fixed? (u := "screen.getByRole(\"".toList ++ (quoteBody role.toList ++ ['"'])) (c := ')') ?_ (by decide)
  rw [roleQuery, roleText]
  simp

theorem replaceClassAssertions_getLast? {source : List Char} (hlast : source.getLast? = some '\n') :
    (replaceClassAssertions source).getLast? = some '\n' := by
  have htext : ∀ name, (classAssertionText name).toList = assertionStart ++ (name.toList ++ "\")".toList) ++ [';'] := fun name => by
    rw [classAssertionText_toList, assertion]
    simp [assertionEnd]
  have hclass : ∀ name replacement, EndsOnLine fun _ => fixed? (classAssertionText name).toList replacement :=
    fun name _ => endsOnLine_fixed? (htext name) (by decide)
  exact (endsOnLine_familyClass? "variant").replaceFrom ((endsOnLine_familyClass? "size").replaceFrom
    ((hclass "loading" _).replaceFrom ((hclass "disabled" _).replaceFrom hlast)))

theorem replaceStatusOrImage_getLast? {role : String} {source : List Char} (hlast : source.getLast? = some '\n') :
    (replaceStatusOrImage role source).getLast? = some '\n' := by
  have hstatus : statusQuery.toList = statusQuery.toList.dropLast ++ [')'] := by decide
  rw [replaceStatusOrImage]
  split
  · exact (endsOnLine_fixed? hstatus (by decide)).replaceFrom hlast
  · exact endsOnLine_imageToIcon.replaceFrom hlast

/-- The rules keep a line feed at the end. -/
theorem mendChars_getLast? {s : Signal} {m : Component} {path : String} {source revised : List Char}
    (h : s.mendChars m path source = .ok revised) (hlast : source.getLast? = some '\n') : revised.getLast? = some '\n' := by
  cases s with
  | namedImportMissing symbol => exact defaultImport_getLast? h hlast
  | quotedLiteral =>
    obtain rfl := Except.ok.inj h
    exact endsOnLine_doubleQuoted?.replaceFrom hlast
  | malformedClosure =>
    obtain rfl := Except.ok.inj h
    exact endsOnLine_danglingClosure?.replaceFrom (endsOnLine_leadingComma?.replaceFrom hlast)
  | unresolvedImport module =>
    obtain rfl := Except.ok.inj h
    exact (endsOnLine_importOf? _ _).replaceFrom hlast
  | roleNotFound role =>
    obtain rfl := Except.ok.inj h
    exact (endsOnLine_roleQuery role _).replaceFrom hlast
  | missingProp prop line =>
    obtain rfl := Except.ok.inj h
    exact injectProp_getLast? hlast
  | classMismatch =>
    obtain rfl := Except.ok.inj h
    exact replaceClassAssertions_getLast? hlast
  | textNotFound =>
    obtain rfl := Except.ok.inj h
    exact (endsOnLine_textToTestId m).replaceFrom hlast
  | statusOrImageRole role =>
    obtain rfl := Except.ok.inj h
    exact replaceStatusOrImage_getLast? hlast

section
variable {m : Component} {source revised : String}

theorem mend_ends {s : Signal} {path : String} (h : s.mend source m path = .ok revised) (hsource : EndsWithNewline source) :
    EndsWithNewline revised := by
  obtain ⟨chars, hchars, h⟩ := bind_eq_ok.1 h
  obtain rfl := Except.ok.inj h
  rw [EndsWithNewline, String.toList_ofList]
  exact mendChars_getLast? hchars hsource

theorem mendAll_ends {signals : List Signal} {path : String} (h : mendAll m path signals source = .ok revised)
    (hsource : EndsWithNewline source) : EndsWithNewline revised := by
  induction signals generalizing source with
  | nil =>
    obtain rfl := Except.ok.inj h
    exact hsource
  | cons s signals ih =>
    rw [mendAll, List.foldlM_cons] at h
    obtain ⟨next, hnext, h⟩ := bind_eq_ok.1 h
    exact ih h (mend_ends hnext hsource)

/-- A repaired suite ends with a line feed if the suite does. -/
theorem repair_ends {output : String} {path : Option String} (h : repair source output m path = .ok revised)
    (hsource : EndsWithNewline source) : EndsWithNewline revised := by
  obtain ⟨signals, -, h⟩ := bind_eq_ok.1 h
  rw [mapError_eq_ok] at h
  exact mendAll_ends h hsource

end

end Suitewright
