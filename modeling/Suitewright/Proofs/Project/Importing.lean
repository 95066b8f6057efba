/-
  What a suite imports.

  * `runs_induction`, `runsOf_append`, `runsOf_map`: the runs of a text, of two parts and of a text with its characters
    changed;
  * `Path.withoutSourceExtension`, `dropSourceExtension_eq`: paths and names without a source extension;
  * `Path.importTarget`: the path that a specifier denotes in a file;
  * `importTarget_importPath`: the file that a suite imports, wherever the suite lies;
  * `suite_imports_component`: in a directory beside the component it is the component.
-/
import Mathlib.Data.List.Induction
import Mathlib.Data.List.TakeWhile
import Suitewright.Component.Naming
import Suitewright.Proofs.Project.Sparing

namespace Suitewright

/-! ## Runs -/

namespace Text

variable {p q : Char → Bool} {c : Char} {u v cs : List Char}

theorem runsOf_skip (hc : p c = false) (v : List Char) : runsOf p (c :: v) = runsOf p v := by
  rw [runsOf.eq_def]
  simp [hc]

theorem runsOf_ne_nil (hc : p c = true) (v : List Char) : runsOf p (c :: v) ≠ [] := by
  rw [runsOf.eq_def]
  dsimp only
  rw [if_pos hc]
  split
  · simp
  · split
    · split
      · simp
      · simp
    · simp

/-- The runs on both sides of a character that is in none. -/
theorem runsOf_append (hc : p c = false) (u v : List Char) : runsOf p (u ++ c :: v) = runsOf p u ++ runsOf p v := by
  induction u with
  | nil => exact runsOf_skip hc v
  | cons d u ih =>
    cases hd : p d with
    | false => rw [List.cons_append, runsOf_skip hd, runsOf_skip hd, ih]
    | true =>
      cases u with
      | nil => simp [runsOf, hd, hc]
      | cons e u =>
        rw [List.cons_append] at ih
        rw [List.cons_append, List.cons_append, runsOf.eq_def p (d :: e :: (u ++ c :: v)), runsOf.eq_def p (d :: e :: u)]
        dsimp only
        rw [if_pos hd, if_pos hd, ih]
        cases he : p e with
        | false => rfl
        | true =>
          obtain ⟨r, rs, hruns⟩ := List.exists_cons_of_ne_nil (runsOf_ne_nil he u)
          rw [hruns]
          rfl

/-- Induction on the characters of a text that are in no run. -/
theorem runs_induction {motive : List Char → Prop} (p : Char → Bool) (whole : ∀ u, u.all p = true → motive u)
    (parted : ∀ u c v, u.all p = true → p c = false → motive v → motive (u ++ c :: v)) (cs : List Char) : motive cs := by
  induction hlength : cs.length using Nat.strongRecOn generalizing cs with
  | ind n ih =>
    have hsplit := List.takeWhile_append_dropWhile (p := p) (l := cs)
    cases hdrop : cs.dropWhile p with
    | nil => exact whole cs (List.all_eq_true.2 (List.dropWhile_eq_nil_iff.1 hdrop))
    | cons c v =>
      have hc : ¬ p c = true := by
        have := List.head_dropWhile_not p (l := cs) (by simp [hdrop])
        simpa [hdrop] using this
      rw [hdrop] at hsplit
      rw [← hsplit] at hlength ⊢
      refine parted _ c v List.all_takeWhile (by simpa using hc) (ih v.length ?_ v rfl)
      rw [← hlength, List.length_append, List.length_cons]
      omega

theorem runsOf_all_eq (h : cs.all p = true) : runsOf p cs = if cs = [] then [] else [cs] := by
  split
  · next hnil => rw [hnil, runsOf]
  · next hne => exact Path.runsOf_single h hne

/-- When characters outside runs stay outside runs, the runs of a changed text are those of its changed runs. -/
theorem runsOf_map {f : Char → Char} (hf : ∀ c, p c = false → q (f c) = false) (cs : List Char) :
    runsOf q (cs.map f) = (runsOf p cs).flatMap fun run => runsOf q (run.map f) := by
  have hwhole : ∀ u : List Char, u.all p = true →
      runsOf q (u.map f) = (runsOf p u).flatMap fun run => runsOf q (run.map f) := by
    intro u hu
    rw [runsOf_all_eq hu]
    split
    · next hnil => rw [hnil]; rfl
    · rw [List.flatMap_singleton]
  induction cs using runs_induction p with
  | whole u hu => exact hwhole u hu
  | parted u c v hu hc ih =>
    rw [List.map_append, List.map_cons, runsOf_append (hf c hc), runsOf_append hc, List.flatMap_append, hwhole u hu, ih]

theorem ne_nil_of_mem_runsOf {run : List Char} (h : run ∈ runsOf p cs) : run ≠ [] := by
  have hwhole : ∀ u : List Char, u.all p = true → run ∈ runsOf p u → run ≠ [] := by
    intro u hu hmem
    rw [runsOf_all_eq hu] at hmem
    split at hmem
    · cases hmem
    · next hne => rwa [List.mem_singleton.1 hmem]
  induction cs using runs_induction p with
  | whole u hu => exact hwhole u hu h
  | parted u c v hu hc ih =>
    rw [runsOf_append hc, List.mem_append] at h
    exact h.elim (hwhole u hu) ih

end Text

open Text

/-! ## Source extensions -/

/-- The path without a source extension at its end; a path with any other ending is left as it is. -/
def Path.withoutSourceExtension (p : Path) : Path :=
  if p.extension.toList ∈ sourceExtensions then { p with segments := p.segments.dropLast ++ [p.stem] } else p

namespace Path

theorem eq_iff {p q : Path} : p = q ↔ p.slashes = q.slashes ∧ p.segments = q.segments :=
  Iff.of_eq (Path.mk.injEq _ _ _ _)

/-- The two parts of a file name make the name. -/
theorem splitName_append (name : String) : (splitName name).1 ++ (splitName name).2 = name := by
  rw [splitName]
  split
  · next h =>
    simp only [Bool.and_eq_true, decide_eq_true_eq] at h
    have hsplit := congrArg List.reverse (List.takeWhile_append_dropWhile (p := (· != '.')) (l := name.toList.reverse))
    rw [List.reverse_append, List.reverse_reverse] at hsplit
    cases hdrop : name.toList.reverse.dropWhile (· != '.') with
    | nil =>
      rw [hdrop, List.reverse_nil, List.nil_append] at hsplit
      rw [hsplit] at h
      exact absurd h.1.1 (Nat.lt_irrefl _)
    | cons c before =>
      obtain rfl : c = '.' := by
        have := List.head_dropWhile_not (· != '.') (l := name.toList.reverse) (by simp [hdrop])
        simpa [hdrop] using this
      rw [hdrop, List.reverse_cons, List.append_assoc] at hsplit
      rw [← String.toList_inj, String.toList_append, String.toList_ofList, String.toList_ofList]
      generalize (name.toList.reverse.takeWhile (· != '.')).reverse = extension at hsplit ⊢
      have hlength : before.length + (extension.length + 1) - extension.length - 1 = before.reverse.length := by
        rw [List.length_reverse]
        omega
      rw [← hsplit]
      simp [hlength]
  · exact String.append_empty

/-- A name that goes on with a point and then without one ends with them. -/
theorem splitName_dot {stem extension : List Char} (hstem : stem ≠ []) (hne : extension ≠ []) (hdot : '.' ∉ extension) :
    splitName (.ofList (stem ++ '.' :: extension)) = (.ofList stem, .ofList ('.' :: extension)) := by
  have hlast : ((stem ++ '.' :: extension).reverse.takeWhile (· != '.')).reverse = extension := by
    have hall : ∀ c ∈ extension.reverse, (c != '.') = true := fun c hc => by
      rw [bne_iff_ne]
      rintro rfl
      exact hdot (List.mem_reverse.1 hc)
    rw [List.reverse_append, List.reverse_cons, List.append_assoc, List.takeWhile_append_of_pos hall]
    simp
  have htake : (stem ++ '.' :: extension).take ((stem ++ '.' :: extension).length - extension.length - 1) = stem := by
    rw [List.take_append_of_le_length (by simp; omega), List.take_of_length_le (by simp; omega)]
  rw [splitName]
  simp only [String.toList_ofList, hlast, htake]
  rw [if_pos]
  simp [hstem, hne]
  omega

theorem splitName_head (name : String) : (splitName name).1.toList.head? = name.toList.head? := by
  rw [splitName]
  split
  · next h =>
    simp only [Bool.and_eq_true] at h
    rw [String.toList_ofList, List.head?_take, if_neg]
    intro hzero
    rw [hzero] at h
    cases h.2
  · rfl

end Path

theorem sourceExtensions_dot {e : List Char} (h : e ∈ sourceExtensions) :
    ∃ extension, e = '.' :: extension ∧ extension ≠ [] ∧ '.' ∉ extension := by
  have htable : ∀ e ∈ sourceExtensions, e = '.' :: e.tail ∧ e.tail ≠ [] ∧ '.' ∉ e.tail := by decide
  exact ⟨e.tail, htable e h⟩

/-- Dropping a source extension leaves the stem of a visible name that has one. -/
theorem dropSourceExtension_eq {name : String} (hvisible : name.toList.head? ≠ some '.')
    (hunbroken : name.toList.getLast? ≠ some '\n') : dropSourceExtension name.toList =
      if (Path.splitName name).2.toList ∈ sourceExtensions then (Path.splitName name).1.toList else name.toList := by
  have hbody : dropSourceExtension name.toList = (sourceExtensions.find? (·.isSuffixOf name.toList)).elim name.toList
      fun e => name.toList.take (name.toList.length - e.length) := by
    rw [dropSourceExtension]
    split
    next body tail hsplit =>
    split at hsplit
    · next rest hrev =>
      rw [← List.head?_reverse, hrev] at hunbroken
      exact absurd rfl hunbroken
    · obtain ⟨rfl, rfl⟩ := Prod.mk.inj hsplit
      cases sourceExtensions.find? (·.isSuffixOf name.toList) with
      | some e => exact List.append_nil _
      | none => rfl
  rw [hbody]
  cases hfind : sourceExtensions.find? (·.isSuffixOf name.toList) with
  | some e =>
    have hsuffix := List.find?_some hfind
    obtain ⟨stem, hname⟩ := List.isSuffixOf_iff_suffix.1 hsuffix
    obtain ⟨extension, rfl, hne, hdot⟩ := sourceExtensions_dot (List.mem_of_find?_eq_some hfind)
    have hstem : stem ≠ [] := by
      rintro rfl
      exact hvisible (by rw [← hname]; rfl)
    have hsplit : Path.splitName name = (.ofList stem, .ofList ('.' :: extension)) := by
      rw [← Path.splitName_dot hstem hne hdot, hname, String.ofList_toList]
    rw [Option.elim_some, hsplit, String.toList_ofList, String.toList_ofList, if_pos (List.mem_of_find?_eq_some hfind),
      ← hname]
    simp
  | none =>
    rw [Option.elim_none, if_neg]
    intro hmem
    refine List.find?_eq_none.1 hfind _ hmem (List.isSuffixOf_iff_suffix.2 ⟨(Path.splitName name).1.toList, ?_⟩)
    rw [← String.toList_append, Path.splitName_append]

/-! ## Specifiers -/

namespace Path

/-- The path that a relative specifier denotes in a file. -/
def importTarget (file : Path) (specifier : String) : Path := resolveIn file.parent (ofText specifier)

theorem normalize_append (done names rest : List String) :
    normalize done (names ++ rest) = normalize (normalize done names).reverse rest := by
  induction names generalizing done with
  | nil => rw [List.nil_append, normalize, List.reverse_reverse]
  | cons name names ih =>
    rw [List.cons_append, normalize, normalize]
    split
    · exact ih _
    · exact ih _

theorem ofText_append (first rest : String) :
    (ofText (first ++ "/" ++ rest)).segments = (ofText first).segments ++ (ofText rest).segments := by
  have hslash : "/".toList = ['/'] := by decide
  simp only [ofText, String.toList_append, hslash, List.append_assoc, List.singleton_append]
  rw [runsOf_append (by decide), List.map_append, List.filter_append]

/-- The names that runs of characters are; a single point is none. -/
def namesOf (runs : List (List Char)) : List String := (runs.map String.ofList).filter (· != ".")

theorem namesOf_append (runs runs' : List (List Char)) : namesOf (runs ++ runs') = namesOf runs ++ namesOf runs' := by
  rw [namesOf, List.map_append, List.filter_append]
  rfl

/-- Cutting the runs with backslashes into more runs leaves a last name without one. -/
theorem namesOf_flatMap_last {f : List Char → List (List Char)} {runs : List (List Char)} {name : String}
    (hf : ∀ run ∈ runs, '\\' ∉ run → f run = [run]) (h : (namesOf runs).getLast? = some name)
    (hname : '\\' ∉ name.toList) :
    (namesOf (runs.flatMap f)).getLast? = some name := by
  induction runs using List.reverseRecOn with
  | nil => cases h
  | append_singleton runs run ih =>
    have hrun := hf run (by simp)
    rw [namesOf_append] at h
    rw [List.flatMap_append, namesOf_append, List.flatMap_singleton]
    by_cases hpoint : run = ['.']
    · -- a single point is passed over both times
      have hnone : namesOf [['.']] = [] := by decide
      subst hpoint
      rw [hnone, List.append_nil] at h
      rw [hrun (by decide), hnone, List.append_nil]
      exact ih (fun r hr => hf r (by simp [hr])) h
    · have hone : namesOf [run] = [.ofList run] := by
        have hne : String.ofList run ≠ "." := fun heq => hpoint (by rw [← String.toList_ofList (l := run), heq]; rfl)
        simp [namesOf, hne]
      rw [hone, List.getLast?_concat] at h
      obtain rfl := Option.some.inj h
      rw [String.toList_ofList] at hname
      rw [hrun hname, hone, List.getLast?_concat]

/-- A last name without a backslash stays the last name when backslashes count as slashes. -/
theorem ofSource_last {text name : String} (h : (ofText text).segments.getLast? = some name) (hname : '\\' ∉ name.toList) :
    (ofSource text).segments.getLast? = some name := by
  have hruns : (ofSource text).segments = namesOf ((runsOf (· != '/') text.toList).flatMap fun run =>
      runsOf (· != '/') (run.map fun c => if c == '\\' then '/' else c)) := by
    rw [← runsOf_map (p := (· != '/'))]
    · simp only [ofSource, ofText, String.toList_ofList]
      rfl
    · intro c hc
      obtain rfl : c = '/' := by simpa using hc
      rfl
  rw [hruns]
  refine namesOf_flatMap_last (fun run hrun hback => ?_) h hname
  have hsame : (run.map fun c => if c == '\\' then '/' else c) = run := by
    refine (List.map_congr_left (g := id) fun c hc => ?_).trans (List.map_id run)
    rw [if_neg]
    · rfl
    · rw [beq_iff_eq]
      rintro rfl
      exact hback hc
  rw [hsame, runsOf_single (runsOf_all _ run hrun) (ne_nil_of_mem_runsOf hrun)]

theorem ofText_ne_empty {text name : String} (h : name ∈ (ofText text).segments) : name ≠ "" := by
  obtain ⟨run, hrun, rfl⟩ := List.mem_map.1 (List.mem_filter.1 h).1
  intro hempty
  exact ne_nil_of_mem_runsOf hrun (String.ofList_eq_empty_iff.1 hempty)

end Path

/-! ## Components -/

/-- Names of source files that are not hidden, hold no backslash and do not end in a line feed. -/
structure IsSourceName (name : String) : Prop where
  visible : name.toList.head? ≠ some '.'
  plain : '\\' ∉ name.toList
  unbroken : name.toList.getLast? ≠ some '\n'

/-- Settings by which a suite lies in a directory of one name beside its component. -/
structure Settings.Beside (settings : Settings) : Prop where
  ordinary : settings.testDir ∉ ["", ".", ".."]
  flat : '/' ∉ settings.testDir.toList
  ending : '/' ∉ settings.suffix.toList

namespace Path

/-- The name of a file without a source extension. -/
def bareName (p : Path) : String := if p.extension.toList ∈ sourceExtensions then p.stem else p.name

variable {p : Path} {file : String}

theorem getLast?_eq_name (h : p.name ≠ "") : p.segments.getLast? = some p.name := by
  cases hlast : p.segments.getLast? with
  | none => exact absurd (by rw [name, hlast]; rfl) h
  | some name => rw [Path.name, hlast]; rfl

theorem withoutSourceExtension_eq (h : p.name ≠ "") :
    p.withoutSourceExtension = { p with segments := p.segments.dropLast ++ [p.bareName] } := by
  rw [withoutSourceExtension, bareName]
  split
  · rfl
  · obtain ⟨above, habove⟩ := List.getLast?_eq_some_iff.1 (getLast?_eq_name h)
    have hsegments : p.segments.dropLast ++ [p.name] = p.segments := by
      conv_lhs => rw [habove, List.dropLast_concat]
      rw [← habove]
    rw [hsegments]

theorem dropSourceExtension_name (hname : IsSourceName p.name) : dropSourceExtension p.name.toList = p.bareName.toList := by
  rw [dropSourceExtension_eq hname.visible hname.unbroken, bareName, apply_ite String.toList]
  rfl

theorem bareName_head (p : Path) : p.bareName.toList.head? = p.name.toList.head? := by
  rw [bareName]
  split
  · exact splitName_head p.name
  · rfl

theorem bareName_flat (h : '/' ∉ p.name.toList) : '/' ∉ p.bareName.toList := by
  rw [bareName]
  split
  · exact stem_flat h
  · exact h

/-- A text that begins as a name that is not hidden is no directory seen from another one. -/
theorem ne_dots {name text : String} (hempty : name ≠ "") (hvisible : name.toList.head? ≠ some '.')
    (h : text.toList.head? = name.toList.head?) : text ≠ "" ∧ text ≠ "." ∧ text ≠ ".." := by
  refine ⟨?_, ?_, ?_⟩
  · rintro rfl
    exact hempty (String.toList_inj.1 (List.head?_eq_none_iff.1 h.symm))
  · rintro rfl
    exact hvisible h.symm
  · rintro rfl
    exact hvisible h.symm

/-- A suite names its component's file in the directory above its own. -/
theorem ofText_importPath (hlast : (ofText file).segments.getLast? = some p.name) (hname : IsSourceName p.name) :
    ofText (importPath file) = ⟨0, ["..", p.bareName]⟩ := by
  have hmem := List.mem_of_getLast? hlast
  obtain ⟨hempty, hpoint, -⟩ := ne_dots (ofText_ne_empty hmem) hname.visible p.bareName_head
  have hsource : (ofSource file).name = p.name := by rw [Path.name, ofSource_last hlast hname.plain]; rfl
  have hup : (ofText "..").segments = [".."] := by decide
  have hspecifier : importPath file = ".." ++ "/" ++ p.bareName := by
    rw [importPath, hsource, dropSourceExtension_name hname, String.ofList_toList]
    rfl
  have hslashes : (ofText (importPath file)).slashes = 0 := by
    rw [importPath, ofText, String.toList_append]
    rfl
  have hsegments : (ofText (importPath file)).segments = ["..", p.bareName] := by
    rw [hspecifier, ofText_append, hup, ofText_segment (bareName_flat (ofText_proper file _ hmem)) hempty hpoint]
    rfl
  exact eq_iff.2 ⟨hslashes, hsegments⟩

/-- What a suite imports, wherever it lies. -/
theorem importTarget_importPath {suite : Path} (hplain : ".." ∉ suite.segments)
    (hlast : (ofText file).segments.getLast? = some p.name) (hname : IsSourceName p.name) :
    suite.importTarget (importPath file) = ⟨1, suite.parent.parent.segments ++ [p.bareName]⟩ := by
  obtain ⟨-, -, hup⟩ := ne_dots (ofText_ne_empty (List.mem_of_getLast? hlast)) hname.visible p.bareName_head
  have hdirectory : ".." ∉ suite.parent.segments := fun hmem => hplain (List.dropLast_subset _ hmem)
  rw [importTarget, ofText_importPath hlast hname, resolveIn]
  show (⟨1, normalize [] (suite.parent.segments ++ ["..", p.bareName])⟩ : Path) = _
  rw [normalize_append, normalize_plain hdirectory, List.reverse_nil, List.nil_append, normalize, if_pos (beq_self_eq_true _),
    normalize, if_neg (by simpa using hup), normalize, List.reverse_cons, List.tail_reverse, List.reverse_reverse]
  rfl

end Path

/-- A suite in a directory of its own beside the component imports the component, wherever the component's file lies. -/
theorem suite_imports_component {fs : Files} {root component : Path} {file : String} {settings : Settings}
    (hroot : root.slashes = 1) (hcomponent : fs.resolve (root.child file) = .ok component)
    (hlast : (Path.ofText file).segments.getLast? = some component.name) (hname : IsSourceName component.name)
    (hsettings : settings.Beside) {given : Option String} (hgiven : ∀ text ∈ given, text = "") :
    (outputPath fs.here component root given settings).importTarget (importPath file) = component.withoutSourceExtension := by
  obtain ⟨hordinary, hflat, hending⟩ := hsettings
  simp only [List.mem_cons, List.not_mem_nil, or_false, not_or] at hordinary
  have hmem := List.mem_of_getLast? hlast
  have hempty := Path.ofText_ne_empty hmem
  have habsolute : component.slashes = 1 := by
    rw [Files.eq_of_resolve hcomponent]
    rfl
  have hplain : ".." ∉ component.segments := by
    rw [Files.eq_of_resolve hcomponent]
    exact Path.normalize_inside _ List.not_mem_nil
  -- the suite's file is named after the component and lies one directory below the component's
  have hdirs : Path.ofText settings.testDir = ⟨0, [settings.testDir]⟩ :=
    Path.ofText_segment hflat hordinary.1 hordinary.2.1
  have hhead : (component.stem ++ settings.suffix).toList.head? = component.name.toList.head? := by
    obtain ⟨c, hc⟩ : ∃ c, component.name.toList.head? = some c := by
      refine Option.ne_none_iff_exists'.1 fun hnone => hempty ?_
      exact String.toList_inj.1 (List.head?_eq_none_iff.1 hnone)
    rw [String.toList_append, List.head?_append, Path.stem, Path.splitName_head, hc, Option.some_or]
  obtain ⟨hne, hpoint, hup⟩ := Path.ne_dots hempty hname.visible hhead
  have hfile : Path.ofText (component.stem ++ settings.suffix) = ⟨0, [component.stem ++ settings.suffix]⟩ := by
    refine Path.ofText_segment ?_ hne hpoint
    rw [String.toList_append, List.mem_append, not_or]
    exact ⟨Path.stem_flat (Path.ofText_proper file _ hmem), hending⟩
  have hpath := outputPath_below hdirs hfile habsolute hroot hgiven fs.here
  have hinside : ".." ∉ component.segments.dropLast ++ [settings.testDir] ++ [component.stem ++ settings.suffix] := by
    simp only [List.mem_append, List.mem_singleton, not_or]
    exact ⟨⟨fun hmem => hplain (List.dropLast_subset _ hmem), Ne.symm hordinary.2.2⟩, Ne.symm hup⟩
  rw [hpath, Path.importTarget_importPath hinside hlast hname, Path.withoutSourceExtension_eq hempty, habsolute]
  simp [Path.parent]

/-- A component outside of the project, given by a path that goes up, with two points in its name. -/
def outsideGrid : Path := ⟨1, ["q", "lib", "Grid.view.tsx"]⟩

theorem suite_imports_component_outside :
    (outputPath ⟨1, ["home"]⟩ outsideGrid ⟨1, ["p"]⟩ none { testDir := "specs", suffix := "-spec.tsx" }).importTarget
      (importPath "src\\x/../../../q/lib/Grid.view.tsx") = ⟨1, ["q", "lib", "Grid.view"]⟩ := by
  have htarget := @suite_imports_component { here := ⟨1, ["home"]⟩ } ⟨1, ["p"]⟩ outsideGrid
    "src\\x/../../../q/lib/Grid.view.tsx" { testDir := "specs", suffix := "-spec.tsx" } rfl (by decide) (by decide)
    ⟨by decide, by decide, by decide⟩ ⟨by decide, by decide, by decide⟩ none nofun
  exact htarget.trans (by decide)

end Suitewright
