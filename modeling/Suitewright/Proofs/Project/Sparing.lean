/-
  What saving a file spares.

  * `Files.Spares`: directories stay, and so do the files at all places but that of a path;
  * `save_spares`: saving a file is of this kind, whether it succeeds or fails;
  * `Spares.read`: a file at another place reads as before;
  * `outputPath_place`: a suite in a directory of suites below the component's is not at the component's place.
-/
import Suitewright.Project.Settings
import Suitewright.Proofs.Project.Writing
import Suitewright.Proofs.Text.Tame

namespace Suitewright

namespace Files

variable {fs fs' fs'' : Files} {path other : Path} {place q : Place} {bytes : List UInt8}

/-- Directories stay, and so do the files at all places but that of a path. -/
structure Spares (path : Path) (fs fs' : Files) : Prop where
  here : fs'.here = fs.here
  directory : ∀ q, fs.get? q = some .directory → fs'.get? q = some .directory
  file : ∀ q bytes, q ≠ Path.place fs.here path → fs.get? q = some (.file bytes) → fs'.get? q = some (.file bytes)

namespace Spares

theorem refl (path : Path) (fs : Files) : Spares path fs fs := ⟨rfl, fun _ h => h, fun _ _ _ h => h⟩

theorem trans (h : Spares path fs fs') (h' : Spares path fs' fs'') : Spares path fs fs'' where
  here := h'.here.trans h.here
  directory q hq := h'.directory q (h.directory q hq)
  file q bytes hne hq := h'.file q bytes (h.here ▸ hne) (h.file q bytes hne hq)

/-- A walk to a file at another place finds it as before. -/
theorem locateFrom (h : Spares path fs fs') (hq : q ≠ Path.place fs.here path) (names : List String)
    (hl : fs.locateFrom place names = .found q (.file bytes)) :
    fs'.locateFrom place names = .found q (.file bytes) := by
  induction names generalizing place with
  | nil => simp [Files.locateFrom] at hl
  | cons name rest ih =>
    rw [Files.locateFrom] at hl ⊢
    split at hl
    · next hup =>
      rw [if_pos hup]
      exact ih hl
    · next hup =>
      rw [if_neg hup]
      dsimp only at hl ⊢
      split at hl
      · next hget =>
        rw [h.directory _ hget]
        exact ih hl
      · next bytes' hget =>
        split at hl
        · next hrest =>
          obtain ⟨rfl, rfl⟩ : _ = q ∧ bytes' = bytes := by simpa using hl
          rw [h.file _ _ hq hget]
          simp [hrest]
        · cases hl
      · split at hl <;> cases hl

/-- A file at another place reads as before. -/
theorem read (h : Spares path fs fs') (hplace : Path.place fs.here other ≠ Path.place fs.here path)
    (hread : fs.read other = .ok bytes) : fs'.read other = .ok bytes := by
  rw [Files.read] at hread
  split at hread
  · cases hread
  · next hnull =>
    split at hread
    · next place bytes' hl =>
      cases hread
      have hq : place = Path.place fs.here other := locate_place (by rw [hl]; rfl)
      have hl' : fs'.locate other = .found place (.file bytes) := by
        rw [locate, h.here]
        exact h.locateFrom (hq ▸ hplace) _ hl
      rw [Files.read, if_neg hnull, hl']
    all_goals cases hread

end Spares

theorem Paved.spares (h : Paved other fs fs') (path : Path) : Spares path fs fs' where
  here := h.here
  directory q hq := by
    rcases h.places q with hsame | ⟨hnone, -⟩
    · rw [hsame, hq]
    · rw [hq] at hnone
      cases hnone
  file q bytes _ hq := by
    rcases h.places q with hsame | ⟨hnone, -⟩
    · rw [hsame, hq]
    · rw [hq] at hnone
      cases hnone

theorem write_spares (h : fs.write path bytes = .ok fs') : Spares path fs fs' := by
  obtain ⟨rfl, hne, hdir, -⟩ := write_spec h
  refine ⟨rfl, fun q hq => ?_, fun q bytes hother hq => ?_⟩
  · have hq' : q ≠ Path.place fs.here path := by
      rintro rfl
      exact hdir hq
    rw [get?_set hne, if_neg hq', hq]
  · rw [get?_set hne, if_neg hother, hq]

/-- Saving a file spares all else, also where it fails. -/
theorem save_spares (fs : Files) (path : Path) (bytes : List UInt8) : Spares path fs (fs.save path bytes).1 := by
  have hmade := (makeDirectories_spec path.parent fs).1.spares path
  rw [save]
  split
  · next made hmake =>
    rw [hmake] at hmade
    cases hwrite : made.write path bytes with
    | error e => exact hmade
    | ok fs' => exact hmade.trans (write_spares hwrite)
  · exact hmade

end Files

/-! ## Suites below their components -/

namespace Path

variable {component root : Path} {settings : Settings}

theorem normalize_plain {names : List String} (h : ".." ∉ names) (done : List String) :
    normalize done names = done.reverse ++ names := by
  induction names generalizing done with
  | nil => rw [normalize, List.append_nil]
  | cons name names ih =>
    rw [List.mem_cons, not_or] at h
    rw [normalize, if_neg (by simpa using Ne.symm h.1), ih h.2, List.reverse_cons, List.append_assoc]
    rfl

theorem normalize_inside (names : List String) {done : List String} (h : ".." ∉ done) : ".." ∉ normalize done names := by
  induction names generalizing done with
  | nil => rwa [normalize, List.mem_reverse]
  | cons name names ih =>
    rw [normalize]
    split
    · exact ih fun hmem => h (List.mem_of_mem_tail hmem)
    · next hup => exact ih (by simpa using ⟨fun heq => hup (by simp [← heq]), h⟩)

/-- The place of a path from the top without `..` is the path itself. -/
theorem place_plain {here path : Path} (habsolute : path.slashes = 1) (h : ".." ∉ path.segments) :
    place here path = path.segments := by
  have hjoin : here.join path = path := by simp [join, isAbsolute, habsolute]
  rw [place, resolveIn, hjoin, normalize_plain h]
  rfl

/-- Paths whose names hold no slash. -/
def Proper (path : Path) : Prop := ∀ name ∈ path.segments, '/' ∉ name.toList

instance (path : Path) : Decidable path.Proper :=
  inferInstanceAs (Decidable (∀ name ∈ path.segments, '/' ∉ name.toList))

theorem ofText_proper (t : String) : (ofText t).Proper := by
  intro name hname
  obtain ⟨run, hrun, rfl⟩ := List.mem_map.1 (List.mem_filter.1 hname).1
  rw [String.toList_ofList]
  exact Text.not_mem_of_class (Text.runsOf_all _ run hrun) (by decide)

theorem Proper.join {p q : Path} (hp : p.Proper) (hq : q.Proper) : (p.join q).Proper := by
  rw [Path.join]
  split
  · exact hq
  · exact fun name hname => (List.mem_append.1 hname).elim (hp name) (hq name)

theorem mem_of_mem_normalize {names done : List String} {name : String} (h : name ∈ normalize done names) :
    name ∈ done ∨ name ∈ names := by
  induction names generalizing done with
  | nil => exact Or.inl (List.mem_reverse.1 h)
  | cons first names ih =>
    rw [normalize] at h
    split at h
    · exact (ih h).imp List.mem_of_mem_tail (List.mem_cons_of_mem _)
    · rcases ih h with hdone | hrest
      · rcases List.mem_cons.1 hdone with rfl | hdone
        · exact Or.inr List.mem_cons_self
        · exact Or.inl hdone
      · exact Or.inr (List.mem_cons_of_mem _ hrest)

theorem Proper.resolveIn {here p : Path} (hhere : here.Proper) (hp : p.Proper) : (resolveIn here p).Proper := by
  intro name hname
  rcases mem_of_mem_normalize hname with hdone | hmem
  · cases hdone
  · exact hhere.join hp name hmem

theorem Proper.name {p : Path} (h : p.Proper) : '/' ∉ p.name.toList := by
  rw [Path.name]
  cases hlast : p.segments.getLast? with
  | none => exact List.not_mem_nil
  | some name => exact h name (List.mem_of_getLast? hlast)

theorem runsOf_single {p : Char → Bool} {cs : List Char} (h : cs.all p = true) (hne : cs ≠ []) :
    Text.runsOf p cs = [cs] := by
  induction cs with
  | nil => exact absurd rfl hne
  | cons c cs ih =>
    rw [List.all_cons, Bool.and_eq_true] at h
    cases cs with
    | nil => simp [Text.runsOf, h.1]
    | cons d cs =>
      have hd : p d = true := List.all_eq_true.1 h.2 d (by simp)
      rw [Text.runsOf, if_pos h.1, if_pos hd, ih h.2 (List.cons_ne_nil d cs)]

/-- A text without a slash is a single name. -/
theorem ofText_segment {t : String} (h : '/' ∉ t.toList) (hempty : t ≠ "") (hdot : t ≠ ".") : ofText t = ⟨0, [t]⟩ := by
  have hall : t.toList.all (· != '/') = true := by
    rw [List.all_eq_true]
    rintro c hc
    rw [bne_iff_ne]
    rintro rfl
    exact h hc
  have hne : t.toList ≠ [] := fun hnil => hempty (String.toList_inj.1 hnil)
  obtain ⟨c, cs, hcs⟩ := List.exists_cons_of_ne_nil hne
  have hc : c ≠ '/' := by
    rintro rfl
    exact h (by simp [hcs])
  have hslashes : t.toList.takeWhile (· == '/') = [] := by simp [hcs, hc]
  simp [ofText, hslashes, runsOf_single hall hne, keptSlashes, hdot]

theorem ofText_name {t : String} (h : '/' ∉ t.toList) (hlong : 2 < t.length) : ofText t = ⟨0, [t]⟩ := by
  refine ofText_segment h ?_ ?_
  · rintro rfl
    exact absurd hlong (by decide)
  · rintro rfl
    exact absurd hlong (by decide)

theorem stem_flat (h : '/' ∉ component.name.toList) : '/' ∉ component.stem.toList := by
  rw [stem, splitName]
  split
  · rw [String.toList_ofList]
    exact fun hmem => h (List.mem_of_mem_take hmem)
  · exact h

theorem join_relativeTo (path : Path) (hpath : path.slashes = 1) (hroot : root.slashes = 1) :
    root.join ((path.relativeTo? root).getD path) = path := by
  obtain ⟨slashes, segments⟩ := path
  obtain rfl : slashes = 1 := hpath
  rw [relativeTo?]
  split
  · next hbelow =>
    obtain ⟨rest, hrest⟩ := List.isPrefixOf_iff_prefix.1 (Bool.and_eq_true_iff.1 hbelow).2
    obtain rfl : root.segments ++ rest = segments := hrest
    simp [join, isAbsolute, hroot]
  · simp [join, isAbsolute]

end Path

/-- Settings by which suites lie in directories below their components: the directory of suites is given from there,
by one name or more and without `..`, and the ending of names has no slash and is longer than `..`. -/
structure Settings.Nested (settings : Settings) : Prop where
  relative : (Path.ofText settings.testDir).slashes = 0
  below : (Path.ofText settings.testDir).segments ≠ []
  inside : ".." ∉ (Path.ofText settings.testDir).segments
  flat : '/' ∉ settings.suffix.toList
  long : 2 < settings.suffix.length

theorem default_nested : Settings.Nested {} := ⟨by decide, by decide, by decide, by decide, by decide⟩

/-- Where a suite lies when no path is given for it. -/
theorem outputPath_below {component root : Path} {settings : Settings} {dirs : List String}
    (hdirs : Path.ofText settings.testDir = ⟨0, dirs⟩)
    (hfile : Path.ofText (component.stem ++ settings.suffix) = ⟨0, [component.stem ++ settings.suffix]⟩)
    (habsolute : component.slashes = 1) (hroot : root.slashes = 1) {given : Option String}
    (hgiven : ∀ text ∈ given, text = "") (here : Path) : outputPath here component root given settings =
      ⟨1, component.segments.dropLast ++ dirs ++ [component.stem ++ settings.suffix]⟩ := by
  have hdirectory := Path.join_relativeTo component.parent habsolute hroot
  have hbyDefault : ((component.parent.child settings.testDir).child (component.stem ++ settings.suffix)) =
      ⟨1, component.segments.dropLast ++ dirs ++ [component.stem ++ settings.suffix]⟩ := by
    simp [Path.child, hdirs, hfile, Path.join, Path.isAbsolute, Path.parent, habsolute]
  unfold outputPath
  dsimp only
  rw [hdirectory, hbyDefault]
  cases given with
  | none => rfl
  | some text =>
    obtain rfl : text = "" := hgiven text rfl
    rfl

/-- Where suites lie below their components no suite lies where its component does. -/
theorem outputPath_place {component root : Path} {settings : Settings} (h : settings.Nested)
    (habsolute : component.slashes = 1) (hplain : ".." ∉ component.segments) (hproper : component.Proper)
    (hroot : root.slashes = 1) {given : Option String} (hgiven : ∀ text ∈ given, text = "") (here : Path) :
    Path.place here (outputPath here component root given settings) ≠ Path.place here component := by
  obtain ⟨hrelative, hbelow, hinside, hflat, hlong⟩ := h
  have hfile : Path.ofText (component.stem ++ settings.suffix) = ⟨0, [component.stem ++ settings.suffix]⟩ := by
    refine Path.ofText_name ?_ ?_
    · rw [String.toList_append, List.mem_append, not_or]
      exact ⟨Path.stem_flat hproper.name, hflat⟩
    · rw [String.length_append]
      omega
  cases hdirs : Path.ofText settings.testDir with | mk slashes dirs =>
  rw [hdirs] at hrelative hbelow hinside
  obtain rfl : slashes = 0 := hrelative
  have hpath := outputPath_below hdirs hfile habsolute hroot hgiven here
  have hup : component.stem ++ settings.suffix ≠ ".." := by
    intro heq
    have := congrArg String.length heq
    rw [String.length_append] at this
    have : "..".length = 2 := by decide
    omega
  have hinside' : ".." ∉ component.segments.dropLast ++ dirs ++ [component.stem ++ settings.suffix] := by
    simp only [List.mem_append, List.mem_singleton, not_or]
    exact ⟨⟨fun hmem => hplain (List.dropLast_subset _ hmem), hinside⟩, Ne.symm hup⟩
  rw [hpath, Path.place_plain rfl hinside', Path.place_plain habsolute hplain]
  intro heq
  -- the suite lies at least one directory deeper
  have hlength := congrArg List.length heq
  have hpos : 0 < dirs.length := List.length_pos_iff.2 hbelow
  simp only [List.length_append, List.length_dropLast, List.length_singleton] at hlength
  omega

end Suitewright
