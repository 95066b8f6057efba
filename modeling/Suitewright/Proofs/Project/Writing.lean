/-
  What writing a file changes.

  * `Path.place`: the place that a path denotes, from its segments alone; `locateFrom_place`: a path that leads
    anywhere leads there;
  * `Files.read_of_write`: a written file reads back;
  * `Paved`: nothing changed but that missing places became directories; `makeDirectories_spec`;
  * `Saved`: nothing changed but the place of a file and missing directories above it; `save_spec`;
  * `Ready`: a file that stands in its directory, so that it can be saved again.
-/
import Suitewright.Project.Files

namespace Suitewright

/-- The place that a path denotes, seen from a directory. -/
def Path.place (here path : Path) : Place := (Path.resolveIn here path).segments

/-- The path with only its first segments. -/
def Path.upTo (path : Path) (n : Nat) : Path := { path with segments := path.segments.take n }

@[simp] theorem Path.upTo_length (path : Path) : path.upTo path.segments.length = path := by
  simp [Path.upTo]

theorem Path.parent_eq_upTo (path : Path) : path.parent = path.upTo (path.segments.length - 1) := by
  simp [Path.parent, Path.upTo, List.dropLast_eq_take]

theorem Path.upTo_upTo (path : Path) {n k : Nat} (h : n ≤ k) : (path.upTo k).upTo n = path.upTo n := by
  simp [Path.upTo, List.take_take, Nat.min_eq_left h]

/-- The place that a spot tells, if there is one. -/
def Spot.place? : Spot → Option Place
  | .found place _ | .free place => some place
  | .lost | .blocked => none

namespace Files

variable {fs fs' : Files} {path : Path} {place q : Place} {entry : Entry}

theorem eq_of_resolve {p : Path} (h : fs.resolve path = .ok p) : p = Path.resolveIn fs.here path := by
  rw [resolve] at h
  split at h
  · cases h
  · exact (Except.ok.inj h).symm

/-! ## One place -/

theorem lookup_put (place q : Place) (entry : Entry) (l : List (Place × Entry)) :
    (put place entry l).lookup q = if q = place then some entry else l.lookup q := by
  induction l with
  | nil =>
    by_cases h : q = place
    · simp [put, h]
    · simp [put, List.lookup_cons, beq_false_of_ne h, h]
  | cons e rest ih =>
    obtain ⟨k, v⟩ := e
    rw [put]
    by_cases hk : k = place
    · subst hk
      by_cases h : q = k
      · simp [h]
      · simp [List.lookup_cons, beq_false_of_ne h, h]
    · rw [if_neg (by simpa using hk)]
      by_cases h : q = k
      · subst h
        simp [hk]
      · simpa [List.lookup_cons, beq_false_of_ne h] using ih

/-- Putting something at a place changes what this place holds, and nothing else. -/
theorem get?_set (hplace : place ≠ []) :
    (fs.set place entry).get? q = if q = place then some entry else fs.get? q := by
  by_cases hq : q = []
  · have : ¬ [] = place := fun h => hplace h.symm
    simp [get?, hq, this]
  · have he : q.isEmpty = false := by simpa using hq
    simp only [get?, set, he, Bool.false_eq_true, if_false]
    exact lookup_put place q entry fs.entries

@[simp] theorem here_set : (fs.set place entry).here = fs.here := rfl

/-! ## Where paths lead -/

/-- A walk that does not fail ends where the segments say, whatever the directories hold. -/
theorem locateFrom_place (names : List String) (place : Place)
    (h : (fs.locateFrom place names).place? = some q) : q = Path.normalize place.reverse names := by
  induction names generalizing place with
  | nil =>
    simp only [locateFrom, Spot.place?, Option.some.injEq] at h
    simp [Path.normalize, h]
  | cons name rest ih =>
    rw [locateFrom] at h
    rw [Path.normalize]
    split at h
    · next hup =>
      rw [if_pos hup]
      simpa using ih _ h
    · next hup =>
      have hnext : (place ++ [name]).reverse = name :: place.reverse := by simp
      rw [if_neg hup, ← hnext]
      dsimp only at h
      split at h
      · exact ih _ h
      · split at h
        · next hrest =>
          obtain rfl : rest = [] := by simpa using hrest
          simpa [Spot.place?, Path.normalize] using h.symm
        · simp [Spot.place?] at h
      · split at h
        · next hrest =>
          obtain rfl : rest = [] := by simpa using hrest
          simpa [Spot.place?, Path.normalize] using h.symm
        · simp [Spot.place?] at h

/-- A walk that ends at a free place or at a file tells what the place holds. -/
theorem get?_of_locateFrom (names : List String) (place : Place) :
    (fs.locateFrom place names = .free q → q ≠ [] ∧ fs.get? q = none) ∧
      ∀ bytes, fs.locateFrom place names = .found q (.file bytes) →
        q ≠ [] ∧ fs.get? q = some (.file bytes) := by
  induction names generalizing place with
  | nil => simp [locateFrom]
  | cons name rest ih =>
    rw [locateFrom]
    split
    · exact ih _
    · dsimp only
      split
      · exact ih _
      · next bytes hget =>
        split
        · refine ⟨by simp, fun bytes' h => ?_⟩
          obtain ⟨rfl, rfl⟩ : _ = q ∧ bytes = bytes' := by simpa using h
          exact ⟨by simp, hget⟩
        · simp
      · next hget =>
        split
        · refine ⟨fun h => ?_, by simp⟩
          obtain rfl : _ = q := by simpa using h
          exact ⟨by simp, hget⟩
        · simp

/-- After something is put where a walk found nothing, the same walk finds it. -/
theorem locateFrom_set_free (names : List String) (place : Place)
    (h : fs.locateFrom place names = .free q) :
    (fs.set q entry).locateFrom place names = .found q entry := by
  have hq := (get?_of_locateFrom names place).1 h
  induction names generalizing place with
  | nil => simp [locateFrom] at h
  | cons name rest ih =>
    rw [locateFrom] at h ⊢
    split at h
    · next hup => rw [if_pos hup]; exact ih _ h
    · next hup =>
      rw [if_neg hup]
      dsimp only at h ⊢
      split at h
      · next hget =>
        have hne : place ++ [name] ≠ q := fun he => by rw [he, hq.2] at hget; cases hget
        rw [get?_set hq.1, if_neg hne, hget]
        exact ih _ h
      · split at h <;> cases h
      · split at h
        · next hrest =>
          obtain rfl : rest = [] := by simpa using hrest
          obtain rfl : place ++ [name] = q := by simpa using h
          rw [get?_set hq.1, if_pos rfl]
          cases entry <;> simp [locateFrom]
        · cases h

/-- After a file is put where a walk found one, the same walk finds the new one. -/
theorem locateFrom_set_file {bytes bytes' : List UInt8} (names : List String) (place : Place)
    (h : fs.locateFrom place names = .found q (.file bytes)) :
    (fs.set q (.file bytes')).locateFrom place names = .found q (.file bytes') := by
  have hq := (get?_of_locateFrom names place).2 _ h
  induction names generalizing place with
  | nil => simp [locateFrom] at h
  | cons name rest ih =>
    rw [locateFrom] at h ⊢
    split at h
    · next hup => rw [if_pos hup]; exact ih _ h
    · next hup =>
      rw [if_neg hup]
      dsimp only at h ⊢
      split at h
      · next hget =>
        have hne : place ++ [name] ≠ q := fun he => by rw [he, hq.2] at hget; cases hget
        rw [get?_set hq.1, if_neg hne, hget]
        exact ih _ h
      · split at h
        · next hrest =>
          obtain ⟨rfl, rfl⟩ : place ++ [name] = q ∧ _ = bytes := by simpa using h
          rw [get?_set hq.1, if_pos rfl]
          simp [hrest]
        · cases h
      · split at h <;> cases h

/-- A walk that ends at a directory still does after a file is put at a place that is no directory. -/
theorem locateFrom_directory_set {d : Place} {bytes : List UInt8} (hq : q ≠ [])
    (hfile : fs.get? q ≠ some .directory) (names : List String) (place : Place)
    (h : fs.locateFrom place names = .found d .directory) :
    (fs.set q (.file bytes)).locateFrom place names = .found d .directory := by
  induction names generalizing place with
  | nil => simpa [locateFrom] using h
  | cons name rest ih =>
    rw [locateFrom] at h ⊢
    split at h
    · next hup => rw [if_pos hup]; exact ih _ h
    · next hup =>
      rw [if_neg hup]
      dsimp only at h ⊢
      split at h
      · next hget =>
        have hne : place ++ [name] ≠ q := fun he => hfile (he ▸ hget)
        rw [get?_set hq, if_neg hne, hget]
        exact ih _ h
      · split at h <;> cases h
      · split at h <;> cases h

/-- What a path leads to, in terms of its place. -/
theorem locate_place (h : (fs.locate path).place? = some q) : q = Path.place fs.here path :=
  locateFrom_place (fs.here.join path).segments [] h

/-! ## Files -/

theorem isFile_iff : fs.isFile path = true ↔
    path.hasNull = false ∧ ∃ place bytes, fs.locate path = .found place (.file bytes) := by
  rw [isFile]
  split
  · next place bytes h => simp [h]
  · next h =>
    constructor
    · intro h'; cases h'
    · rintro ⟨-, place, bytes, h'⟩; exact absurd h' (h place bytes)

theorem isDirectory_iff : fs.isDirectory path = true ↔
    path.hasNull = false ∧ ∃ place, fs.locate path = .found place .directory := by
  rw [isDirectory]
  split
  · next place h => simp [h]
  · next h =>
    constructor
    · intro h'; cases h'
    · rintro ⟨-, place, h'⟩; exact absurd h' (h place)

/-- Writing a file puts it at the place of its path, which held no directory, and the path then leads to it. -/
theorem write_spec {bytes : List UInt8} (h : fs.write path bytes = .ok fs') :
    fs' = fs.set (Path.place fs.here path) (.file bytes) ∧ Path.place fs.here path ≠ [] ∧
      fs.get? (Path.place fs.here path) ≠ some .directory ∧ path.hasNull = false ∧
      fs'.locate path = .found (Path.place fs.here path) (.file bytes) := by
  rw [write] at h
  split at h
  · cases h
  · next hnull =>
    have hnull : path.hasNull = false := by simpa using hnull
    split at h
    · next place old hl =>
      obtain rfl : _ = fs' := Except.ok.inj h
      obtain rfl : place = Path.place fs.here path := locate_place (by rw [hl]; rfl)
      obtain ⟨hne, hget⟩ := (get?_of_locateFrom _ _).2 _ hl
      exact ⟨rfl, hne, by simp [hget], hnull, locateFrom_set_file _ _ hl⟩
    · next place hl =>
      obtain rfl : _ = fs' := Except.ok.inj h
      obtain rfl : place = Path.place fs.here path := locate_place (by rw [hl]; rfl)
      obtain ⟨hne, hget⟩ := (get?_of_locateFrom _ _).1 hl
      exact ⟨rfl, hne, by simp [hget], hnull, locateFrom_set_free _ _ hl⟩
    · cases h
    · cases h
    · cases h

/-- A file that was written reads back. -/
theorem read_of_write {bytes : List UInt8} (h : fs.write path bytes = .ok fs') :
    fs'.read path = .ok bytes := by
  obtain ⟨-, -, -, hnull, hl⟩ := write_spec h
  rw [read, hnull, hl]
  rfl

theorem isFile_of_write {bytes : List UInt8} (h : fs.write path bytes = .ok fs') :
    fs'.isFile path = true := by
  obtain ⟨-, -, -, hnull, hl⟩ := write_spec h
  exact isFile_iff.2 ⟨hnull, _, _, hl⟩

/-- Where a file stands another one can be written. -/
theorem write_of_isFile (h : fs.isFile path = true) (bytes : List UInt8) :
    ∃ fs', fs.write path bytes = .ok fs' := by
  obtain ⟨hnull, place, old, hl⟩ := isFile_iff.1 h
  exact ⟨fs.set place (.file bytes), by rw [write, hnull, hl]; rfl⟩

/-- Directories stay when a file is written. -/
theorem isDirectory_of_write {d : Path} {bytes : List UInt8} (h : fs.write path bytes = .ok fs')
    (hd : fs.isDirectory d = true) : fs'.isDirectory d = true := by
  obtain ⟨rfl, hne, hget, -, -⟩ := write_spec h
  obtain ⟨hnull, place, hl⟩ := isDirectory_iff.1 hd
  exact isDirectory_iff.2 ⟨hnull, place, locateFrom_directory_set hne hget _ _ hl⟩

/-! ## Directories -/

/-- Nothing changed but that missing places of the first directories of a path became directories. -/
structure Paved (path : Path) (fs fs' : Files) : Prop where
  here : fs'.here = fs.here
  places : ∀ q, fs'.get? q = fs.get? q ∨
    fs.get? q = none ∧ fs'.get? q = some .directory ∧
      ∃ n ≤ path.segments.length, q = Path.place fs.here (path.upTo n)

/-- A place that is left alone or becomes a directory, twice. -/
theorem places_trans {fs'' : Files} {q : Place} {P : Prop}
    (h : fs'.get? q = fs.get? q ∨ fs.get? q = none ∧ fs'.get? q = some .directory ∧ P)
    (h' : fs''.get? q = fs'.get? q ∨ fs'.get? q = none ∧ fs''.get? q = some .directory ∧ P) :
    fs''.get? q = fs.get? q ∨ fs.get? q = none ∧ fs''.get? q = some .directory ∧ P := by
  rcases h with hq | ⟨hq, hd, hP⟩
  · rcases h' with hq' | ⟨hq', hd', hP⟩
    · exact Or.inl (hq'.trans hq)
    · exact Or.inr ⟨hq ▸ hq', hd', hP⟩
  · rcases h' with hq' | ⟨hq', -⟩
    · exact Or.inr ⟨hq, hq'.trans hd, hP⟩
    · cases hd.symm.trans hq'

theorem Paved.refl (path : Path) (fs : Files) : Paved path fs fs := ⟨rfl, fun _ => Or.inl rfl⟩

theorem Paved.trans {fs'' : Files} (h : Paved path fs fs') (h' : Paved path fs' fs'') :
    Paved path fs fs'' := by
  refine ⟨h'.here.trans h.here, fun q => ?_⟩
  have hq' := h'.places q
  rw [h.here] at hq'
  exact places_trans (h.places q) hq'

/-- What happens on the way to a directory above a path happens on the way to the path. -/
theorem Paved.of_upTo {n : Nat} (hn : n ≤ path.segments.length) (h : Paved (path.upTo n) fs fs') :
    Paved path fs fs' := by
  refine ⟨h.here, fun q => ?_⟩
  rcases h.places q with hq | ⟨hq, hd, k, hk, rfl⟩
  · exact Or.inl hq
  · have hk : k ≤ n := Nat.le_trans hk (List.length_take_le n path.segments)
    exact Or.inr ⟨hq, hd, k, Nat.le_trans hk hn, by rw [Path.upTo_upTo path hk]⟩

theorem makeDirectory_spec (h : fs.makeDirectory path = .ok fs') :
    Paved path fs fs' ∧ fs'.isDirectory path = true := by
  rw [makeDirectory] at h
  split at h
  · cases h
  · next hnull =>
    have hnull : path.hasNull = false := by simpa using hnull
    split at h
    · cases h
    · next place hl =>
      obtain rfl : _ = fs' := Except.ok.inj h
      obtain rfl : place = Path.place fs.here path := locate_place (by rw [hl]; rfl)
      obtain ⟨hne, hget⟩ := (get?_of_locateFrom _ _).1 hl
      refine ⟨⟨rfl, fun q => ?_⟩, isDirectory_iff.2 ⟨hnull, _, locateFrom_set_free _ _ hl⟩⟩
      by_cases hq : q = Path.place fs.here path
      · subst hq
        exact Or.inr ⟨hget, by rw [get?_set hne, if_pos rfl], _, Nat.le_refl _, by rw [Path.upTo_length]⟩
      · exact Or.inl (by rw [get?_set hne, if_neg hq])
    · cases h
    · cases h

theorem ensureDirectory_spec (h : fs.ensureDirectory path = .ok fs') :
    Paved path fs fs' ∧ fs'.isDirectory path = true := by
  rw [ensureDirectory] at h
  split at h
  · split at h
    · next hd =>
      obtain rfl : fs = fs' := Except.ok.inj h
      exact ⟨.refl _ _, hd⟩
    · cases h
  · exact makeDirectory_spec h

/-- What is asked of making directories: that it only makes missing directories on the way to the path, and
that the path leads to a directory unless something failed. -/
def MadeTo (path : Path) (fs : Files) (made : Files × Option FileError) : Prop :=
  Paved path fs made.1 ∧ (made.2 = none → made.1.isDirectory path = true)

theorem settle_ensureDirectory (path : Path) (fs : Files) :
    MadeTo path fs (fs.settle (fs.ensureDirectory path)) := by
  cases h : fs.ensureDirectory path with
  | ok fs' =>
    obtain ⟨hpaved, hd⟩ := ensureDirectory_spec h
    exact ⟨hpaved, fun _ => hd⟩
  | error e => exact ⟨.refl _ _, fun h' => by cases h'⟩

theorem makeDirectoriesUpTo_spec (n : Nat) (path : Path) (fs : Files) :
    MadeTo path fs (fs.makeDirectoriesUpTo n path) := by
  induction n generalizing path fs with
  | zero => exact settle_ensureDirectory path fs
  | succ n ih =>
    rw [makeDirectoriesUpTo]
    split
    · -- the directory above is missing: it is made first
      have hup := ih path.parent fs
      have hparent : Paved path fs (fs.makeDirectoriesUpTo n path.parent).1 := by
        have h := hup.1
        generalize (fs.makeDirectoriesUpTo n path.parent).1 = above at h ⊢
        exact Paved.of_upTo (Nat.sub_le _ 1) (path.parent_eq_upTo ▸ h)
      split
      · next above heq =>
        rw [heq] at hparent
        obtain ⟨hpaved, hd⟩ := settle_ensureDirectory path above
        exact ⟨hparent.trans hpaved, hd⟩
      · next failed hfail =>
        exact ⟨hparent, fun hnone => (hfail _ (Prod.ext (y := (_, none)) rfl hnone)).elim⟩
    · exact settle_ensureDirectory path fs

theorem makeDirectories_spec (path : Path) (fs : Files) : MadeTo path fs (fs.makeDirectories path) :=
  makeDirectoriesUpTo_spec _ path fs

/-- Where a directory stands there is nothing to make. -/
theorem makeDirectories_of_isDirectory (h : fs.isDirectory path = true) :
    fs.makeDirectories path = (fs, none) := by
  obtain ⟨hnull, place, hl⟩ := isDirectory_iff.1 h
  have hmake : fs.makeDirectory path = .error (.occupied path) := by
    rw [makeDirectory, hnull, hl]; rfl
  have hensure : fs.ensureDirectory path = .ok fs := by
    rw [ensureDirectory, hmake]; simp [h]
  rw [makeDirectories]
  cases path.segments.length with
  | zero => simp [makeDirectoriesUpTo, hensure, settle]
  | succ n => simp [makeDirectoriesUpTo, hmake, hensure, settle]

/-! ## Saving a file -/

/-- Nothing changed but what stands at the place of a path, and that missing places of the directories above
the path became directories. -/
structure Saved (path : Path) (fs fs' : Files) : Prop where
  here : fs'.here = fs.here
  places : ∀ q, q ≠ Path.place fs.here path → fs'.get? q = fs.get? q ∨
    fs.get? q = none ∧ fs'.get? q = some .directory ∧
      ∃ n < path.segments.length, q = Path.place fs.here (path.upTo n)

theorem Saved.refl (path : Path) (fs : Files) : Saved path fs fs := ⟨rfl, fun _ _ => Or.inl rfl⟩

theorem Saved.trans {fs'' : Files} (h : Saved path fs fs') (h' : Saved path fs' fs'') :
    Saved path fs fs'' := by
  refine ⟨h'.here.trans h.here, fun q hne => ?_⟩
  have hq' := h'.places q (h.here ▸ hne)
  rw [h.here] at hq'
  exact places_trans (h.places q hne) hq'

/-- A file that stands in a directory: it can be written again, and nothing else has to be made. -/
structure Ready (path : Path) (fs : Files) : Prop where
  file : fs.isFile path = true
  directory : fs.isDirectory path.parent = true

theorem isFile_eq_false (h : fs.isDirectory path = true) : fs.isFile path = false := by
  obtain ⟨-, place, hl⟩ := isDirectory_iff.1 h
  rw [isFile, hl]

/-- Writing a file in a directory that was made for it. -/
theorem saved_of_write {made : Files} {bytes : List UInt8}
    (hmade : fs.makeDirectories path.parent = (made, none)) (h : made.write path bytes = .ok fs') :
    Saved path fs fs' ∧ Ready path fs' ∧ fs'.read path = .ok bytes := by
  obtain ⟨hpaved, hd⟩ := makeDirectories_spec path.parent fs
  rw [hmade] at hpaved hd
  have hdir : made.isDirectory path.parent = true := hd rfl
  have hfile := isFile_of_write h
  have hdir' := isDirectory_of_write h hdir
  have hnonempty : path.segments ≠ [] := by
    -- otherwise the path is its own parent, which cannot be a directory and a file
    intro hnil
    have hself : path.parent = path := by
      obtain ⟨slashes, segments⟩ := path
      obtain rfl : segments = [] := hnil
      rfl
    rw [hself] at hdir'
    rw [isFile_eq_false hdir'] at hfile
    cases hfile
  refine ⟨⟨?_, fun q hne => ?_⟩, ⟨hfile, hdir'⟩, read_of_write h⟩
  · obtain ⟨rfl, -⟩ := write_spec h
    exact hpaved.here
  · obtain ⟨rfl, hroot, -⟩ := write_spec h
    rw [get?_set hroot, if_neg (hpaved.here ▸ hne)]
    rcases hpaved.places q with hq | ⟨hq, hd', n, hn, rfl⟩
    · exact Or.inl hq
    · have hlen : path.parent.segments.length = path.segments.length - 1 := by simp [Path.parent]
      have hpos := List.length_pos_iff.2 hnonempty
      refine Or.inr ⟨hq, hd', n, by omega, ?_⟩
      rw [path.parent_eq_upTo, Path.upTo_upTo path (by omega)]

theorem save_spec {bytes : List UInt8} (h : fs.save path bytes = (fs', none)) :
    Saved path fs fs' ∧ Ready path fs' ∧ fs'.read path = .ok bytes := by
  rw [save] at h
  split at h
  · next made hmade =>
    cases hw : made.write path bytes with
    | error e => rw [hw] at h; cases h
    | ok fs'' =>
      rw [hw] at h
      obtain rfl : fs'' = fs' := (Prod.mk.inj h).1
      exact saved_of_write hmade hw
  · next failed hfail => exact (hfail fs' h).elim

/-- A file that stands in its directory can be written again. -/
theorem save_of_ready (h : Ready path fs) (bytes : List UInt8) :
    ∃ fs', fs.save path bytes = (fs', none) := by
  obtain ⟨fs', hw⟩ := write_of_isFile h.file bytes
  exact ⟨fs', by rw [save, makeDirectories_of_isDirectory h.directory]; simp [hw, settle]⟩

/-- Whether and why a file cannot be saved does not hang on what it is to hold. -/
theorem save_fault (fs : Files) (path : Path) (bytes bytes' : List UInt8) :
    (fs.save path bytes).2 = (fs.save path bytes').2 := by
  have hwrite : ∀ made : Files, (made.settle (made.write path bytes)).2 =
      (made.settle (made.write path bytes')).2 := by
    intro made
    simp only [write]
    split
    · rfl
    · split <;> rfl
  rw [save, save]
  split
  · exact hwrite _
  · rfl

end Files

end Suitewright
