/-
  What keeps a suite from being made.

  * `SettingsIn`, `Order.Reads`: what is read for an order before its suite is written; `Order.Reads.prepare`: a loop
    is set up with just this;
  * `Obstacle`: what can stand in the way; `prepare_run`: an order that fails before its suite is written fails for
    such a reason; `Order.Reads.no_obstacle`: where there is one, it does fail.
-/
import Suitewright.Proofs.Loop.Working

namespace Suitewright

variable {limit : Int} {order : Order} {verifier : Option Verifier} {w w' : Workspace} {path : Path} {e : RequestError}

namespace Work

theorem runOn_expandHome (path : Path) (w : Workspace) :
    (expandHome path).runOn w = (((expandHome path).runOn w).1, w) := by
  refine Prod.ext rfl ?_
  unfold expandHome
  split
  · split
    · rfl
    · split
      · split <;> rfl
      · rfl
  · rfl

theorem runOn_resolve (path : Path) (w : Workspace) :
    (resolve path).runOn w = ((w.files.resolve path).mapError .file, w) := by
  have hnow : (resolve path).runOn w = (ofExcept .file (w.files.resolve path) : Work Path).runOn w := rfl
  rw [hnow]
  cases w.files.resolve path <;> rfl

theorem runOn_readText (path : Path) (w : Workspace) :
    (readText path).runOn w = ((w.files.readText path).mapError .ofRead, w) := by
  have hnow : (readText path).runOn w = (ofExcept .ofRead (w.files.readText path) : Work String).runOn w := rfl
  rw [hnow]
  cases w.files.readText path <;> rfl

@[simp] theorem runOn_files (w : Workspace) : files.runOn w = (.ok w.files, w) := rfl

section
variable {q : Path} {text : String}

theorem resolve_ok (h : w.files.resolve path = .ok q) : (resolve path).runOn w = (.ok q, w) := by
  rw [runOn_resolve, h]
  rfl

theorem resolve_error {e : FileError} (h : w.files.resolve path = .error e) :
    (resolve path).runOn w = (.error (.file e), w) := by
  rw [runOn_resolve, h]
  rfl

theorem readText_ok (h : w.files.readText path = .ok text) : (readText path).runOn w = (.ok text, w) := by
  rw [runOn_readText, h]
  rfl

theorem readText_error {e : ReadFault} (h : w.files.readText path = .error e) :
    (readText path).runOn w = (.error (.ofRead e), w) := by
  rw [runOn_readText, h]
  rfl

end

end Work

open Work

/-- The directory that the root of an order stands for, once a tilde is read. -/
def Order.base (order : Order) (w : Workspace) : Except RequestError Path :=
  ((expandHome (.ofText order.root)).runOn w).1

/-! ## The settings -/

/-- The settings of a directory: those of its file, if there is one. -/
inductive SettingsIn (fs : Files) (root : Path) : Settings → Prop
  | absent {file : Path} : fs.resolve (settingsPath fs root) = .ok file → fs.isOccupied file = false →
      SettingsIn fs root {}
  | present {file : Path} {text : String} {settings : Settings} : fs.resolve (settingsPath fs root) = .ok file →
      fs.isOccupied file = true → fs.readText file = .ok text → Settings.ofText text = .ok settings →
      SettingsIn fs root settings

/-- Why there are no settings. -/
inductive NoSettings (fs : Files) (root : Path) : RequestError → Prop
  | path {e : FileError} : fs.resolve (settingsPath fs root) = .error e → NoSettings fs root (.file e)
  | unread {file : Path} {e : ReadFault} : fs.resolve (settingsPath fs root) = .ok file → fs.isOccupied file = true →
      fs.readText file = .error e → NoSettings fs root (.ofRead e)
  | rejected {file : Path} {text : String} {e : SettingsError} : fs.resolve (settingsPath fs root) = .ok file →
      fs.isOccupied file = true → fs.readText file = .ok text → Settings.ofText text = .error e →
      NoSettings fs root (.settings e)

theorem SettingsIn.unique {fs : Files} {root : Path} {settings settings' : Settings} (h : SettingsIn fs root settings)
    (h' : SettingsIn fs root settings') : settings = settings' := by
  cases h with
  | absent hfile hfree =>
    cases h' with
    | absent => rfl
    | present hfile' hthere => rw [hfile] at hfile'; cases hfile'; rw [hfree] at hthere; cases hthere
  | present hfile hthere htext hsettings =>
    cases h' with
    | absent hfile' hfree => rw [hfile] at hfile'; cases hfile'; rw [hthere] at hfree; cases hfree
    | present hfile' _ htext' hsettings' =>
      rw [hfile] at hfile'
      cases hfile'
      rw [htext] at htext'
      cases htext'
      exact Except.ok.inj (hsettings.symm.trans hsettings')

theorem SettingsIn.not_noSettings {fs : Files} {root : Path} {settings : Settings} (h : SettingsIn fs root settings) :
    ¬ NoSettings fs root e := by
  intro hno
  cases h with
  | absent hfile hfree =>
    cases hno with
    | path hpath => rw [hfile] at hpath; cases hpath
    | unread hfile' hthere => rw [hfile] at hfile'; cases hfile'; rw [hfree] at hthere; cases hthere
    | rejected hfile' hthere => rw [hfile] at hfile'; cases hfile'; rw [hfree] at hthere; cases hthere
  | present hfile hthere htext hsettings =>
    cases hno with
    | path hpath => rw [hfile] at hpath; cases hpath
    | unread hfile' _ htext' => rw [hfile] at hfile'; cases hfile'; rw [htext] at htext'; cases htext'
    | rejected hfile' _ htext' hsettings' =>
      rw [hfile] at hfile'
      cases hfile'
      rw [htext] at htext'
      cases htext'
      rw [hsettings] at hsettings'
      cases hsettings'

/-- The settings of a directory that is given from the top are there, unless there is a reason why not. -/
theorem load_run {root : Path} (hroot : root.slashes = 1) (w : Workspace) :
    (∃ e, NoSettings w.files root e ∧ (Settings.load root).runOn w = (.error e, w)) ∨
    ∃ place settings, SettingsIn w.files root settings ∧
      (Settings.load root).runOn w = (.ok (place, settings), w) := by
  have hexpand : expandHome root = pure root := by
    unfold expandHome
    rw [hroot]
    rfl
  unfold Settings.load
  rw [hexpand, pure_bind, runOn_bind_of_ok (runOn_files w)]
  cases hfile : w.files.resolve (settingsPath w.files root) with
  | error e => exact Or.inl ⟨_, .path hfile, runOn_bind_of_error (resolve_error hfile)⟩
  | ok file =>
    rw [runOn_bind_of_ok (resolve_ok hfile), runOn_bind_of_ok (runOn_files w)]
    cases hthere : w.files.isOccupied file with
    | false => exact Or.inr ⟨file.parent, {}, .absent hfile hthere, rfl⟩
    | true =>
      rw [if_pos rfl]
      cases htext : w.files.readText file with
      | error e => exact Or.inl ⟨_, .unread hfile hthere htext, runOn_bind_of_error (readText_error htext)⟩
      | ok text =>
        rw [runOn_bind_of_ok (readText_ok htext)]
        cases hsettings : Settings.ofText text with
        | error e => exact Or.inl ⟨_, .rejected hfile hthere htext hsettings, rfl⟩
        | ok settings => exact Or.inr ⟨file.parent, settings, .present hfile hthere htext hsettings, rfl⟩

/-! ## The component -/

theorem runOn_locate {file root : String} {base : Path} (hbase : ((expandHome (.ofText root)).runOn w).1 = .ok base)
    (hpath : w.files.resolve (base.child file) = .ok path) : (locateComponent file root).runOn w =
      (if w.files.isFile path then .ok path else .error (.componentMissing path), w) := by
  have hexpand : (expandHome (.ofText root)).runOn w = (.ok base, w) := by rw [runOn_expandHome, hbase]
  unfold locateComponent
  rw [runOn_bind_of_ok hexpand, runOn_bind_of_ok (resolve_ok hpath), runOn_bind_of_ok (runOn_files w)]
  split <;> rfl

theorem runOn_locate_error {file root : String} {base : Path} {e : FileError}
    (hbase : ((expandHome (.ofText root)).runOn w).1 = .ok base)
    (he : w.files.resolve (base.child file) = .error e) :
    (locateComponent file root).runOn w = (.error (.file e), w) := by
  have hexpand : (expandHome (.ofText root)).runOn w = (.ok base, w) := by rw [runOn_expandHome, hbase]
  unfold locateComponent
  rw [runOn_bind_of_ok hexpand]
  exact runOn_bind_of_error (resolve_error he)

/-! ## All that is read -/

/-- What is read before a suite is written. -/
structure Inputs where
  /-- The root of the project. -/
  root : Path
  /-- The file of the component. -/
  component : Path
  /-- The settings of the project. -/
  settings : Settings
  /-- The source of the component. -/
  source : String

/-- What is read for an order. -/
structure Order.Reads (order : Order) (w : Workspace) (i : Inputs) : Prop where
  paths : ∃ base, order.base w = .ok base ∧ w.files.resolve base = .ok i.root ∧
    w.files.resolve (base.child order.file) = .ok i.component
  file : w.files.isFile i.component = true
  settings : SettingsIn w.files i.root i.settings
  source : w.files.readText i.component = .ok i.source
  output : ∀ given ∈ order.output, given ≠ "" → ∃ path, w.files.resolve (i.root.child given) = .ok path

theorem Order.Reads.unique {i i' : Inputs} (h : order.Reads w i) (h' : order.Reads w i') : i = i' := by
  obtain ⟨root, component, settings, source⟩ := i
  obtain ⟨root', component', settings', source'⟩ := i'
  obtain ⟨base, hbase, hroot, hcomponent⟩ := h.paths
  obtain ⟨base', hbase', hroot', hcomponent'⟩ := h'.paths
  obtain rfl : base = base' := Except.ok.inj (hbase.symm.trans hbase')
  obtain rfl : root = root' := Except.ok.inj (hroot.symm.trans hroot')
  obtain rfl : component = component' := Except.ok.inj (hcomponent.symm.trans hcomponent')
  obtain rfl : settings = settings' := h.settings.unique h'.settings
  obtain rfl : source = source' := Except.ok.inj (h.source.symm.trans h'.source)
  rfl

/-- What a loop is set up with, from what was read. -/
def Inputs.setting (i : Inputs) (limit : Int) (order : Order) (verifier : Option Verifier) (w : Workspace) :
    LoopSetting where
  component := (analyzeTree (.ok (Script.parse (.ofPath order.file) i.source)) order.file).1
  file := order.file
  testPath := outputPath w.files.here i.component i.root order.output i.settings
  root := i.root
  verifier := verifier.getD (.ofCommands i.settings.commands)
  limit := limit

/-- What can stand in the way of a suite. -/
inductive Obstacle (order : Order) (w : Workspace) : RequestError → Prop
  /-- The root stands below a home directory that is not known. -/
  | home {e : RequestError} : order.base w = .error e → Obstacle order w e
  /-- The root cannot be resolved. -/
  | root {base : Path} {e : FileError} : order.base w = .ok base → w.files.resolve base = .error e →
      Obstacle order w (.file e)
  /-- The component's path cannot be resolved. -/
  | path {base : Path} {e : FileError} : order.base w = .ok base →
      w.files.resolve (base.child order.file) = .error e → Obstacle order w (.file e)
  /-- The component's path leads to no file. -/
  | missing {base path : Path} : order.base w = .ok base → w.files.resolve (base.child order.file) = .ok path →
      w.files.isFile path = false → Obstacle order w (.componentMissing path)
  /-- The settings of the project cannot be read, or are rejected. -/
  | settings {base root : Path} {e : RequestError} : order.base w = .ok base → w.files.resolve base = .ok root →
      NoSettings w.files root e → Obstacle order w e
  /-- The component is no text. -/
  | source {base path : Path} {e : ReadFault} : order.base w = .ok base →
      w.files.resolve (base.child order.file) = .ok path → w.files.readText path = .error e →
      Obstacle order w (.ofRead e)
  /-- The given path of the suite cannot be resolved. -/
  | output {base root : Path} {given : String} {e : FileError} : order.base w = .ok base →
      w.files.resolve base = .ok root → order.output = some given → given ≠ "" →
      w.files.resolve (root.child given) = .error e → Obstacle order w (.file e)

/-- Where everything is read nothing stands in the way. -/
theorem Order.Reads.no_obstacle {i : Inputs} (h : order.Reads w i) : ¬ Obstacle order w e := by
  obtain ⟨base, hbase, hroot, hcomponent⟩ := h.paths
  have hsame : ∀ {base' : Path}, order.base w = .ok base' → base' = base := fun h' =>
    (Except.ok.inj (hbase.symm.trans h')).symm
  intro hobstacle
  cases hobstacle with
  | home hhome => rw [hbase] at hhome; cases hhome
  | root hbase' he => rw [hsame hbase', hroot] at he; cases he
  | path hbase' he => rw [hsame hbase', hcomponent] at he; cases he
  | missing hbase' hpath hfile =>
    rw [hsame hbase', hcomponent] at hpath
    cases hpath
    rw [h.file] at hfile
    cases hfile
  | settings hbase' hroot' hno =>
    rw [hsame hbase', hroot] at hroot'
    cases hroot'
    exact h.settings.not_noSettings hno
  | source hbase' hpath he =>
    rw [hsame hbase', hcomponent] at hpath
    cases hpath
    rw [h.source] at he
    cases he
  | output hbase' hroot' hgiven hne he =>
    rw [hsame hbase', hroot] at hroot'
    cases hroot'
    obtain ⟨path, hpath⟩ := h.output _ hgiven hne
    rw [hpath] at he
    cases he

theorem slashes_of_resolve {fs : Files} {q : Path} (h : fs.resolve path = .ok q) : q.slashes = 1 := by
  rw [Files.eq_of_resolve h]
  rfl

/-- A given path of the suite is resolved before a loop is set up; an empty one counts as none. -/
theorem output_run (output : Option String) (root : Path) (s : LoopSetting) (w : Workspace) :
    ∃ result, (if output.any (fun given => !given.isEmpty) = true then do
        let _ ← Work.resolve (root.child (output.getD ""))
        return s else return s : Work LoopSetting).runOn w = (result, w) ∧
      ((result = .ok s ∧ ∀ given ∈ output, given ≠ "" → ∃ path, w.files.resolve (root.child given) = .ok path) ∨
        ∃ given e, result = .error (.file e) ∧ output = some given ∧ given ≠ "" ∧
          w.files.resolve (root.child given) = .error e) := by
  cases output with
  | none => exact ⟨_, rfl, Or.inl ⟨rfl, by simp⟩⟩
  | some given =>
    by_cases hne : given = ""
    · subst hne
      exact ⟨_, rfl, Or.inl ⟨rfl, by simp⟩⟩
    have hasked : (some given).any (fun given => !given.isEmpty) = true := by simpa using hne
    rw [if_pos hasked, Option.getD_some]
    cases hgiven : w.files.resolve (root.child given) with
    | error e => exact ⟨_, runOn_bind_of_error (resolve_error hgiven), Or.inr ⟨given, e, rfl, rfl, hne, hgiven⟩⟩
    | ok path =>
      refine ⟨.ok s, by rw [runOn_bind_of_ok (resolve_ok hgiven)]; rfl, Or.inl ⟨rfl, fun given' hgiven' _ => ?_⟩⟩
      cases hgiven'
      exact ⟨path, hgiven⟩

/-- What is needed for a suite is read, or something stands in the way. -/
theorem prepare_run (limit : Int) (order : Order) (verifier : Option Verifier) (w : Workspace) :
    (∃ i notes, order.Reads w i ∧
      (prepare limit order verifier).runOn w = (.ok (i.setting limit order verifier w), { w with notes := notes })) ∨
    ∃ e notes, Obstacle order w e ∧
      (prepare limit order verifier).runOn w = (.error e, { w with notes := notes }) := by
  unfold prepare
  cases hbase : order.base w with
  | error e =>
    have hexpand : (expandHome (.ofText order.root)).runOn w = (.error e, w) := by
      rw [runOn_expandHome]
      exact congrArg (·, w) hbase
    exact Or.inr ⟨e, w.notes, .home hbase, runOn_bind_of_error hexpand⟩
  | ok base =>
  have hexpand : (expandHome (.ofText order.root)).runOn w = (.ok base, w) := by
    rw [runOn_expandHome]
    exact congrArg (·, w) hbase
  rw [runOn_bind_of_ok hexpand]
  cases hroot : w.files.resolve base with
  | error e => exact Or.inr ⟨_, w.notes, .root hbase hroot, runOn_bind_of_error (resolve_error hroot)⟩
  | ok root =>
  rw [runOn_bind_of_ok (resolve_ok hroot)]
  cases hpath : w.files.resolve (base.child order.file) with
  | error e =>
    exact Or.inr ⟨_, w.notes, .path hbase hpath, runOn_bind_of_error (runOn_locate_error hbase hpath)⟩
  | ok path =>
  have hlocate := runOn_locate hbase hpath
  cases hfile : w.files.isFile path with
  | false =>
    rw [hfile] at hlocate
    exact Or.inr ⟨_, w.notes, .missing hbase hpath hfile, runOn_bind_of_error hlocate⟩
  | true =>
  rw [hfile] at hlocate
  rw [runOn_bind_of_ok hlocate]
  obtain ⟨e, hno, hload⟩ | ⟨place, settings, hsettings, hload⟩ := load_run (slashes_of_resolve hroot) w
  · exact Or.inr ⟨e, w.notes, .settings hbase hroot hno, runOn_bind_of_error hload⟩
  rw [runOn_bind_of_ok hload]
  dsimp only
  obtain ⟨before, hnote⟩ := Answers.note .info ("Generating tests for " ++ path.toText) w
  rw [runOn_bind_of_ok hnote]
  cases hsource : w.files.readText path with
  | error e =>
    exact Or.inr ⟨_, before, .source hbase hpath hsource,
      runOn_bind_of_error (readText_error (w := { w with notes := before }) hsource)⟩
  | ok source =>
  rw [runOn_bind_of_ok (readText_ok (w := { w with notes := before }) hsource)]
  obtain ⟨notes, hcomponent⟩ := analyzeSource_answers source order.file { w with notes := before }
  rw [runOn_bind_of_ok hcomponent, runOn_bind_of_ok (runOn_files _)]
  -- only a given path of the suite can still be in the way
  obtain ⟨result, hrun, ⟨rfl, houtput⟩ | ⟨given, e, rfl, houtput, hne, hgiven⟩⟩ :=
    output_run order.output root (Inputs.setting ⟨root, path, settings, source⟩ limit order verifier w)
      { w with notes := notes }
  · exact Or.inl ⟨⟨root, path, settings, source⟩, notes,
      ⟨⟨base, hbase, hroot, hpath⟩, hfile, hsettings, hsource, houtput⟩, hrun⟩
  · exact Or.inr ⟨_, notes, .output hbase hroot houtput hne hgiven, hrun⟩

/-- What is read is what a loop is set up with. -/
theorem Order.Reads.prepare {i : Inputs} (h : order.Reads w i) (limit : Int) (verifier : Option Verifier) :
    Answers (prepare limit order verifier) w (i.setting limit order verifier w) := by
  obtain ⟨i', notes, h', hrun⟩ | ⟨e, -, hobstacle, -⟩ := prepare_run limit order verifier w
  · rw [h.unique h']
    exact ⟨notes, hrun⟩
  · exact absurd hobstacle h.no_obstacle

end Suitewright
