/-
  How work on a workspace runs.

  * `Work.runOn_bind`, `bind_ok`: two pieces of work, one after the other;
  * `Work.Compositional`: properties of work that parts pass on to the whole; `Compositional.prepare`, `advance`,
    `complete`: which parts making a suite has, once for all such properties;
  * `Work.Quiet`: work that changes nothing but the journal; `prepare_quiet`: all that is done before the suite of a
    component is written is of this kind;
  * `Work.Answers`: the same with a known result;
  * `persist_ok`, `persist_of_savable`, `persist_of_fault`: what saving a suite does.
-/
import Suitewright.Loop.Generate
import Suitewright.Proofs.Project.Writing

namespace Suitewright

namespace Work

variable {α β ε : Type} {w w' : Workspace}

theorem runOn_bind (x : Work α) (f : α → Work β) (w : Workspace) :
    (x >>= f).runOn w = match x.runOn w with
      | (.ok a, w₁) => (f a).runOn w₁
      | (.error e, w₁) => (.error e, w₁) := by
  show (match x.runOn w with | (a, w₁) => ExceptT.bindCont f a w₁) = _
  obtain ⟨r, w₁⟩ := x.runOn w
  cases r <;> rfl

theorem bind_ok {x : Work α} {f : α → Work β} {b : β} :
    (x >>= f).runOn w = (.ok b, w') ↔
      ∃ a w₁, x.runOn w = (.ok a, w₁) ∧ (f a).runOn w₁ = (.ok b, w') := by
  rw [runOn_bind]
  obtain ⟨r, w₁⟩ := x.runOn w
  cases r with
  | ok a =>
    constructor
    · intro h; exact ⟨a, w₁, rfl, h⟩
    · rintro ⟨_, _, h, h'⟩
      obtain ⟨rfl, rfl⟩ : a = _ ∧ w₁ = _ := by simpa using h
      exact h'
  | error e => simp

/-- Work goes on with a result that is known. -/
theorem runOn_bind_of_ok {x : Work α} {f : α → Work β} {a : α} (h : x.runOn w = (.ok a, w')) :
    (x >>= f).runOn w = (f a).runOn w' := by
  rw [runOn_bind, h]

/-- Work ends with a failure that is known. -/
theorem runOn_bind_of_error {x : Work α} {f : α → Work β} {e : RequestError}
    (h : x.runOn w = (.error e, w')) : (x >>= f).runOn w = (.error e, w') := by
  rw [runOn_bind, h]

@[simp] theorem runOn_pure (a : α) (w : Workspace) : (pure a : Work α).runOn w = (.ok a, w) := rfl

@[simp] theorem runOn_log (notes : List Note) (w : Workspace) :
    (log notes).runOn w = (.ok (), { w with notes := w.notes ++ notes }) := rfl

@[simp] theorem runOn_note (level : Level) (message : String) (w : Workspace) :
    (note level message).runOn w =
      (.ok (), { w with notes := w.notes ++ [⟨level, "orchestrator", message⟩] }) := rfl

@[simp] theorem runOn_ofExcept_ok (toError : ε → RequestError) (a : α) (w : Workspace) :
    (ofExcept toError (.ok a)).runOn w = (.ok a, w) := rfl

@[simp] theorem runOn_ofExcept_error (toError : ε → RequestError) (e : ε) (w : Workspace) :
    (ofExcept toError (.error e) : Work α).runOn w = (.error (toError e), w) := rfl

/-! ## Properties that parts pass on -/

/-- A property of work that reading the workspace has and adding to the journal too, and that two pieces of work pass on
to the one after the other. The journal is not read. -/
structure Compositional (P : ∀ α : Type, Work α → Prop) : Prop where
  reads {α : Type} {x : Work α} {r : Workspace → Except RequestError α} : (∀ w, x.runOn w = (r w, w)) →
    (∀ w notes, r { w with notes := notes } = r w) → P α x
  log (notes : List Note) : P Unit (log notes)
  bind {α β : Type} {x : Work α} {f : α → Work β} : P α x → (∀ a, P β (f a)) → P β (x >>= f)

namespace Compositional

variable {P : ∀ α : Type, Work α → Prop}

theorem either {c : Prop} [Decidable c] {x y : Work α} (hx : P α x) (hy : P α y) : P α (if c then x else y) := by
  split
  · exact hx
  · exact hy

variable (hP : Compositional P)
include hP

theorem pure (a : α) : P α (pure a) := hP.reads (r := fun _ => .ok a) (fun _ => rfl) fun _ _ => rfl

theorem throw (e : RequestError) : P α (throw e) := hP.reads (r := fun _ => .error e) (fun _ => rfl) fun _ _ => rfl

theorem files : P Files files := hP.reads (r := fun w => .ok w.files) (fun _ => rfl) fun _ _ => rfl

theorem ofExcept (toError : ε → RequestError) (r : Except ε α) : P α (ofExcept toError r) := by
  cases r with
  | ok a => exact hP.pure a
  | error e => exact hP.throw _

theorem expandHome (path : Path) : P Path (expandHome path) := by
  unfold Work.expandHome
  split
  · next first rest _ _ =>
    refine either ?_ (either (either (hP.throw _) (hP.throw _)) (hP.pure _))
    exact hP.reads (r := fun w => .ok { w.home with segments := w.home.segments ++ rest }) (fun _ => rfl) fun _ _ => rfl
  · exact hP.pure _

theorem resolve (path : Path) : P Path (resolve path) := hP.bind hP.files fun _ => hP.ofExcept _ _

theorem readText (path : Path) : P String (readText path) := hP.bind hP.files fun _ => hP.ofExcept _ _

theorem loadSettings (path : Path) : P (Path × Settings) (Settings.load path) := by
  refine hP.bind (hP.expandHome path) fun path => hP.bind hP.files fun fs => hP.bind (hP.resolve _) fun file => ?_
  refine hP.bind hP.files fun fs => either (hP.bind (hP.readText file) fun text => ?_) (hP.pure _)
  exact hP.bind (hP.ofExcept _ _) fun _ => hP.pure _

theorem locateComponent (file root : String) : P Path (locateComponent file root) :=
  hP.bind (hP.expandHome _) fun _ => hP.bind (hP.resolve _) fun _ => hP.bind hP.files fun _ =>
    either (hP.pure _) (hP.throw _)

theorem readComponent (file root : String) : P String (readComponent file root) :=
  hP.bind (hP.locateComponent file root) fun _ => hP.readText _

theorem analyzeSource (source file : String) : P Component (analyzeSource source file) := by
  unfold Suitewright.analyzeSource
  obtain ⟨m, failure⟩ := analyzeTree (.ok (Script.parse (.ofPath file) source)) file
  have hend : P Component (if m.name.isEmpty then do
      Work.log [⟨.debug, "analyzer", "No component declaration found in " ++ file⟩]; return m else return m) :=
    either (hP.bind (hP.log _) fun _ => hP.pure m) (hP.pure m)
  cases failure with
  | none => exact hP.bind (hP.pure ()) fun _ => hend
  | some e => exact hP.bind (hP.log _) fun _ => hend

theorem analyzeComponent (file root : String) : P Component (analyzeComponent file root) :=
  hP.bind (hP.readComponent file root) fun _ => hP.analyzeSource _ _

theorem prepare (limit : Int) (order : Order) (verifier : Option Verifier) :
    P LoopSetting (prepare limit order verifier) := by
  unfold Suitewright.prepare
  refine hP.bind (hP.expandHome _) fun root => hP.bind (hP.resolve root) fun root => ?_
  refine hP.bind (hP.locateComponent _ _) fun path => hP.bind (hP.loadSettings root) fun settings => ?_
  refine hP.bind (hP.log _) fun _ => hP.bind (hP.readText path) fun text => ?_
  refine hP.bind (hP.analyzeSource text _) fun component => hP.bind hP.files fun fs => ?_
  exact either (hP.bind (hP.resolve _) fun _ => hP.pure _) (hP.pure _)

section
variable {s : LoopSetting}

theorem repair (source output : String) : P String (s.repair source output) :=
  hP.bind (hP.log _) fun _ => hP.ofExcept _ _

theorem advance (r : Round) (verdict : Verdict) : P ((Ending × Round) ⊕ Round) (s.advance r verdict) := by
  unfold LoopSetting.advance
  refine either (hP.pure _) (hP.bind (hP.log _) fun _ => hP.bind (hP.repair _ _) fun revised => ?_)
  exact either (hP.bind (hP.log _) fun _ => hP.pure _) (hP.bind (hP.log _) fun _ => hP.pure _)

variable (hpersist : ∀ text, P Unit (persist s.testPath text))
include hpersist

theorem skip : P Outcome s.skip := hP.bind (hpersist _) fun _ => hP.pure _

variable (hverifier : P Verdict (s.verifier s.testPath s.root))
include hverifier

theorem runRound (r : Round) : P ((Ending × Round) ⊕ Round) (s.runRound r) :=
  hP.bind (hP.log _) fun _ => hP.bind (hpersist _) fun _ => hP.bind hverifier fun _ => hP.advance _ _

theorem repairLoop (n : Nat) (r : Round) : P (Ending × Round) (s.repairLoop n r) := by
  induction n generalizing r with
  | zero => exact hP.pure _
  | succ n ih =>
    refine hP.bind (hP.runRound hpersist hverifier r) fun next => ?_
    cases next with
    | inl ended => exact hP.pure _
    | inr next => exact ih next

theorem complete : P Outcome s.complete :=
  hP.bind (hP.repairLoop hpersist hverifier _ _) fun _ => hP.bind (hpersist _) fun _ =>
    hP.bind (hP.log _) fun _ => hP.pure _

end

end Compositional

/-! ## Work that leaves all but the journal alone -/

/-- Work that changes nothing but the journal. -/
def Quiet (x : Work α) : Prop := ∀ w, ∃ notes, (x.runOn w).2 = { w with notes := notes }

theorem Quiet.result {x : Work α} {r : Except RequestError α} (hx : Quiet x) (h : x.runOn w = (r, w')) :
    ∃ notes, w' = { w with notes := notes } := by
  obtain ⟨notes, hw⟩ := hx w
  rw [h] at hw
  exact ⟨notes, hw⟩

theorem quiet_compositional : Compositional fun _ x => Quiet x where
  reads h _ := fun w => ⟨w.notes, by rw [h]⟩
  log notes := fun w => ⟨w.notes ++ notes, rfl⟩
  bind := by
    intro α β x f hx hf w
    rw [runOn_bind]
    cases h : x.runOn w with | mk r w₁ =>
    obtain ⟨notes, rfl⟩ := hx.result h
    cases r with
    | ok a =>
      obtain ⟨notes', hw'⟩ := hf a { w with notes := notes }
      exact ⟨notes', hw'⟩
    | error e => exact ⟨notes, rfl⟩

/-- Work that gives a known result and changes nothing but the journal. -/
def Answers (x : Work α) (w : Workspace) (a : α) : Prop :=
  ∃ notes, x.runOn w = (.ok a, { w with notes := notes })

theorem Answers.pure (a : α) (w : Workspace) : Answers (Pure.pure a) w a := ⟨w.notes, rfl⟩

theorem Answers.note (level : Level) (message : String) (w : Workspace) :
    Answers (Work.note level message) w () := ⟨_, rfl⟩

theorem Answers.log (notes : List Note) (w : Workspace) : Answers (Work.log notes) w () := ⟨_, rfl⟩

theorem Answers.bind {x : Work α} {f : α → Work β} {a : α} {b : β} (hx : Answers x w a)
    (hf : ∀ notes, Answers (f a) { w with notes := notes } b) : Answers (x >>= f) w b := by
  obtain ⟨notes, hx⟩ := hx
  obtain ⟨notes', hf⟩ := hf notes
  exact ⟨notes', (runOn_bind_of_ok hx).trans hf⟩

/-! ## Saving -/

theorem runOn_changeFiles (change : Files → Files × Option FileError) (w : Workspace) :
    (changeFiles change).runOn w =
      match change w.files with
      | (fs, none) => (.ok (), { w with files := fs })
      | (fs, some e) => (.error (.file e), { w with files := fs }) := by
  have hnow : (changeFiles change).runOn w = (changeFiles fun _ => change w.files).runOn w := rfl
  rw [hnow]
  obtain ⟨fs, fault⟩ := change w.files
  cases fault <;> rfl

/-- What it takes to save a suite, and what it does. -/
theorem persist_ok {path : Path} {text : String} (h : (persist path text).runOn w = (.ok (), w')) :
    w' = { w with files := w'.files } ∧ Files.Saved path w.files w'.files ∧
      Files.Ready path w'.files ∧ w'.files.read path = .ok (Utf8.encode text) := by
  rw [persist, runOn_changeFiles] at h
  split at h
  · next fs hsave =>
    obtain rfl : { w with files := fs } = w' := (Prod.mk.inj h).2
    exact ⟨rfl, Files.save_spec hsave⟩
  · cases h

/-- Whether a suite can be saved hangs on the files alone. -/
theorem persist_of_savable {path : Path} {bytes : List UInt8} (h : (w.files.save path bytes).2 = none)
    (text : String) : ∃ w', (persist path text).runOn w = (.ok (), w') := by
  rw [Files.save_fault _ _ _ (Utf8.encode text)] at h
  rw [persist, runOn_changeFiles]
  cases hsave : w.files.save path (Utf8.encode text) with | mk fs fault =>
  rw [hsave] at h
  obtain rfl : fault = none := h
  exact ⟨_, rfl⟩

/-- Why a suite cannot be saved hangs on the files alone. -/
theorem persist_of_fault {path : Path} {bytes : List UInt8} {e : FileError}
    (h : (w.files.save path bytes).2 = some e) (text : String) :
    ∃ fs, (persist path text).runOn w = (.error (.file e), { w with files := fs }) := by
  rw [Files.save_fault _ _ _ (Utf8.encode text)] at h
  rw [persist, runOn_changeFiles]
  cases hsave : w.files.save path (Utf8.encode text) with | mk fs fault =>
  rw [hsave] at h
  obtain rfl : fault = some e := h
  exact ⟨fs, rfl⟩

/-! ## Verifying -/

/-- What the commands of a project do: they start processes, with the files as they are. -/
theorem runOn_ofCommands (commands : List (List String)) (testPath root : Path) (w : Workspace) :
    (Verifier.ofCommands commands testPath root).runOn w =
      let v := verify commands testPath.toText w.script
      (v.result.mapError .crash,
        { w with script := v.rest, calls := w.calls ++ v.calls.map (Call.mk · root w.files),
                 notes := w.notes ++ v.notes }) := by
  show (let v := verify commands testPath.toText w.script
    (ofExcept .crash v.result).runOn
      { w with script := v.rest, calls := w.calls ++ v.calls.map (Call.mk · root w.files),
               notes := w.notes ++ v.notes }) = _
  dsimp only
  cases (verify commands testPath.toText w.script).result <;> rfl

end Work

open Work

/-! ## Preparing -/

/-- Analyzing a source never fails. -/
theorem analyzeSource_answers (source file : String) (w : Workspace) :
    Answers (analyzeSource source file) w (analyzeTree (.ok (Script.parse (.ofPath file) source)) file).1 := by
  unfold analyzeSource
  generalize analyzeTree (.ok (Script.parse (.ofPath file) source)) file = read
  obtain ⟨m, failure⟩ := read
  have hend : ∀ w, Answers (if m.name.isEmpty then do
      log [⟨.debug, "analyzer", "No component declaration found in " ++ file⟩]; return m
      else return m) w m := by
    intro w
    split
    · exact (Answers.log _ w).bind fun notes => .pure _ _
    · exact .pure _ w
  cases failure with
  | none => exact hend w
  | some e => exact (Answers.log _ w).bind fun notes => hend _

/-- All that is done before the suite of a component is written leaves the files alone and starts nothing. -/
theorem prepare_quiet (limit : Int) (order : Order) (verifier : Option Verifier) :
    Quiet (prepare limit order verifier) :=
  quiet_compositional.prepare limit order verifier

/-- What a loop is set up with. -/
theorem prepare_ok {limit : Int} {order : Order} {verifier : Option Verifier} {w w' : Workspace}
    {s : LoopSetting} (h : (prepare limit order verifier).runOn w = (.ok s, w')) :
    s.file = order.file ∧ s.limit = limit ∧
      ∃ commands, s.verifier = verifier.getD (.ofCommands commands) := by
  unfold prepare at h
  obtain ⟨home, w₁, -, h⟩ := bind_ok.1 h
  obtain ⟨root, w₂, -, h⟩ := bind_ok.1 h
  obtain ⟨path, w₃, -, h⟩ := bind_ok.1 h
  obtain ⟨⟨place, settings⟩, w₄, -, h⟩ := bind_ok.1 h
  obtain ⟨-, w₅, -, h⟩ := bind_ok.1 h
  obtain ⟨text, w₆, -, h⟩ := bind_ok.1 h
  obtain ⟨component, w₇, -, h⟩ := bind_ok.1 h
  obtain ⟨fs, w₈, -, h⟩ := bind_ok.1 h
  dsimp only at h
  split at h
  · obtain ⟨-, w₉, -, h⟩ := bind_ok.1 h
    obtain ⟨rfl, -⟩ : _ = s ∧ w₉ = w' := by simpa using h
    exact ⟨rfl, rfl, settings.commands, rfl⟩
  · obtain ⟨rfl, -⟩ : _ = s ∧ w₈ = w' := by simpa using h
    exact ⟨rfl, rfl, settings.commands, rfl⟩

end Suitewright
