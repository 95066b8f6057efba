/-
  Making a suite that is interrupted.

  * `Crashes`, `verify_crashes`: the sessions of processes in which a start fails for good;
  * `LoopSetting.Reaches`: a loop comes to a round with a known suite; `runRound_goes`, `runRound_crashes`: a round on
    the way and the round that is interrupted; `repairLoop_crashes`: the whole loop;
  * `generate_interrupted`: what stands in the way of a suite leaves the project as it is, and a start that fails for
    good leaves the suite of its round on the disk and nothing else.
-/
import Suitewright.Proofs.Loop.Obstacles
import Suitewright.Proofs.Loop.OnDisk

namespace Suitewright

/-! ## Sessions -/

/-- A start fails for good, after starts that were passed over. -/
inductive Crashes (testFile : String) : List (List String) → Script → Crash → Prop
  | now {template : List String} {templates : List (List String)} {rest : Script} {c : Crash} :
      Crashes testFile (template :: templates) (.crashed c :: rest) c
  | later {template : List String} {templates : List (List String)} {start : Started} {rest : Script} {c : Crash}
      {reason : String} : judge (expand template testFile) start = .inr reason → Crashes testFile templates rest c →
      Crashes testFile (template :: templates) (start :: rest) c

theorem judge_error {args : List String} {start : Started} {c : Crash} (h : judge args start = .inl (.error c)) :
    start = .crashed c := by
  cases start with
  | finished status output =>
    rw [judge] at h
    split at h <;> cases h
  | unavailable message => cases h
  | crashed c' =>
    cases h
    rfl

theorem verify_cons (template : List String) (templates : List (List String)) (testFile : String) (start : Started)
    (rest : Script) : (verify (template :: templates) testFile (start :: rest)).result =
      match judge (expand template testFile) start with
      | .inl result => result
      | .inr _ => (verify templates testFile rest).result := by
  rw [verify, nextStart]
  dsimp only
  cases judge (expand template testFile) start <;> rfl

/-- A verification fails just when a start fails for good. -/
theorem verify_crashes {testFile : String} {templates : List (List String)} {script : Script} {c : Crash} :
    (verify templates testFile script).result = .error c ↔ Crashes testFile templates script c := by
  constructor
  · intro h
    induction templates generalizing script with
    | nil => cases h
    | cons template templates ih =>
      cases script with
      | nil => cases (ih h : Crashes testFile templates [] c)
      | cons start rest =>
        rw [verify_cons] at h
        cases hjudge : judge (expand template testFile) start with
        | inl result =>
          rw [hjudge] at h
          obtain rfl : result = .error c := h
          obtain rfl := judge_error hjudge
          exact .now
        | inr reason =>
          rw [hjudge] at h
          exact .later hjudge (ih h)
  · intro h
    induction h with
    | now => rfl
    | later hjudge _ ih =>
      rw [verify_cons, hjudge]
      exact ih

/-! ## Rounds -/

/-- The loop comes to round number `k`: the rounds before it go through the sessions, and each of them changes the
suite. -/
structure LoopSetting.Reaches (s : LoopSetting) (commands : List (List String)) (suites : Nat → String)
    (verdicts : Nat → Verdict) (sessions : Nat → Script) (k : Nat) : Prop where
  within : (k : Int) < s.limit
  first : suites 0 = s.component.suite
  verdict : ∀ j < k, (verify commands s.testPath.toText (sessions j)).result = .ok (verdicts j)
  session : ∀ j < k, (verify commands s.testPath.toText (sessions j)).rest = sessions (j + 1)
  repaired : ∀ j < k,
    Suitewright.repair (suites j) (verdicts j).diagnostics s.component (some s.file) = .ok (suites (j + 1))
  busy : Busy suites verdicts k

namespace LoopSetting

variable {s : LoopSetting} {commands : List (List String)} {suites : Nat → String} {verdicts : Nat → Verdict}
  {sessions : Nat → Script} {j k : Nat} {w : Workspace} {c : Crash}

/-- A round saves its suite and goes through a session; what comes after it goes by the verdict. -/
theorem runRound_session (hs : s.verifier = .ofCommands commands) (hsave : (w.files.save s.testPath []).2 = none)
    (r : Round) : ∃ w₁, Files.Saved s.testPath w.files w₁.files ∧ Files.Ready s.testPath w₁.files ∧
      w₁.files.read s.testPath = .ok (Utf8.encode r.source) ∧
      w₁.script = (verify commands s.testPath.toText w.script).rest ∧
      (s.runRound r).runOn w = match (verify commands s.testPath.toText w.script).result with
        | .ok verdict => (s.advance r verdict).runOn w₁
        | .error c => (.error (.crash c), w₁) := by
  obtain ⟨notes, hnote⟩ := Work.Answers.note .info
    ("Test iteration " ++ toString r.number ++ "/" ++ toString s.limit) w
  obtain ⟨w₁, hpersist⟩ := Work.persist_of_savable (w := { w with notes := notes }) hsave r.source
  obtain ⟨hw₁, hsaved, hready, hread⟩ := Work.persist_ok hpersist
  have hscript : w₁.script = w.script := by rw [hw₁]
  have hverify := Work.runOn_ofCommands commands s.testPath s.root w₁
  rw [hscript, ← hs] at hverify
  generalize verify commands s.testPath.toText w.script = v at hverify ⊢
  obtain ⟨result, calls, rest, journal⟩ := v
  refine ⟨{ w₁ with script := rest, calls := w₁.calls ++ calls.map (Call.mk · s.root w₁.files),
                    notes := w₁.notes ++ journal }, hsaved, hready, hread, rfl, ?_⟩
  unfold runRound
  rw [Work.runOn_bind_of_ok hnote, Work.runOn_bind_of_ok hpersist, Work.runOn_bind, hverify]
  cases result <;> rfl

/-- A round on the way to the one that is interrupted. -/
theorem runRound_goes (hs : s.verifier = .ofCommands commands) (h : s.Reaches commands suites verdicts sessions k)
    (hj : j < k) (hscript : w.script = sessions j) (hsave : (w.files.save s.testPath []).2 = none) :
    ∃ w', (s.runRound (roundAt suites verdicts j)).runOn w = (.ok (.inr (roundAt suites verdicts (j + 1))), w') ∧
      w'.script = sessions (j + 1) ∧ Files.Saved s.testPath w.files w'.files ∧ Files.Ready s.testPath w'.files := by
  obtain ⟨w₁, hsaved, hready, -, hrest, hround⟩ := runRound_session hs hsave (roundAt suites verdicts j)
  rw [hscript, h.session j hj] at hrest
  rw [hscript, h.verdict j hj] at hround
  obtain ⟨notes, hadvance⟩ := advance_told (fun _ => h.repaired j hj) w₁
  have hgoes : told suites verdicts j = .inr (roundAt suites verdicts (j + 1)) := by
    rw [told, (h.busy j hj).1, if_neg Bool.false_ne_true, if_neg (h.busy j hj).2]
  rw [hgoes] at hadvance
  exact ⟨{ w₁ with notes := notes }, hround.trans hadvance, hrest, hsaved, hready⟩

/-- The round that is interrupted. -/
theorem runRound_crashes (hs : s.verifier = .ofCommands commands)
    (hcrash : Crashes s.testPath.toText commands w.script c) (hsave : (w.files.save s.testPath []).2 = none)
    (r : Round) : ∃ w', (s.runRound r).runOn w = (.error (.crash c), w') ∧
      w'.files.read s.testPath = .ok (Utf8.encode r.source) ∧ Files.Saved s.testPath w.files w'.files := by
  obtain ⟨w₁, hsaved, -, hread, -, hround⟩ := runRound_session hs hsave r
  rw [verify_crashes.2 hcrash] at hround
  exact ⟨w₁, hround, hread, hsaved⟩

/-- The loop, by induction on the rounds up to the one that is interrupted. -/
theorem repairLoop_crashes (hs : s.verifier = .ofCommands commands) (h : s.Reaches commands suites verdicts sessions k)
    (hcrash : Crashes s.testPath.toText commands (sessions k) c) (d : Nat) (hd : j + d = k) {n : Nat}
    (hn : j + n = s.limit.toNat) (hscript : w.script = sessions j) (hsave : (w.files.save s.testPath []).2 = none) :
    ∃ w', (s.repairLoop n (roundAt suites verdicts j)).runOn w = (.error (.crash c), w') ∧
      w'.files.read s.testPath = .ok (Utf8.encode (suites k)) ∧ Files.Saved s.testPath w.files w'.files := by
  have hwithin := h.within
  obtain ⟨n, rfl⟩ : ∃ m, n = m + 1 := ⟨n - 1, by omega⟩
  rw [repairLoop]
  induction d generalizing j n w with
  | zero =>
    -- the round that is interrupted
    obtain rfl : j = k := hd
    obtain ⟨w', hround, hread, hsaved⟩ := runRound_crashes hs (hscript ▸ hcrash) hsave (roundAt suites verdicts j)
    exact ⟨w', Work.runOn_bind_of_error hround, hread, hsaved⟩
  | succ d ih =>
    obtain ⟨w₁, hround, hscript₁, hsaved, hready⟩ := runRound_goes hs h (by omega) hscript hsave
    -- the next round can save its suite, as this one did
    obtain ⟨fs, hsave₁⟩ := Files.save_of_ready hready []
    obtain ⟨n, rfl⟩ : ∃ m, n = m + 1 := ⟨n - 1, by omega⟩
    obtain ⟨w', hloop, hread, hsaved'⟩ := ih (j := j + 1) (by omega) hscript₁ (by rw [hsave₁]) n (by omega)
    rw [Work.runOn_bind_of_ok hround]
    exact ⟨w', hloop, hread, hsaved.trans hsaved'⟩

theorem complete_crashes (hs : s.verifier = .ofCommands commands) (h : s.Reaches commands suites verdicts sessions k)
    (hcrash : Crashes s.testPath.toText commands (sessions k) c) (hscript : w.script = sessions 0)
    (hsave : (w.files.save s.testPath []).2 = none) :
    ∃ w', s.complete.runOn w = (.error (.crash c), w') ∧
      w'.files.read s.testPath = .ok (Utf8.encode (suites k)) ∧ Files.Saved s.testPath w.files w'.files := by
  obtain ⟨w', hloop, hread, hsaved⟩ :=
    repairLoop_crashes hs h hcrash k (Nat.zero_add k) (Nat.zero_add _) hscript hsave
  have hstart : ({ source := s.component.suite } : Round) = roundAt suites verdicts 0 := by
    simp [roundAt, outputBefore, changesBefore, h.first]
  refine ⟨w', ?_, hread, hsaved⟩
  unfold complete
  rw [hstart]
  exact Work.runOn_bind_of_error hloop

end LoopSetting

/-! ## Making a suite -/

/-- Making a suite fails without harm. When something stands in the way of the suite the project is as it was, and no
process was started. When a start fails for good in round number `k`, counted from zero, this failure is the answer,
the file of the suite holds the suite after `k` repairs, and nothing else changed but missing directories above it. -/
theorem generate_interrupted (limit : Int) (order : Order) (verifier : Option Verifier) (w : Workspace) :
    ((∃ e, Obstacle order w e) → ∃ e notes, Obstacle order w e ∧
      (generate limit order verifier).runOn w = (.error e, { w with notes := notes })) ∧
    ∀ i commands suites verdicts sessions k c, order.verify = true → order.Reads w i →
      let s := i.setting limit order verifier w
      s.verifier = .ofCommands commands → (w.files.save s.testPath []).2 = none → w.script = sessions 0 →
      s.Reaches commands suites verdicts sessions k → Crashes s.testPath.toText commands (sessions k) c →
      ∃ w', (generate limit order verifier).runOn w = (.error (.crash c), w') ∧
        w'.files.read s.testPath = .ok (Utf8.encode (suites k)) ∧ Files.Saved s.testPath w.files w'.files := by
  refine ⟨?_, ?_⟩
  · rintro ⟨e, hobstacle⟩
    obtain ⟨i, notes, hreads, -⟩ | ⟨e', notes, hobstacle', hrun⟩ := prepare_run limit order verifier w
    · exact absurd hobstacle hreads.no_obstacle
    · exact ⟨e', notes, hobstacle', Work.runOn_bind_of_error hrun⟩
  · intro i commands suites verdicts sessions k c hverify hreads s hs hsave hscript h hcrash
    obtain ⟨notes, hprepare⟩ := hreads.prepare limit verifier
    obtain ⟨w', hcomplete, hread, hsaved⟩ :=
      LoopSetting.complete_crashes (w := { w with notes := notes }) hs h hcrash hscript hsave
    refine ⟨w', ?_, hread, hsaved⟩
    unfold generate
    rw [Work.runOn_bind_of_ok hprepare, if_pos hverify]
    exact hcomplete

/-- The project with an empty source file, where the first process fails for good. -/
def brokenPlace : Workspace := { mutePlace with script := [.crashed { kind := "ValueError", message := "boom" }] }

theorem muteOrder_reads : muteOrder.Reads brokenPlace ⟨⟨1, ["p"]⟩, ⟨1, ["p", "A.ts"]⟩, {}, ""⟩ where
  paths := ⟨{}, rfl, rfl, rfl⟩
  file := rfl
  settings := .absent rfl rfl
  source := rfl
  output := by
    rintro given ⟨⟩

/-- Without its component it is left as it is; and where the process fails, the suite is on the disk. -/
theorem generate_interrupted_mute :
    (∃ e notes, (generate 2 { muteOrder with file := "B.ts" }).runOn brokenPlace =
      (.error e, { brokenPlace with notes := notes })) ∧
    ∃ w', (generate 2 muteOrder).runOn brokenPlace = (.error (.crash { kind := "ValueError", message := "boom" }), w') ∧
      w'.files.read muteSetting.testPath = .ok (Utf8.encode muteSetting.component.suite) := by
  refine ⟨?_, ?_⟩
  · have hmissing : Obstacle { muteOrder with file := "B.ts" } brokenPlace (.componentMissing ⟨1, ["p", "B.ts"]⟩) :=
      .missing rfl rfl rfl
    obtain ⟨e, notes, -, hrun⟩ := (generate_interrupted 2 _ none brokenPlace).1 ⟨_, hmissing⟩
    exact ⟨e, notes, hrun⟩
  · obtain ⟨w', hrun, hread, -⟩ := (generate_interrupted 2 muteOrder none brokenPlace).2 _ _
      (fun _ => muteSetting.component.suite) (fun _ => default) (fun _ => brokenPlace.script) 0 _ rfl muteOrder_reads
      rfl rfl rfl
      ⟨by decide, rfl, nofun, nofun, nofun, nofun⟩ .now
    exact ⟨w', hrun, hread⟩

end Suitewright
