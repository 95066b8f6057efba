/-
  How the rounds of a loop follow from the verdicts.

  * `Verifier.Tells`: a verifier that gives known verdicts in turn and leaves the files alone;
  * `Busy`: no round before a given one ended the loop;
  * `LoopSetting.Brought`: the outcome of a loop, from its suites and verdicts alone;
  * `runRound_told`: what one round does; `repairLoop_brought`, `complete_brought`: what the whole loop does;
  * `generate_told`, `generate_brought`: making a suite brings it where its verdicts say, after at most as many rounds
    as the limit.

  Suites, verdicts and rounds are counted from zero, the numbers told in outcomes and changes from one.
-/
import Suitewright.Proofs.Loop.Working
import Suitewright.Proofs.Results

namespace Suitewright

/-- A verifier that leaves the files alone and answers its run number `k` on a suite with some bytes by
`told k bytes`. In the workspaces with `turn k` the next run has this number, whatever the files and the journal
are. -/
structure Verifier.Tells (verifier : Verifier) (testPath root : Path) (told : Nat → List UInt8 → Verdict)
    (turn : Nat → Workspace → Prop) : Prop where
  run : ∀ {k w bytes}, turn k w → w.files.read testPath = .ok bytes →
    ∃ w', (verifier testPath root).runOn w = (.ok (told k bytes), w') ∧ turn (k + 1) w' ∧
      w'.files = w.files
  frame : ∀ {k w} (files notes), turn k w → turn k { w with files := files, notes := notes }

/-- The verdicts that a verifier gives on a sequence of suites. -/
def verdictsOn (told : Nat → List UInt8 → Verdict) (suites : Nat → String) (k : Nat) : Verdict :=
  told k (Utf8.encode (suites k))

section
variable (suites : Nat → String) (verdicts : Nat → Verdict)

/-- No round before number `k` ended the loop: each verdict was a failure, and each repair changed the suite. -/
def Busy (k : Nat) : Prop := ∀ j < k, (verdicts j).success = false ∧ suites (j + 1) ≠ suites j

/-- The output of the round before number `k`, if there is one. -/
def outputBefore : (k : Nat) → String
  | 0 => ""
  | k + 1 => (verdicts k).diagnostics

/-- The changes made before round number `k`. -/
def changesBefore (k : Nat) : List String :=
  (List.range k).map fun j => LoopSetting.roundDiff (j + 1) (suites j) (suites (j + 1))

/-- The round number `k`. -/
def roundAt (k : Nat) : Round where
  number := k + 1
  source := suites k
  diagnostics := outputBefore verdicts k
  history := changesBefore suites k

/-- The outcome of a loop with these suites and verdicts, and the number of its verifications. -/
inductive LoopSetting.Brought (s : LoopSetting) : (runs : Nat) → Outcome → Prop
  /-- The first success within the limit. -/
  | passed {k : Nat} : (k : Int) < s.limit → Busy suites verdicts k → (verdicts k).success = true →
      Brought s (k + 1)
        { testPath := s.testPath, testSource := suites k, ending := some .passed, iterations := k + 1,
          maxIterations := s.limit, diagnostics := (verdicts k).diagnostics,
          history := changesBefore suites k }
  /-- The first failure within the limit whose repair does not change the suite. -/
  | stalled {k : Nat} : (k : Int) < s.limit → Busy suites verdicts k → (verdicts k).success = false →
      suites (k + 1) = suites k → Brought s (k + 1)
        { testPath := s.testPath, testSource := suites k, ending := some .stalled, iterations := k + 1,
          maxIterations := s.limit, diagnostics := (verdicts k).diagnostics,
          history := changesBefore suites k }
  /-- No round within the limit ends the loop. -/
  | exhausted : Busy suites verdicts s.limit.toNat → Brought s s.limit.toNat
      { testPath := s.testPath, testSource := suites s.limit.toNat, ending := some .exhausted,
        iterations := s.limit, maxIterations := s.limit,
        diagnostics := outputBefore verdicts s.limit.toNat,
        history := changesBefore suites s.limit.toNat }

end

namespace LoopSetting

variable {s : LoopSetting} {suites : Nat → String} {verdicts : Nat → Verdict} {k : Nat} {w : Workspace}

/-- The round at which a loop ends when it ends with its own verdict. -/
theorem outcome_last {ending : Ending} (hk : (k : Int) < s.limit) :
    s.outcome ending { roundAt suites verdicts k with diagnostics := (verdicts k).diagnostics } =
      { testPath := s.testPath, testSource := suites k, ending := some ending, iterations := k + 1,
        maxIterations := s.limit, diagnostics := (verdicts k).diagnostics,
        history := changesBefore suites k } := by
  have hmin : min ((k : Int) + 1) s.limit = k + 1 := by omega
  simp [outcome, roundAt, hmin]

theorem outcome_exhausted :
    s.outcome .exhausted (roundAt suites verdicts s.limit.toNat) =
      { testPath := s.testPath, testSource := suites s.limit.toNat, ending := some .exhausted,
        iterations := s.limit, maxIterations := s.limit,
        diagnostics := outputBefore verdicts s.limit.toNat,
        history := changesBefore suites s.limit.toNat } := by
  have hmin : min (((s.limit.toNat + 1 : Nat) : Int)) s.limit = s.limit := by omega
  simp only [outcome, roundAt, hmin]

theorem Brought.runs_le {runs : Nat} {o : Outcome} (h : s.Brought suites verdicts runs o) :
    runs ≤ s.limit.toNat := by
  cases h with
  | passed hk => omega
  | stalled hk => omega
  | exhausted => exact Nat.le_refl _

/-! ## One round -/

theorem repair_answers {source output revised : String}
    (h : Suitewright.repair source output s.component (some s.file) = .ok revised) (w : Workspace) :
    Work.Answers (s.repair source output) w revised := by
  refine (Work.Answers.log _ w).bind fun notes => ?_
  rw [h]
  exact .pure _ _

/-- What a verdict makes of a round. -/
def told (suites : Nat → String) (verdicts : Nat → Verdict) (k : Nat) : (Ending × Round) ⊕ Round :=
  if (verdicts k).success then
    .inl (.passed, { roundAt suites verdicts k with diagnostics := (verdicts k).diagnostics })
  else if suites (k + 1) = suites k then
    .inl (.stalled, { roundAt suites verdicts k with diagnostics := (verdicts k).diagnostics })
  else .inr (roundAt suites verdicts (k + 1))

theorem nextRound_roundAt : nextRound (roundAt suites verdicts k) (verdicts k).diagnostics (suites (k + 1)) =
    roundAt suites verdicts (k + 1) := by
  simp [nextRound, roundAt, outputBefore, changesBefore, List.range_succ]

theorem advance_told
    (hrepair : (verdicts k).success = false →
      Suitewright.repair (suites k) (verdicts k).diagnostics s.component (some s.file) =
        .ok (suites (k + 1))) (w : Workspace) :
    Work.Answers (s.advance (roundAt suites verdicts k) (verdicts k)) w (told suites verdicts k) := by
  unfold advance told
  cases hs : (verdicts k).success with
  | true => exact .pure _ w
  | false =>
    simp only [Bool.false_eq_true, if_false]
    refine (Work.Answers.note _ _ w).bind fun notes => ?_
    refine (repair_answers (hrepair hs) _).bind fun notes => ?_
    by_cases he : suites (k + 1) = suites k
    · rw [if_pos (show (suites (k + 1) == (roundAt suites verdicts k).source) = true from beq_iff_eq.2 he),
        if_pos he]
      exact (Work.Answers.note _ _ _).bind fun notes => .pure _ _
    · rw [if_neg (show ¬ (suites (k + 1) == (roundAt suites verdicts k).source) = true from
        fun h => he (beq_iff_eq.1 h)), if_neg he]
      refine (Work.Answers.note _ _ _).bind fun notes => ?_
      rw [nextRound_roundAt]
      exact .pure _ _

/-- What one round does, when the suite can be saved: the verifier runs once, on the suite of the round. -/
theorem runRound_told {tells : Nat → List UInt8 → Verdict} {turn : Nat → Workspace → Prop}
    (htells : s.verifier.Tells s.testPath s.root tells turn) (hturn : turn k w)
    {bytes : List UInt8} (hsave : (w.files.save s.testPath bytes).2 = none)
    (hrepair : (verdictsOn tells suites k).success = false →
      Suitewright.repair (suites k) (verdictsOn tells suites k).diagnostics s.component (some s.file) =
        .ok (suites (k + 1))) :
    ∃ w', (s.runRound (roundAt suites (verdictsOn tells suites) k)).runOn w =
        (.ok (told suites (verdictsOn tells suites) k), w') ∧
      turn (k + 1) w' ∧ Files.Ready s.testPath w'.files := by
  obtain ⟨notes, hnote⟩ := Work.Answers.note .info
    ("Test iteration " ++ toString (roundAt suites (verdictsOn tells suites) k).number ++ "/" ++
      toString s.limit) w
  obtain ⟨w₂, hpersist⟩ := Work.persist_of_savable (w := { w with notes := notes }) hsave (suites k)
  obtain ⟨hw₂, -, hready, hread⟩ := Work.persist_ok hpersist
  have hturn₂ : turn k w₂ := by
    rw [hw₂]
    exact htells.frame (w := w) w₂.files notes hturn
  obtain ⟨w₃, hrun, hturn₃, hfiles⟩ := htells.run hturn₂ hread
  obtain ⟨notes', hadvance⟩ := advance_told hrepair w₃
  refine ⟨{ w₃ with notes := notes' }, ?_, htells.frame w₃.files notes' hturn₃, ?_⟩
  · unfold runRound
    rw [Work.runOn_bind_of_ok hnote]
    refine (Work.runOn_bind_of_ok hpersist).trans ?_
    exact (Work.runOn_bind_of_ok hrun).trans hadvance
  · exact hfiles ▸ hready

/-! ## The whole loop -/

/-- `n` rounds before the limit the loop is at round `k` and was busy so far; it ends as the verdicts say. -/
theorem repairLoop_brought {tells : Nat → List UInt8 → Verdict} {turn : Nat → Workspace → Prop}
    (htells : s.verifier.Tells s.testPath s.root tells turn)
    (hrepair : ∀ k : Nat, (k : Int) < s.limit → Busy suites (verdictsOn tells suites) k →
      (verdictsOn tells suites k).success = false →
      Suitewright.repair (suites k) (verdictsOn tells suites k).diagnostics s.component (some s.file) =
        .ok (suites (k + 1)))
    {bytes : List UInt8} (n : Nat) (hn : k + n = s.limit.toNat)
    (hbusy : Busy suites (verdictsOn tells suites) k) (hturn : turn k w)
    (hsave : (w.files.save s.testPath bytes).2 = none) :
    ∃ runs ending r w', (s.repairLoop n (roundAt suites (verdictsOn tells suites) k)).runOn w =
        (.ok (ending, r), w') ∧ turn runs w' ∧ (w'.files.save s.testPath bytes).2 = none ∧
      s.Brought suites (verdictsOn tells suites) runs (s.outcome ending r) := by
  induction n generalizing k w with
  | zero =>
    obtain rfl : k = s.limit.toNat := hn
    refine ⟨_, .exhausted, _, w, rfl, hturn, hsave, ?_⟩
    rw [outcome_exhausted]
    exact .exhausted hbusy
  | succ n ih =>
    have hk : (k : Int) < s.limit := by omega
    obtain ⟨w', hround, hturn', hready⟩ := runRound_told htells hturn hsave (hrepair k hk hbusy)
    have hsave' : (w'.files.save s.testPath bytes).2 = none := by
      obtain ⟨fs, h⟩ := Files.save_of_ready hready bytes
      rw [h]
    rw [repairLoop, Work.runOn_bind_of_ok hround, told]
    cases hs : (verdictsOn tells suites k).success with
    | true =>
      refine ⟨k + 1, .passed, _, w', rfl, hturn', hsave', ?_⟩
      rw [outcome_last hk]
      exact .passed hk hbusy hs
    | false =>
      simp only [Bool.false_eq_true, if_false]
      by_cases he : suites (k + 1) = suites k
      · rw [if_pos he]
        refine ⟨k + 1, .stalled, _, w', rfl, hturn', hsave', ?_⟩
        rw [outcome_last hk]
        exact .stalled hk hbusy hs he
      · rw [if_neg he]
        refine ih (by omega) (fun j hj => ?_) hturn' hsave'
        rcases Nat.lt_succ_iff_lt_or_eq.1 hj with hj | rfl
        · exact hbusy j hj
        · exact ⟨hs, he⟩

/-- The whole loop, with the suite saved once more at its end. -/
theorem complete_brought {tells : Nat → List UInt8 → Verdict} {turn : Nat → Workspace → Prop}
    (htells : s.verifier.Tells s.testPath s.root tells turn) (hfirst : suites 0 = s.component.suite)
    (hrepair : ∀ k : Nat, (k : Int) < s.limit → Busy suites (verdictsOn tells suites) k →
      (verdictsOn tells suites k).success = false →
      Suitewright.repair (suites k) (verdictsOn tells suites k).diagnostics s.component (some s.file) =
        .ok (suites (k + 1)))
    {bytes : List UInt8} (hturn : turn 0 w) (hsave : (w.files.save s.testPath bytes).2 = none) :
    ∃ runs o w', s.complete.runOn w = (.ok o, w') ∧ turn runs w' ∧
      s.Brought suites (verdictsOn tells suites) runs o := by
  obtain ⟨runs, ending, r, w₁, hloop, hturn₁, hsave₁, hb⟩ :=
    repairLoop_brought htells hrepair s.limit.toNat (Nat.zero_add _) (fun j hj => nomatch hj) hturn hsave
  obtain ⟨w₂, hpersist⟩ := Work.persist_of_savable hsave₁ r.source
  obtain ⟨hw₂, -⟩ := Work.persist_ok hpersist
  obtain ⟨notes, hnote⟩ := Work.Answers.note .info ("Repair loop finished: " ++ ending.label) w₂
  refine ⟨runs, s.outcome ending r, { w₂ with notes := notes }, ?_, ?_, hb⟩
  · unfold complete
    have hstart : ({ source := s.component.suite } : Round) = roundAt suites (verdictsOn tells suites) 0 := by
      simp [roundAt, outputBefore, changesBefore, hfirst]
    rw [hstart, Work.runOn_bind_of_ok hloop]
    refine (Work.runOn_bind_of_ok hpersist).trans ?_
    exact (Work.runOn_bind_of_ok hnote).trans rfl
  · rw [hw₂]
    exact htells.frame (w := w₁) w₂.files notes hturn₁

/-- When the suite cannot be saved the loop fails before the first verification. -/
theorem complete_of_fault {e : FileError} {bytes : List UInt8}
    (hsave : (w.files.save s.testPath bytes).2 = some e) :
    ∃ fs notes, s.complete.runOn w = (.error (.file e), { w with files := fs, notes := notes }) := by
  unfold complete
  cases s.limit.toNat with
  | zero =>
    obtain ⟨fs, hpersist⟩ := Work.persist_of_fault hsave s.component.suite
    exact ⟨fs, w.notes, (Work.runOn_bind_of_ok rfl).trans (Work.runOn_bind_of_error hpersist)⟩
  | succ n =>
    obtain ⟨notes, hnote⟩ := Work.Answers.note .info
      ("Test iteration " ++ toString (1 : Nat) ++ "/" ++ toString s.limit) w
    obtain ⟨fs, hpersist⟩ :=
      Work.persist_of_fault (w := { w with notes := notes }) hsave s.component.suite
    refine ⟨fs, notes, Work.runOn_bind_of_error ?_⟩
    rw [repairLoop]
    refine Work.runOn_bind_of_error ?_
    unfold runRound
    exact (Work.runOn_bind_of_ok hnote).trans (Work.runOn_bind_of_error hpersist)

end LoopSetting

/-! ## Making a suite -/

/-- The commands of a project, in sessions of processes: the verifier gives the verdict of each session. -/
theorem Verifier.ofCommands_tells {commands : List (List String)} {testPath root : Path}
    {sessions : Nat → Script} {verdicts : Nat → Verdict}
    (hresult : ∀ k, (verify commands testPath.toText (sessions k)).result = .ok (verdicts k))
    (hrest : ∀ k, (verify commands testPath.toText (sessions k)).rest = sessions (k + 1)) :
    (Verifier.ofCommands commands).Tells testPath root (fun k _ => verdicts k)
      (fun k w => w.script = sessions k) where
  run := by
    intro k w bytes hw _
    rw [Work.runOn_ofCommands, hw]
    dsimp only
    rw [hresult k, hrest k]
    exact ⟨_, rfl, rfl, rfl⟩
  frame := fun _ _ hw => hw

section
variable {limit : Int} {order : Order} {verifier : Option Verifier} {w w₁ : Workspace} {s : LoopSetting}

theorem generate_complete (hverify : order.verify = true) (hprepare : (prepare limit order verifier).runOn w = (.ok s, w₁)) :
    s.file = order.file ∧ s.limit = limit ∧
      ∃ notes, (generate limit order verifier).runOn w = s.complete.runOn { w with notes := notes } := by
  obtain ⟨hfile, hlimit, -⟩ := prepare_ok hprepare
  obtain ⟨notes, rfl⟩ := (prepare_quiet limit order verifier).result hprepare
  refine ⟨hfile, hlimit, notes, ?_⟩
  unfold generate
  rw [Work.runOn_bind_of_ok hprepare, if_pos hverify]

variable {told : Nat → List UInt8 → Verdict} {turn : Nat → Workspace → Prop} {suites : Nat → String}

/-- Making a suite that is to be verified and can be saved. -/
theorem generate_told (hverify : order.verify = true) (hprepare : (prepare limit order verifier).runOn w = (.ok s, w₁))
    (htells : s.verifier.Tells s.testPath s.root told turn) (hturn : turn 0 w)
    (hfirst : suites 0 = s.component.suite)
    (hrepair : ∀ k : Nat, (k : Int) < limit → Busy suites (verdictsOn told suites) k →
      (verdictsOn told suites k).success = false →
      repair (suites k) (verdictsOn told suites k).diagnostics s.component (some order.file) = .ok (suites (k + 1)))
    {bytes : List UInt8} (hsave : (w.files.save s.testPath bytes).2 = none) :
    ∃ runs o w', (generate limit order verifier).runOn w = (.ok o, w') ∧ turn runs w' ∧ runs ≤ limit.toNat ∧
      s.limit = limit ∧ s.Brought suites (verdictsOn told suites) runs o := by
  obtain ⟨hfile, hlimit, notes, hstart⟩ := generate_complete hverify hprepare
  rw [← hfile, ← hlimit] at hrepair
  obtain ⟨runs, o, w', hrun, hturn', hb⟩ := LoopSetting.complete_brought htells hfirst hrepair
    (htells.frame w.files notes hturn) hsave
  exact ⟨runs, o, w', hstart.trans hrun, hturn', hlimit ▸ hb.runs_le, hlimit, hb⟩

end

/-- Making a suite that is to be verified: its outcome is where the verdicts bring it, and the number of
verifications is known. It fails only when the suite cannot be saved, and then before the first verification. -/
theorem generate_brought {limit : Int} {order : Order} {verifier : Option Verifier} {w w₁ : Workspace}
    {s : LoopSetting} {told : Nat → List UInt8 → Verdict} {turn : Nat → Workspace → Prop}
    {suites : Nat → String} (hverify : order.verify = true)
    (hprepare : (prepare limit order verifier).runOn w = (.ok s, w₁))
    (htells : s.verifier.Tells s.testPath s.root told turn) (hturn : turn 0 w)
    (hfirst : suites 0 = s.component.suite)
    (hrepair : ∀ k : Nat, (k : Int) < limit → Busy suites (verdictsOn told suites) k →
      (verdictsOn told suites k).success = false →
      repair (suites k) (verdictsOn told suites k).diagnostics s.component (some order.file) =
        .ok (suites (k + 1))) :
    match (w.files.save s.testPath (Utf8.encode (suites 0))).2 with
    | none => ∃ runs o w', (generate limit order verifier).runOn w = (.ok o, w') ∧ turn runs w' ∧
        runs ≤ limit.toNat ∧ s.limit = limit ∧ s.Brought suites (verdictsOn told suites) runs o
    | some e => ∃ w', (generate limit order verifier).runOn w = (.error (.file e), w') ∧ turn 0 w' := by
  split
  · next hsave => exact generate_told hverify hprepare htells hturn hfirst hrepair hsave
  · next e hsave =>
    obtain ⟨-, -, notes, hstart⟩ := generate_complete hverify hprepare
    obtain ⟨fs, notes', hrun⟩ :=
      LoopSetting.complete_of_fault (s := s) (w := { w with notes := notes }) hsave
    exact ⟨_, hstart.trans hrun, htells.frame (w := w) fs notes' hturn⟩

/-! ## A project whose tests fail without a word -/

/-- A project with an empty source file and one process to come. -/
def mutePlace : Workspace where
  files := { here := ⟨1, ["p"]⟩, entries := [(["p"], .directory), (["p", "A.ts"], .file [])] }
  home := ⟨1, ["p"]⟩
  script := [.finished 1 "boom"]

/-- An order for a suite of its source file. -/
def muteOrder : Order where
  file := "A.ts"
  root := "."

/-- What its loop is set up with. -/
def muteSetting : LoopSetting where
  component := (analyzeTree (.ok (Script.parse (.ofPath "A.ts") "")) "A.ts").1
  file := "A.ts"
  testPath := ⟨1, ["p", "__tests__", "A.test.tsx"]⟩
  root := ⟨1, ["p"]⟩
  verifier := .ofCommands defaultCommands
  limit := 2

theorem prepare_mute (verifier : Option Verifier) : Work.Answers (prepare 2 muteOrder verifier) mutePlace
    { muteSetting with verifier := verifier.getD (.ofCommands defaultCommands) } := by
  unfold prepare
  refine .bind ⟨_, rfl⟩ fun notes => .bind (a := muteSetting.root) ⟨_, rfl⟩ fun notes => ?_
  refine .bind (a := ⟨1, ["p", "A.ts"]⟩) ⟨_, rfl⟩ fun notes => ?_
  refine .bind (a := (muteSetting.root, {})) ⟨_, rfl⟩ fun notes => .bind ⟨_, rfl⟩ fun notes => ?_
  refine .bind (a := "") ⟨_, rfl⟩ fun notes => .bind (analyzeSource_answers _ _ _) fun notes => ?_
  refine .bind (a := mutePlace.files) ⟨_, rfl⟩ fun notes => ?_
  exact .pure _ _

theorem prepare_muteOrder : Work.Answers (prepare 2 muteOrder none) mutePlace muteSetting := prepare_mute none

/-- Its verdicts: the first runner fails, and after it none can be started. -/
def muteVerdict : Nat → Verdict
  | 0 =>
    let args := expand (defaultCommands.headD []) muteSetting.testPath.toText
    { success := false, diagnostics := "boom", command := some args }
  | _ + 1 => { success := false, diagnostics := noRunnerMessage, command := none }

theorem muteSetting_tells : muteSetting.verifier.Tells muteSetting.testPath muteSetting.root
    (fun k _ => muteVerdict k) (fun k w => w.script = mutePlace.script.drop k) := by
  refine Verifier.ofCommands_tells (fun k => ?_) (fun k => ?_)
  · cases k with
    | zero => rfl
    | succ k => cases k <;> rfl
  · cases k with
    | zero => rfl
    | succ k => cases k <;> rfl

theorem repair_boom (source : String) (m : Component) (path : Option String) :
    repair source "boom" m path = .ok source := by
  have h : classify "boom" = .ok [] := eq_ok_of_toOption (by decide)
  rw [repair, h]
  rfl

/-- The suites of its loop, of which there is only one. -/
def muteSuites (_ : Nat) : String := muteSetting.component.suite

theorem mute_repair (k : Nat) (_ : (k : Int) < muteSetting.limit)
    (hbusy : Busy muteSuites (verdictsOn (fun k _ => muteVerdict k) muteSuites) k)
    (_ : (verdictsOn (fun k _ => muteVerdict k) muteSuites k).success = false) :
    repair (muteSuites k) (verdictsOn (fun k _ => muteVerdict k) muteSuites k).diagnostics
      muteSetting.component (some muteSetting.file) = .ok (muteSuites (k + 1)) := by
  cases k with
  | zero => exact repair_boom _ _ _
  | succ k => exact absurd rfl (hbusy 0 (Nat.succ_pos k)).2

/-- Its loop stalls after one of two rounds. -/
theorem generate_brought_mute : ∃ o w', (generate 2 muteOrder).runOn mutePlace = (.ok o, w') ∧
    w'.script = [] ∧ o.ending = some .stalled ∧ o.iterations = 1 ∧ o.diagnostics = "boom" := by
  obtain ⟨notes, hprepare⟩ := prepare_muteOrder
  obtain ⟨runs, o, w', hrun, hturn, -, -, hb⟩ :=
    generate_brought rfl hprepare muteSetting_tells rfl (rfl : muteSuites 0 = _) mute_repair
  refine ⟨o, w', hrun, ?_⟩
  cases hb with
  | @passed k _ _ hs => cases k <;> cases hs
  | @stalled k _ hbusy => cases k with
    | zero => exact ⟨hturn, rfl, rfl, rfl⟩
    | succ k => exact absurd rfl (hbusy 0 (Nat.succ_pos k)).2
  | exhausted hbusy => exact absurd rfl (hbusy 0 (by decide)).2

end Suitewright
