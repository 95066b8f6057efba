/-
  What making a suite leaves on the disk.

  * `CarriedOut`, `LoopSetting.carriedOut`: the rounds of a loop, with the processes that each one started;
  * `runRound_onDisk`: in a round every process finds the suite of this round;
  * `repairLoop_onDisk`, `complete_onDisk`, `skip_onDisk`: the same for a whole loop, and without one;
  * `generate_onDisk`: whatever the ending, the file of the suite holds what the outcome tells, and nothing else
    changed but missing directories above it.
-/
import Suitewright.Proofs.Loop.Rounds

namespace Suitewright

/-- A round as it was carried out. -/
structure CarriedOut where
  /-- The round. -/
  round : Round
  /-- The processes that it started, in order. -/
  calls : List Call

/-- Every process of a round found the suite of this round in a file. -/
def CarriedOut.Found (path : Path) (c : CarriedOut) : Prop :=
  ∀ call ∈ c.calls, call.files.read path = .ok (Utf8.encode c.round.source)

namespace LoopSetting

variable {s : LoopSetting} {w w' : Workspace}

/-- The rounds that a loop carries out, at most `n`. -/
def carriedOut (s : LoopSetting) : (n : Nat) → Round → Workspace → List CarriedOut
  | 0, _, _ => []
  | n + 1, r, w =>
    let (result, w') := (s.runRound r).runOn w
    ⟨r, w'.calls.drop w.calls.length⟩ ::
      match result with
      | .ok (.inr next) => s.carriedOut n next w'
      | _ => []

/-! ## One round -/

/-- What comes after a verification touches neither the files nor the processes. -/
theorem advance_quiet (r : Round) (verdict : Verdict) : Work.Quiet (s.advance r verdict) :=
  Work.quiet_compositional.advance r verdict

end LoopSetting

/-- A verification starts its processes with the files as they are, and leaves them so. -/
theorem Verifier.ofCommands_ok {commands : List (List String)} {testPath root : Path} {v : Verdict}
    {w w' : Workspace} (h : (Verifier.ofCommands commands testPath root).runOn w = (.ok v, w')) :
    w'.files = w.files ∧
      ∃ calls, w'.calls = w.calls ++ calls ∧ ∀ call ∈ calls, call.files = w.files := by
  rw [Work.runOn_ofCommands] at h
  obtain rfl : _ = w' := (Prod.mk.inj h).2
  refine ⟨rfl, _, rfl, ?_⟩
  rintro call hcall
  obtain ⟨args, -, rfl⟩ := List.mem_map.1 hcall
  rfl

namespace LoopSetting

variable {s : LoopSetting} {w w' : Workspace}

/-- What a whole round does: its processes find its suite, and only the file of the suite changes. -/
theorem runRound_onDisk {commands : List (List String)} (hs : s.verifier = .ofCommands commands) {r : Round}
    {next : (Ending × Round) ⊕ Round} (h : (s.runRound r).runOn w = (.ok next, w')) :
    Files.Saved s.testPath w.files w'.files ∧
      ∃ calls, w'.calls = w.calls ++ calls ∧ CarriedOut.Found s.testPath ⟨r, calls⟩ := by
  unfold runRound at h
  obtain ⟨_, w₁, hnote, hrest⟩ := Work.bind_ok.1 h
  obtain ⟨_, w₂, hpersist, hrest⟩ := Work.bind_ok.1 hrest
  obtain ⟨v, w₃, hrun, hadvance⟩ := Work.bind_ok.1 hrest
  obtain ⟨before, rfl⟩ := (Work.quiet_compositional.log _).result hnote
  obtain ⟨hw₂, hsaved, -, hread⟩ := Work.persist_ok hpersist
  rw [hs] at hrun
  obtain ⟨hfiles, calls, hcalls, hfound⟩ := Verifier.ofCommands_ok hrun
  obtain ⟨after, rfl⟩ := (advance_quiet r v).result hadvance
  refine ⟨?_, calls, ?_, fun call hcall => ?_⟩
  · show Files.Saved s.testPath w.files w₃.files
    rw [hfiles]
    exact hsaved
  · show w₃.calls = w.calls ++ calls
    rw [hcalls, hw₂]
  · rw [hfound call hcall]
    exact hread

/-! ## The whole loop -/

/-- What a loop does until it ends, by induction on the rounds that are left. -/
theorem repairLoop_onDisk {commands : List (List String)} (hs : s.verifier = .ofCommands commands) {n : Nat}
    {r last : Round} {ending : Ending} (h : (s.repairLoop n r).runOn w = (.ok (ending, last), w')) :
    Files.Saved s.testPath w.files w'.files ∧
      w'.calls = w.calls ++ (s.carriedOut n r w).flatMap CarriedOut.calls ∧
      ∀ c ∈ s.carriedOut n r w, c.Found s.testPath := by
  induction n generalizing r w with
  | zero =>
    obtain rfl : w = w' := (Prod.mk.inj h).2
    exact ⟨.refl _ _, by simp [carriedOut], by simp [carriedOut]⟩
  | succ n ih =>
    rw [repairLoop] at h
    obtain ⟨next, w₁, hround, h⟩ := Work.bind_ok.1 h
    obtain ⟨hsaved, calls, hcalls, hfound⟩ := runRound_onDisk hs hround
    have hdrop : w₁.calls.drop w.calls.length = calls := by rw [hcalls]; simp
    rw [carriedOut, hround]
    dsimp only
    rw [hdrop]
    cases next with
    | inl ended =>
      obtain rfl : w₁ = w' := (Prod.mk.inj h).2
      refine ⟨hsaved, by simp [hcalls], fun c hc => ?_⟩
      obtain rfl : c = ⟨r, calls⟩ := by simpa using hc
      exact hfound
    | inr next =>
      obtain ⟨hsaved', hcalls', hfound'⟩ := ih h
      refine ⟨hsaved.trans hsaved', ?_, fun c hc => ?_⟩
      · simp [hcalls', hcalls]
      · rcases List.mem_cons.1 hc with rfl | hc
        · exact hfound
        · exact hfound' c hc

theorem complete_onDisk {commands : List (List String)} (hs : s.verifier = .ofCommands commands) {o : Outcome}
    (h : s.complete.runOn w = (.ok o, w')) :
    let rounds := s.carriedOut s.limit.toNat { source := s.component.suite } w
    o.testPath = s.testPath ∧ w'.files.read s.testPath = .ok (Utf8.encode o.testSource) ∧
      Files.Saved s.testPath w.files w'.files ∧ w'.calls = w.calls ++ rounds.flatMap CarriedOut.calls ∧
      ∀ c ∈ rounds, c.Found s.testPath := by
  unfold complete at h
  obtain ⟨⟨ending, last⟩, w₁, hloop, hrest⟩ := Work.bind_ok.1 h
  obtain ⟨_, w₂, hpersist, hrest⟩ := Work.bind_ok.1 hrest
  obtain ⟨_, w₃, hnote, hend⟩ := Work.bind_ok.1 hrest
  obtain ⟨notes, rfl⟩ := (Work.quiet_compositional.log _).result hnote
  obtain ⟨rfl, rfl⟩ : s.outcome ending last = o ∧ _ = w' := by simpa using hend
  obtain ⟨hsaved, hcalls, hfound⟩ := repairLoop_onDisk hs hloop
  obtain ⟨hw₂, hsaved', -, hread⟩ := Work.persist_ok hpersist
  refine ⟨rfl, hread, hsaved.trans hsaved', ?_, hfound⟩
  show w₂.calls = _
  rw [hw₂]
  exact hcalls

theorem skip_onDisk {o : Outcome} (h : s.skip.runOn w = (.ok o, w')) :
    o.testPath = s.testPath ∧ w'.files.read s.testPath = .ok (Utf8.encode o.testSource) ∧
      Files.Saved s.testPath w.files w'.files ∧ w'.calls = w.calls := by
  unfold skip at h
  obtain ⟨_, w₁, hpersist, hend⟩ := Work.bind_ok.1 h
  obtain ⟨rfl, rfl⟩ : _ = o ∧ w₁ = w' := by simpa using hend
  obtain ⟨hw₁, hsaved, -, hread⟩ := Work.persist_ok hpersist
  exact ⟨rfl, hread, hsaved, by rw [hw₁]⟩

end LoopSetting

/-! ## Making a suite -/

/-- When a suite is made, its file holds what the outcome tells, nothing else changed but missing directories
above it, and each process found the suite of its round. -/
theorem generate_onDisk {limit : Int} {order : Order} {w w' : Workspace} {o : Outcome}
    (h : (generate limit order).runOn w = (.ok o, w')) :
    w'.files.read o.testPath = .ok (Utf8.encode o.testSource) ∧
      Files.Saved o.testPath w.files w'.files ∧
      ∃ s w₁, (prepare limit order none).runOn w = (.ok s, w₁) ∧ s.testPath = o.testPath ∧
        let rounds := if order.verify then
          s.carriedOut limit.toNat { source := s.component.suite } w₁ else []
        w'.calls = w.calls ++ rounds.flatMap CarriedOut.calls ∧ ∀ c ∈ rounds, c.Found o.testPath := by
  unfold generate at h
  obtain ⟨s, w₁, hprepare, hrun⟩ := Work.bind_ok.1 h
  obtain ⟨-, rfl, commands, hs⟩ := prepare_ok hprepare
  have hprepare' := hprepare
  obtain ⟨notes, rfl⟩ := (prepare_quiet _ order none).result hprepare
  cases hv : order.verify with
  | true =>
    rw [hv, if_pos rfl] at hrun
    obtain ⟨hpath, hread, hsaved, hcalls, hfound⟩ := LoopSetting.complete_onDisk hs hrun
    rw [hpath]
    exact ⟨hread, hsaved, s, _, hprepare', rfl, hcalls, hfound⟩
  | false =>
    rw [hv, if_neg Bool.false_ne_true] at hrun
    obtain ⟨hpath, hread, hsaved, hcalls⟩ := LoopSetting.skip_onDisk hrun
    rw [hpath]
    exact ⟨hread, hsaved, s, _, hprepare', rfl, by simp [hcalls], by simp⟩

theorem generate_onDisk_mute : ∃ o w', (generate 2 muteOrder).runOn mutePlace = (.ok o, w') ∧
    w'.files.read o.testPath = .ok (Utf8.encode o.testSource) ∧
    Files.Saved o.testPath mutePlace.files w'.files := by
  obtain ⟨notes, hprepare⟩ := prepare_muteOrder
  have hsave : (mutePlace.files.save muteSetting.testPath []).2 = none := rfl
  obtain ⟨runs, o, w', hrun, -, -⟩ := LoopSetting.complete_brought (w := { mutePlace with notes := notes })
    muteSetting_tells rfl mute_repair rfl hsave
  have h : (generate 2 muteOrder).runOn mutePlace = (.ok o, w') := by
    unfold generate
    exact (Work.runOn_bind_of_ok hprepare).trans hrun
  obtain ⟨hread, hsaved, -⟩ := generate_onDisk h
  exact ⟨o, w', h, hread, hsaved⟩

end Suitewright
