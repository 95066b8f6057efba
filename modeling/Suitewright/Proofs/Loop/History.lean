/-
  Histories that lead through suites.

  * `Change`: an entry that says how one suite becomes the next, when it is read back as a patch;
  * `roundDiff_change`: what a round writes of a repair is such an entry;
  * `Faithful`: histories of changes, which lead from the first suite to the last one;
  * `changesBefore_faithful`: the entries of a loop that was busy so far make such a history;
  * `history_faithful`: the history of every outcome is one.
-/
import Suitewright.Proofs.Diff.Faithful
import Suitewright.Proofs.Loop.Readable
import Suitewright.Proofs.Repair.DefaultImport
import Suitewright.Proofs.Repair.Ending

namespace Suitewright

open Text

/-! ## One entry -/

/-- What a written difference makes of a text. -/
def patched (text entry : String) : Option String := do
  let p ← Diff.Patch.read entry
  let lines ← p.apply (Diff.textLines text)
  return String.join lines

/-- An entry under the names of an iteration and the next one, whose hunks make one suite of another. -/
structure Change (number : Nat) (before after entry : String) : Prop where
  nonempty : entry ≠ ""
  leads : ∃ p, Diff.Patch.read entry = some p ∧ p.oldName = "iteration-" ++ toString number ∧
    p.newName = "iteration-" ++ toString (number + 1) ∧
    p.apply (Diff.textLines before) = some (Diff.textLines after)

theorem Change.patched {number : Nat} {before after entry : String} (h : Change number before after entry) :
    patched before entry = some after := by
  obtain ⟨p, hread, -, -, happly⟩ := h.leads
  rw [Suitewright.patched, hread, Option.bind_eq_bind, Option.bind_some, happly, Option.bind_eq_bind, Option.bind_some,
    Diff.join_textLines]
  rfl

theorem EndsWithNewline.endsWithBreak {source : String} (h : EndsWithNewline source) : EndsWithBreak source.toList := by
  rw [EndsWithBreak, show source.toList.getLast? = some '\n' from h]
  rfl

theorem roundDiff_change {number : Nat} {before after : String} (hbefore : EndsWithNewline before)
    (hafter : EndsWithNewline after) (hne : before ≠ after) :
    Change number before after (LoopSetting.roundDiff number before after) := by
  have hname : ∀ n : Nat, IsLine ("iteration-" ++ toString n).toList := fun n => by
    rw [String.toList_append]
    exact IsLine.append (by decide) (Diff.isLine_toString n)
  obtain ⟨hnonempty, hread⟩ := Diff.unified_faithful ⟨hname number, hname (number + 1)⟩ hbefore.endsWithBreak
    hafter.endsWithBreak hne
  exact ⟨hnonempty, hread⟩

/-! ## Histories -/

/-- Histories of the changes from each suite to the next, counted from the first one. Applied one after another they
lead from the first suite to the last one; each suite on the way ends with a line feed. -/
structure Faithful (suites : Nat → String) (history : List String) (last : String) : Prop where
  ends : ∀ k ≤ history.length, EndsWithNewline (suites k)
  entry : ∀ k (hk : k < history.length), Change (k + 1) (suites k) (suites (k + 1)) history[k]
  reaches : suites history.length = last
  whole : history.foldlM patched (suites 0) = some last

section
variable {suites : Nat → String} {history : List String} {verdicts : Nat → Verdict} {k : Nat}

theorem Faithful.nil (h : EndsWithNewline (suites 0)) : Faithful suites [] (suites 0) where
  ends := fun _ hk => Nat.le_zero.1 hk ▸ h
  entry := fun _ hk => absurd hk (Nat.not_lt_zero _)
  reaches := rfl
  whole := rfl

/-- One more change. -/
theorem Faithful.push {entry : String} (h : Faithful suites history (suites k)) (hk : history.length = k)
    (hends : EndsWithNewline (suites (k + 1))) (hentry : Change (k + 1) (suites k) (suites (k + 1)) entry) :
    Faithful suites (history ++ [entry]) (suites (k + 1)) := by
  subst hk
  have hlength : (history ++ [entry]).length = history.length + 1 := List.length_append
  refine ⟨fun j hj => ?_, fun j hj => ?_, congrArg suites hlength, ?_⟩
  · rcases Nat.le_succ_iff.1 (hlength ▸ hj) with hj | rfl
    · exact h.ends j hj
    · exact hends
  · rcases Nat.lt_succ_iff_lt_or_eq.1 (hlength ▸ hj) with hj | rfl
    · rw [List.getElem_append_left hj]
      exact h.entry j hj
    · rw [List.getElem_concat_length rfl]
      exact hentry
  · rw [List.foldlM_append, h.whole, Option.bind_eq_bind, Option.bind_some, List.foldlM_cons, hentry.patched]
    rfl

/-- The suites before a round, when no round before it ended the loop and its repairs made the suites. -/
theorem changesBefore_faithful {m : Component} {path : Option String} (hfirst : suites 0 = m.suite)
    (hbusy : Busy suites verdicts k)
    (hrepair : ∀ j < k, repair (suites j) (verdicts j).diagnostics m path = .ok (suites (j + 1))) :
    Faithful suites (changesBefore suites k) (suites k) := by
  induction k with
  | zero => exact .nil (hfirst ▸ suite_ends m)
  | succ k ih =>
    have hsofar := ih (fun j hj => hbusy j (Nat.lt_succ_of_lt hj)) fun j hj => hrepair j (Nat.lt_succ_of_lt hj)
    have hlength : (changesBefore suites k).length = k := by rw [changesBefore, List.length_map, List.length_range]
    have hbefore : EndsWithNewline (suites k) := hsofar.ends k (Nat.le_of_eq hlength.symm)
    have hafter : EndsWithNewline (suites (k + 1)) := repair_ends (hrepair k (Nat.lt_succ_self k)) hbefore
    have hne : suites k ≠ suites (k + 1) := (hbusy k (Nat.lt_succ_self k)).2.symm
    have hsucc : changesBefore suites (k + 1) =
        changesBefore suites k ++ [LoopSetting.roundDiff (k + 1) (suites k) (suites (k + 1))] := by
      simp [changesBefore, List.range_succ]
    rw [hsucc]
    exact hsofar.push hlength hafter (roundDiff_change hbefore hafter hne)

/-- The history of the outcome that verdicts bring a loop to. -/
theorem LoopSetting.Brought.faithful {s : LoopSetting} {runs : Nat} {o : Outcome} {path : Option String}
    (h : s.Brought suites verdicts runs o) (hfirst : suites 0 = s.component.suite)
    (hrepair : ∀ k : Nat, (k : Int) < s.limit → Busy suites verdicts k → (verdicts k).success = false →
      Suitewright.repair (suites k) (verdicts k).diagnostics s.component path = .ok (suites (k + 1))) :
    Faithful suites o.history o.testSource := by
  have hbefore : ∀ {k : Nat}, k ≤ s.limit.toNat → Busy suites verdicts k →
      Faithful suites (changesBefore suites k) (suites k) := by
    intro k hk hbusy
    exact changesBefore_faithful hfirst hbusy fun j hj =>
      hrepair j (by omega) (fun i hi => hbusy i (hi.trans hj)) (hbusy j hj).1
  cases h with
  | passed hk hbusy => exact hbefore (by omega) hbusy
  | stalled hk hbusy => exact hbefore (by omega) hbusy
  | exhausted hbusy => exact hbefore (Nat.le_refl _) hbusy

end

/-- The history of an outcome leads through the suites of the loop, for every component and all outputs by which repairs
succeed; so it does when the component comes from an analysis. -/
theorem history_faithful {s : LoopSetting} {w : Workspace} {told : Nat → List UInt8 → Verdict}
    {turn : Nat → Workspace → Prop} {suites : Nat → String} (htells : s.verifier.Tells s.testPath s.root told turn)
    (hturn : turn 0 w) (hfirst : suites 0 = s.component.suite)
    (hrepair : ∀ k : Nat, (k : Int) < s.limit → Busy suites (verdictsOn told suites) k →
      (verdictsOn told suites k).success = false →
      repair (suites k) (verdictsOn told suites k).diagnostics s.component (some s.file) = .ok (suites (k + 1)))
    (hsave : (w.files.save s.testPath (Utf8.encode s.component.suite)).2 = none) :
    (∃ runs o w', s.complete.runOn w = (.ok o, w') ∧ s.Brought suites (verdictsOn told suites) runs o ∧
      Faithful suites o.history o.testSource) ∧
    ∀ {limit : Int} {order : Order} {verifier : Option Verifier} {w₁ : Workspace}, order.verify = true →
      (prepare limit order verifier).runOn w = (.ok s, w₁) →
      ∃ runs o w', (generate limit order verifier).runOn w = (.ok o, w') ∧
        s.Brought suites (verdictsOn told suites) runs o ∧ Faithful suites o.history o.testSource := by
  constructor
  · obtain ⟨runs, o, w', hrun, -, hb⟩ := LoopSetting.complete_brought htells hfirst hrepair hturn hsave
    exact ⟨runs, o, w', hrun, hb, hb.faithful hfirst hrepair⟩
  · intro limit order verifier w₁ hverify hprepare
    obtain ⟨-, -, notes, hstart⟩ := generate_complete hverify hprepare
    obtain ⟨runs, o, w', hrun, -, hb⟩ := LoopSetting.complete_brought htells hfirst hrepair
      (htells.frame w.files notes hturn) hsave
    exact ⟨runs, o, w', hstart.trans hrun, hb, hb.faithful hfirst hrepair⟩

/-! ## A loop with a change -/

/-- A message about a name that every suite imports. -/
def renderMissing : String := "Module '@testing-library/react' has no exported member 'render'."

/-- A failure with this message. -/
def renderVerdict : Verdict := { success := false, diagnostics := renderMissing, command := none }

/-- A verifier that gives this verdict every time. -/
def renderVerifier : Verifier := fun _ _ => pure renderVerdict

theorem renderVerifier_tells (testPath root : Path) :
    renderVerifier.Tells testPath root (fun _ _ => renderVerdict) (fun _ _ => True) where
  run := fun {_ w _} _ _ => ⟨w, rfl, trivial, rfl⟩
  frame := fun _ _ _ => trivial

theorem suite_start (m : Component) : ∃ rest, m.suite.toList = "import React from \"react\";".toList ++ '\n' ::
    ("import \x7b render, screen, fireEvent \x7d from \"@testing-library/react\";".toList ++ '\n' :: rest) := by
  have hbreak : "\n".toList = ['\n'] := by decide
  refine ⟨?_, ?_⟩
  rotate_left
  · rw [Component.suite, Component.renderSuite, String.toList_append, String.toList_intercalate, List.map_cons,
      List.map_cons, List.intercalate_cons_cons, hbreak, importHeader_lines, joinLines_cons, joinLines_cons]
    simp only [List.append_assoc, List.cons_append]
    rfl

theorem defaultImport_suite (m : Component) :
    ∃ revised, defaultImport "render" m.suite.toList = .ok revised ∧ revised ≠ m.suite.toList := by
  obtain ⟨rest, hstart⟩ := suite_start m
  have hline : "import \x7b render, screen, fireEvent \x7d from \"@testing-library/react\";".toList =
      ("import".toList ++ ([' '] ++ '\x7b' :: " render, screen, fireEvent \x7d from".toList)) ++
        " \"@testing-library/react\";".toList := by decide
  have hfirst : NoImport "render".toList "import React from \"react\";".toList := .of_absent (by decide)
  have hlast : NoImport "render".toList " \"@testing-library/react\";".toList := .of_absent (by decide)
  rw [defaultImport_eq (by decide), hstart, hline, List.append_assoc ("import".toList ++ _), replaceAll_noImport hfirst]
  refine ⟨_, rfl, fun h => ?_⟩
  have htext := List.append_cancel_left h
  rw [← List.nil_append ("import".toList ++ _ ++ _), replaceAll_brace List.not_mem_nil (by decide) hlast rfl] at htext
  have hchar : some 'r' = some '\x7b' := congrArg (·[8]?) htext
  exact absurd (Option.some.inj hchar) (by decide)

theorem classify_renderMissing : classify renderMissing = .ok [.namedImportMissing "render"] :=
  eq_ok_of_toOption (by decide)

/-- A repair by the message changes the suite of every component. -/
theorem repair_renderMissing (m : Component) (path : Option String) :
    ∃ revised, repair m.suite renderMissing m path = .ok revised ∧ revised ≠ m.suite := by
  obtain ⟨revised, hrevised, hne⟩ := defaultImport_suite m
  refine ⟨.ofList revised, ?_, fun h => hne (by rw [← h, String.toList_ofList])⟩
  refine bind_eq_ok.2 ⟨_, mapError_eq_ok.2 classify_renderMissing, mapError_eq_ok.2 ?_⟩
  exact bind_eq_ok.2 ⟨_, bind_eq_ok.2 ⟨revised, hrevised, rfl⟩, rfl⟩

theorem changesBefore_ne_nil {suites : Nat → String} {k : Nat} (hk : 0 < k) : changesBefore suites k ≠ [] := by
  rw [← List.length_pos_iff, changesBefore, List.length_map, List.length_range]
  exact hk

/-- The suites of the loop on a project without a word, when its verifier complains about this name. -/
def renderSuites : Nat → String := suitesBy muteSetting.component muteSetting.file fun _ _ => renderVerdict

theorem renderSuites_repair (k : Nat) : repair (renderSuites k) (verdictsOn (fun _ _ => renderVerdict) renderSuites k).diagnostics
    muteSetting.component (some muteSetting.file) = .ok (renderSuites (k + 1)) := by
  obtain ⟨revised, hrevised, -⟩ := repair_renderMissing muteSetting.component (some muteSetting.file)
  exact repair_suitesBy ((repair_ok_iff _ _ _ _).1 ⟨revised, hrevised⟩)

theorem renderSuites_change : renderSuites 1 ≠ renderSuites 0 := by
  obtain ⟨revised, hrevised, hne⟩ := repair_renderMissing muteSetting.component (some muteSetting.file)
  have hnext : revised = renderSuites 1 := Except.ok.inj (hrevised.symm.trans (renderSuites_repair 0))
  rw [← hnext]
  exact hne

/-- The history of this loop has an entry. -/
theorem history_faithful_mute : ∃ o w', (generate 2 muteOrder (some renderVerifier)).runOn mutePlace = (.ok o, w') ∧
    o.history ≠ [] ∧ Faithful renderSuites o.history o.testSource := by
  let s : LoopSetting := { muteSetting with verifier := renderVerifier }
  have htells : s.verifier.Tells s.testPath s.root (fun _ _ => renderVerdict) fun _ _ => True := renderVerifier_tells _ _
  obtain ⟨notes, hprepare⟩ := prepare_mute (some renderVerifier)
  obtain ⟨-, hgenerate⟩ := history_faithful (w := mutePlace) htells trivial (rfl : renderSuites 0 = s.component.suite)
    (fun k _ _ _ => renderSuites_repair k) rfl
  obtain ⟨runs, o, w', hrun, hb, hfaithful⟩ := hgenerate rfl hprepare
  refine ⟨o, w', hrun, ?_, hfaithful⟩
  cases hb with
  | passed _ _ hs => cases hs
  | @stalled k _ _ _ he =>
    cases k with
    | zero => exact absurd he renderSuites_change
    | succ k => exact changesBefore_ne_nil (Nat.succ_pos k)
  | exhausted => exact changesBefore_ne_nil (by decide)

end Suitewright
