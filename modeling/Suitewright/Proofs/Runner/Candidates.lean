/-
  The first test runner that can be used.

  * `Completed.Usable`: processes that tell something about the suite;
  * `Started.Ends`: starts that end a verification, and how; `judge_inl_iff`, `judge_inr_iff`;
  * `verify_now`, `verify_later`: one step of a verification;
  * `verify_ends`, `verify_passes`: a whole one, which some start ends or none;
  * `verify_first_usable`: the templates are tried in order, each at most once, up to the first that can be used.
-/
import Mathlib.Tactic.Push
import Suitewright.Proofs.Loop.Working
import Suitewright.Proofs.Text.Replacing

namespace Suitewright

open Text

/-! ## One start -/

/-- What both outputs of a process say, one after the other. -/
def Completed.output (c : Completed) : String := c.stdout ++ c.stderr

/-- The texts by which a shell says that a command does not exist. -/
def missingCommandTexts : List String := ["command not found", "is not recognized"]

/-- Processes that tell something about the suite: they ended with status zero, or without saying that the command does
not exist. -/
def Completed.Usable (c : Completed) : Prop :=
  c.status = 0 ∨ ∀ text ∈ missingCommandTexts, ¬ text.toList <:+: c.output.toList

/-- Starts that end a verification, and how: a process that can be used gives the verdict, and a crash is passed on. -/
inductive Started.Ends (args : List String) : Started → Except Crash Verdict → Prop
  | usable {c : Completed} : c.Usable →
      Ends args c.started (.ok { success := c.status = 0, diagnostics := c.output, command := some args })
  | crashed {crash : Crash} : Ends args (.crashed crash) (.error crash)

/-- Starts that end a verification. -/
def Started.Stops (start : Started) : Prop := ∃ args r, start.Ends args r

section
variable {args : List String} {start : Started} {r : Except Crash Verdict}

theorem reportsUnavailable_iff {output : String} :
    reportsUnavailable output = true ↔ ∃ text ∈ missingCommandTexts, text.toList <:+: output.toList := by
  simp only [reportsUnavailable, missingCommandTexts, Bool.or_eq_true, occursIn_iff, List.mem_cons, List.not_mem_nil,
    or_false, exists_eq_or_imp, exists_eq_left]

theorem Completed.usable_iff {c : Completed} :
    c.Usable ↔ ¬ (c.status != 0 && reportsUnavailable (c.stdout ++ c.stderr)) = true := by
  have houtput : c.output = c.stdout ++ c.stderr := rfl
  rw [Usable, houtput, Bool.and_eq_true, bne_iff_ne, reportsUnavailable_iff]
  push Not
  rw [or_iff_not_imp_left]

theorem judge_completed (c : Completed) : judge args c.started =
    if c.status != 0 && reportsUnavailable (c.stdout ++ c.stderr) then
      .inr ("Runner " ++ args.headD "" ++ " is not available in this shell")
    else .inl (.ok { success := c.status = 0, diagnostics := c.output, command := some args }) := rfl

/-- What ends a verification. -/
theorem judge_inl_iff : judge args start = .inl r ↔ start.Ends args r := by
  constructor
  · intro h
    cases start with
    | finished status output =>
      have hstarted : Started.finished status output = (⟨status, output, ""⟩ : Completed).started := by
        rw [Completed.started, String.append_empty]
      rw [hstarted] at h ⊢
      rw [judge_completed] at h
      split at h
      · cases h
      · next hpass =>
        cases h
        exact .usable (Completed.usable_iff.2 hpass)
    | unavailable message => cases h
    | crashed crash =>
      cases h
      exact .crashed
  · rintro (⟨husable⟩ | ⟨⟩)
    · rw [judge_completed, if_neg (Completed.usable_iff.1 husable)]
    · rfl

/-- Which starts end a verification does not depend on the command. -/
theorem stops_iff (args : List String) : start.Stops ↔ ∃ r, start.Ends args r := by
  constructor
  · rintro ⟨args', r, ⟨husable⟩ | ⟨⟩⟩
    · exact ⟨_, .usable husable⟩
    · exact ⟨_, .crashed⟩
  · rintro ⟨r, h⟩
    exact ⟨args, r, h⟩

/-- All other starts are passed over. -/
theorem judge_inr_iff (args : List String) : (∃ reason, judge args start = .inr reason) ↔ ¬ start.Stops := by
  rw [stops_iff args]
  cases hjudge : judge args start with
  | inl r =>
    have hends : ∃ r, start.Ends args r := ⟨r, judge_inl_iff.1 hjudge⟩
    simp [hends]
  | inr reason =>
    have hgoes : ¬ ∃ r, start.Ends args r := by
      rintro ⟨r, hr⟩
      rw [judge_inl_iff.2 hr] at hjudge
      cases hjudge
    simp [hgoes]

/-- A process that ended stops a verification just when it can be used. -/
theorem started_stops_iff {c : Completed} : c.started.Stops ↔ c.Usable := by
  rw [← not_iff_not, ← judge_inr_iff [], judge_completed, Completed.usable_iff, not_not]
  split
  · next hpass => exact ⟨fun _ => hpass, fun _ => ⟨_, rfl⟩⟩
  · next hpass => exact ⟨fun ⟨_, h⟩ => (nomatch h), fun h => absurd h hpass⟩

end

/-! ## A whole verification -/

/-- What becomes of the process with an index. After the end of the script none can be started. -/
def Script.outcome (script : Script) (i : Nat) : Started := script[i]?.getD (.unavailable "")

section
variable {templates : List (List String)} {template : List String} {testFile : String} {script : Script} {k : Nat}
  {r : Except Crash Verdict}

theorem outcome_tail (script : Script) (i : Nat) : Script.outcome script.tail i = script.outcome (i + 1) := by
  rw [Script.outcome, Script.outcome, List.getElem?_tail]

/-- What the next process does to a verification is told by the first entry of the script. -/
theorem nextStart_ends (args : List String) (script : Script) :
    (nextStart args script).1.Ends args r ↔ (script.outcome 0).Ends args r := by
  cases script with
  | nil => exact ⟨fun h => (nomatch h), fun h => (nomatch h)⟩
  | cons start rest => exact Iff.rfl

theorem nextStart_rest (args : List String) (script : Script) : (nextStart args script).2 = script.tail := by
  cases script <;> rfl

theorem verify_cons_eq (template : List String) (templates : List (List String)) (testFile : String) (script : Script) :
    verify (template :: templates) testFile script =
      match judge (expand template testFile) (nextStart (expand template testFile) script).1 with
      | .inl result =>
        { result, calls := [expand template testFile], rest := script.tail
          notes := [⟨.info, "verifier", "Running: " ++ " ".intercalate (expand template testFile)⟩] }
      | .inr reason =>
        { verify templates testFile script.tail with
          calls := expand template testFile :: (verify templates testFile script.tail).calls
          notes := ⟨.info, "verifier", "Running: " ++ " ".intercalate (expand template testFile)⟩ ::
            ⟨.debug, "verifier", reason⟩ :: (verify templates testFile script.tail).notes } := by
  rw [← nextStart_rest (expand template testFile) script]
  rfl

/-- A start that ends a verification leaves the other templates alone. -/
theorem verify_now (h : (script.outcome 0).Ends (expand template testFile) r) :
    (verify (template :: templates) testFile script).result = r ∧
      (verify (template :: templates) testFile script).calls = [expand template testFile] ∧
      (verify (template :: templates) testFile script).rest = script.tail := by
  rw [verify_cons_eq, judge_inl_iff.2 ((nextStart_ends _ script).2 h)]
  exact ⟨rfl, rfl, rfl⟩

/-- After a start that is passed over a verification goes on with the other templates. -/
theorem verify_later (template : List String) (templates : List (List String)) (testFile : String)
    (h : ¬ (script.outcome 0).Stops) :
    (verify (template :: templates) testFile script).result = (verify templates testFile script.tail).result ∧
      (verify (template :: templates) testFile script).calls =
        expand template testFile :: (verify templates testFile script.tail).calls ∧
      (verify (template :: templates) testFile script).rest = (verify templates testFile script.tail).rest := by
  have hpass : ¬ (nextStart (expand template testFile) script).1.Stops := by
    rw [stops_iff (expand template testFile)]
    rintro ⟨r, hr⟩
    exact h ⟨_, r, (nextStart_ends _ script).1 hr⟩
  obtain ⟨reason, hreason⟩ := (judge_inr_iff _).2 hpass
  rw [verify_cons_eq, hreason]
  exact ⟨rfl, rfl, rfl⟩

/-- The first start that ends a verification gives its result, and no template after it is tried. -/
theorem verify_ends (hk : templates[k]? = some template) (h : (script.outcome k).Ends (expand template testFile) r)
    (hpast : ∀ i < k, ¬ (script.outcome i).Stops) :
    (verify templates testFile script).result = r ∧
      (verify templates testFile script).calls = (templates.take (k + 1)).map (expand · testFile) ∧
      (verify templates testFile script).rest = script.drop (k + 1) := by
  induction k generalizing templates script with
  | zero =>
    obtain ⟨templates, rfl⟩ : ∃ rest, templates = template :: rest := by
      cases templates with
      | nil => cases hk
      | cons t rest => exact ⟨rest, by rw [List.getElem?_cons_zero, Option.some.injEq] at hk; rw [hk]⟩
    rw [List.drop_one]
    exact verify_now h
  | succ k ih =>
    cases templates with
    | nil => cases hk
    | cons first templates =>
      -- the first template is passed over, and with it the first entry of the script
      rw [List.getElem?_cons_succ] at hk
      rw [← outcome_tail] at h
      have hpast' : ∀ i < k, ¬ (Script.outcome script.tail i).Stops := fun i hi => by
        rw [outcome_tail]
        exact hpast (i + 1) (Nat.succ_lt_succ hi)
      obtain ⟨hresult, hcalls, hrest⟩ := ih hk h hpast'
      obtain ⟨hresult', hcalls', hrest'⟩ := verify_later first templates testFile (hpast 0 k.succ_pos)
      rw [hresult', hcalls', hrest', hresult, hcalls, hrest, List.drop_tail]
      exact ⟨rfl, rfl, rfl⟩

/-- When no start ends a verification, all templates are tried and the verdict is that there is no runner. -/
theorem verify_passes (hpast : ∀ i < templates.length, ¬ (script.outcome i).Stops) :
    (verify templates testFile script).result =
        .ok { success := false, diagnostics := noRunnerMessage, command := none } ∧
      (verify templates testFile script).calls = templates.map (expand · testFile) ∧
      (verify templates testFile script).rest = script.drop templates.length := by
  induction templates generalizing script with
  | nil => exact ⟨rfl, rfl, rfl⟩
  | cons template templates ih =>
    have hpast' : ∀ i < templates.length, ¬ (Script.outcome script.tail i).Stops := fun i hi => by
      rw [outcome_tail]
      exact hpast (i + 1) (Nat.succ_lt_succ hi)
    obtain ⟨hresult, hcalls, hrest⟩ := ih hpast'
    obtain ⟨hresult', hcalls', hrest'⟩ := verify_later template templates testFile (hpast 0 (Nat.succ_pos _))
    rw [hresult', hcalls', hrest', hresult, hcalls, hrest, List.drop_tail]
    exact ⟨rfl, rfl, rfl⟩

/-- The file of the suite stands for each placeholder, or at the end. -/
theorem expand_eq (template : List String) (testFile : String) : expand template testFile =
    (template.map fun a => if a = placeholder then testFile else a) ++
      if placeholder ∈ template then [] else [testFile] := by
  rw [expand]
  by_cases h : placeholder ∈ template
  · simp [h]
  · have hsame : ∀ a ∈ template, (if a = placeholder then testFile else a) = a := fun a ha =>
      if_neg fun he : a = placeholder => h (he ▸ ha)
    simp [h, List.map_congr_left hsame]

end

/-- The templates are tried in order, each at most once and with the file of the suite for its placeholders or at its end.
The first start that ends the verification gives the result, and no template after it is tried; when no start does, all
have been tried and there is no runner. In a project all processes start in its root, and a crash fails the request. -/
theorem verify_first_usable (templates : List (List String)) (testFile : String) (script : Script) :
    (∀ template, expand template testFile =
      (template.map fun a => if a = placeholder then testFile else a) ++
        if placeholder ∈ template then [] else [testFile]) ∧
    (∀ k template r, templates[k]? = some template → (script.outcome k).Ends (expand template testFile) r →
      (∀ i < k, ¬ (script.outcome i).Stops) →
        (verify templates testFile script).result = r ∧
        (verify templates testFile script).calls = (templates.take (k + 1)).map (expand · testFile) ∧
        (verify templates testFile script).rest = script.drop (k + 1)) ∧
    ((∀ i < templates.length, ¬ (script.outcome i).Stops) →
      (verify templates testFile script).result =
          .ok { success := false, diagnostics := noRunnerMessage, command := none } ∧
        (verify templates testFile script).calls = templates.map (expand · testFile) ∧
        (verify templates testFile script).rest = script.drop templates.length) ∧
    ∀ (testPath root : Path) (w : Workspace), ∃ v w', v = verify templates testPath.toText w.script ∧
      (Verifier.ofCommands templates testPath root).runOn w = (v.result.mapError .crash, w') ∧
      w'.calls = w.calls ++ v.calls.map (fun args => { args, directory := root, files := w.files }) ∧
      w'.script = v.rest ∧ w'.files = w.files :=
  ⟨fun template => expand_eq template testFile, fun _ _ _ hk h hpast => verify_ends hk h hpast, verify_passes,
    fun testPath root w => ⟨_, _, rfl, Work.runOn_ofCommands templates testPath root w, rfl, rfl, rfl⟩⟩

/-- A session in which the first command cannot be started, the second one is not known to the shell, and the third one
tells of a failure. -/
def fallingSession : Script :=
  [.unavailable "npx", (⟨127, "", "sh: npm: command not found"⟩ : Completed).started,
    (⟨1, "FAIL\n", "Expected 1 call"⟩ : Completed).started, (⟨0, "ok", ""⟩ : Completed).started]

theorem verify_first_usable_failure : let templates := [["npx", "jest", placeholder], ["npm", "test"], ["yarn", placeholder, "-v", placeholder], ["ls"]]
    let testFile := "a.test.tsx"
    (verify templates testFile fallingSession).result = .ok ⟨false, "FAIL\nExpected 1 call",
        some ["yarn", "a.test.tsx", "-v", "a.test.tsx"]⟩ ∧
    (verify templates testFile fallingSession).calls =
      [["npx", "jest", "a.test.tsx"], ["npm", "test", "a.test.tsx"], ["yarn", "a.test.tsx", "-v", "a.test.tsx"]] := by
  intro templates testFile
  obtain ⟨-, hends, -, -⟩ := verify_first_usable templates testFile fallingSession
  have husable : (⟨1, "FAIL\n", "Expected 1 call"⟩ : Completed).Usable := by
    rw [Completed.usable_iff]
    decide
  have hmissing : ¬ (⟨127, "", "sh: npm: command not found"⟩ : Completed).started.Stops := by
    rw [started_stops_iff, Completed.usable_iff]
    decide
  have hpast : ∀ i < 2, ¬ (fallingSession.outcome i).Stops := by
    intro i hi
    match i, hi with
    | 0, _ => exact fun ⟨_, _, h⟩ => nomatch h
    | 1, _ => exact hmissing
  obtain ⟨hresult, hcalls, -⟩ := hends 2 _ _ rfl (.usable husable) hpast
  refine ⟨hresult, hcalls.trans ?_⟩
  decide

end Suitewright
