/-
  Loops in which a verifier says the same again and again.

  * `Repaired`: the suites that repairs make of the suite of a component;
  * `repair_repair`: a second repair by the same output changes nothing;
  * `repeated_output_stalls`: so a loop whose verifier fails with the same output every time stalls after at most two
    runs.
-/
import Suitewright.Proofs.Loop.Rounds
import Suitewright.Proofs.Repair.Openings
import Suitewright.Proofs.Repair.Settled
import Suitewright.Proofs.Tree.Wordless

namespace Suitewright

open Text

/-- Suites that repairs make of the suite of a component, by outputs that name words alone. -/
inductive Repaired (m : Component) (path : Option String) : String → Prop
  /-- The suite itself. -/
  | suite : Repaired m path m.suite
  /-- One more repair. -/
  | repair {source output revised : String} {signals : List Signal} : Repaired m path source →
      classify output = .ok signals → (∀ s ∈ signals, s.NamesWord) →
      Suitewright.repair source output m path = .ok revised → Repaired m path revised

section
variable {m : Component} {path : Option String} {source output : String} {signals : List Signal}

/-- What a repair makes of the lines of a suite. -/
theorem repair_textOf (hm : m.IsPlain) (hpath : IsPlainPath (repairPath m path)) (hclassify : classify output = .ok signals)
    (hs : ∀ s ∈ signals, s.NamesWord) {d : List Line} (hd : ∀ l ∈ d, l.Formed m.displayName.toList)
    (hsource : source.toList = Line.textOf m.displayName.toList d) :
    let next := signals.foldl (mendLines m (repairPath m path)) d
    repair source output m path = .ok (.ofList (Line.textOf m.displayName.toList next)) ∧
      ∀ l ∈ next, l.Formed m.displayName.toList := by
  obtain ⟨hmend, hformed⟩ := mendAll_textOf hm hpath (classify_plain hclassify hs) hd hsource
  refine ⟨?_, hformed⟩
  rw [repair, hclassify]
  exact congrArg (Except.mapError RepairError.template) hmend

/-- Suites that repairs make consist of lines of a suite. -/
theorem Repaired.drawn (hm : m.IsPlain) (hpath : IsPlainPath (repairPath m path)) (h : Repaired m path source) :
    ∃ d : List Line, (∀ l ∈ d, l.Formed m.displayName.toList) ∧ source.toList = Line.textOf m.displayName.toList d := by
  induction h with
  | suite =>
    obtain ⟨d, hd, hsuite, -⟩ := suite_drawn hm
    exact ⟨d, hd, hsuite⟩
  | repair _ hclassify hs hrepair ih =>
    obtain ⟨d, hd, hsource⟩ := ih
    obtain ⟨htext, hformed⟩ := repair_textOf hm hpath hclassify hs hd hsource
    obtain rfl := Except.ok.inj (hrepair.symm.trans htext)
    exact ⟨_, hformed, String.toList_ofList⟩

/-- A second repair by the same output changes nothing. -/
theorem repair_repair (hm : m.IsPlain) (hpath : IsPlainPath (repairPath m path)) (hclassify : classify output = .ok signals)
    (hs : ∀ s ∈ signals, s.NamesWord) (hspread : ∀ s ∈ signals, ∀ t ∈ signals, ¬ TakesSpread m s t)
    (hsource : Repaired m path source) :
    ∃ revised, repair source output m path = .ok revised ∧ repair revised output m path = .ok revised := by
  obtain ⟨d, hd, hsource⟩ := hsource.drawn hm hpath
  obtain ⟨hfirst, hformed⟩ := repair_textOf hm hpath hclassify hs hd hsource
  obtain ⟨hsecond, -⟩ := repair_textOf hm hpath hclassify hs hformed String.toList_ofList
  rw [foldl_foldl (classify_plain hclassify hs) (classify_sorted hclassify) hspread] at hsecond
  exact ⟨_, hfirst, hsecond⟩

end

/-- A suite, and another one from the second round on. -/
def suitesOf (first rest : String) : Nat → String
  | 0 => first
  | _ + 1 => rest

/-- Making a suite with a verifier that fails with one output every time, when the output asks for one repair at most:
the loop stalls after at most two runs. -/
theorem generate_stalls {limit : Int} {order : Order} {verifier : Option Verifier} {w w₁ : Workspace} {s : LoopSetting}
    {told : Nat → List UInt8 → Verdict} {turn : Nat → Workspace → Prop} {output revised : String} (hlimit : 2 ≤ limit)
    (hverify : order.verify = true) (hprepare : (prepare limit order verifier).runOn w = (.ok s, w₁))
    (htells : s.verifier.Tells s.testPath s.root told turn) (hturn : turn 0 w)
    (htold : ∀ k bytes, (told k bytes).success = false ∧ (told k bytes).diagnostics = output)
    (hsave : (w.files.save s.testPath (Utf8.encode s.component.suite)).2 = none)
    (hfirst : repair s.component.suite output s.component (some order.file) = .ok revised)
    (hsecond : repair revised output s.component (some order.file) = .ok revised) :
    ∃ runs o w', (generate limit order verifier).runOn w = (.ok o, w') ∧ turn runs w' ∧ runs ≤ 2 ∧
      o.ending = some .stalled := by
  let suites := suitesOf s.component.suite revised
  have hrepair : ∀ k : Nat, (k : Int) < limit → Busy suites (verdictsOn told suites) k →
      (verdictsOn told suites k).success = false →
      repair (suites k) (verdictsOn told suites k).diagnostics s.component (some order.file) = .ok (suites (k + 1)) := by
    intro k _ _ _
    have houtput : (verdictsOn told suites k).diagnostics = output := (htold k _).2
    rw [houtput]
    cases k with
    | zero => exact hfirst
    | succ k => exact hsecond
  -- the second repair changes nothing, so that no third round begins
  have hbusy : ∀ {k}, 2 ≤ k → ¬ Busy suites (verdictsOn told suites) k := fun hk h => (h 1 hk).2 rfl
  obtain ⟨runs, o, w', hrun, hturn', -, hs, hb⟩ :=
    generate_told hverify hprepare htells hturn (rfl : suites 0 = _) hrepair hsave
  refine ⟨runs, o, w', hrun, hturn', ?_⟩
  cases hb with
  | passed _ _ hsuccess => exact absurd ((htold _ _).1.symm.trans hsuccess) Bool.false_ne_true
  | @stalled k _ h =>
    refine ⟨?_, rfl⟩
    rcases Nat.lt_or_ge k 2 with hk | hk
    · exact hk
    · exact absurd h (hbusy hk)
  | exhausted h => exact absurd h (hbusy (by omega))

/-- A failure that is told again is recognised: a second repair of a suite by the same output changes nothing, and a
loop whose verifier tells this output every time stalls after at most two runs. -/
theorem repeated_output_stalls {m : Component} {path : String} {output : String} {signals : List Signal} (hm : m.IsPlain)
    (hpath : IsPlainPath (repairPath m (some path))) (hclassify : classify output = .ok signals)
    (hs : ∀ s ∈ signals, s.NamesWord) (hspread : ∀ s ∈ signals, ∀ t ∈ signals, ¬ TakesSpread m s t) :
    (∀ source, Repaired m (some path) source → ∃ revised, repair source output m (some path) = .ok revised ∧
        repair revised output m (some path) = .ok revised) ∧
      ∀ {limit : Int} {order : Order} {verifier : Option Verifier} {w w₁ : Workspace} {s : LoopSetting}
        {told : Nat → List UInt8 → Verdict} {turn : Nat → Workspace → Prop}, 2 ≤ limit → order.verify = true →
        (prepare limit order verifier).runOn w = (.ok s, w₁) → s.component = m → order.file = path →
        s.verifier.Tells s.testPath s.root told turn → turn 0 w →
        (∀ k bytes, (told k bytes).success = false ∧ (told k bytes).diagnostics = output) →
        (w.files.save s.testPath (Utf8.encode m.suite)).2 = none →
        ∃ runs o w', (generate limit order verifier).runOn w = (.ok o, w') ∧ turn runs w' ∧ runs ≤ 2 ∧
          o.ending = some .stalled := by
  refine ⟨fun source hsource => repair_repair hm hpath hclassify hs hspread hsource, ?_⟩
  rintro limit order verifier w w₁ s told turn hlimit hverify hprepare rfl rfl htells hturn htold hsave
  obtain ⟨revised, hfirst, hsecond⟩ := repair_repair hm hpath hclassify hs hspread .suite
  exact generate_stalls hlimit hverify hprepare htells hturn htold hsave hfirst hsecond

/-- A message that asks for one property. -/
def titleMissing : String := "Property 'title' is missing in type 'Props'."

/-- A verifier that fails with this message every time. -/
def titleVerifier : Verifier := fun _ _ =>
  pure { success := false, diagnostics := titleMissing, command := none }

theorem titleVerifier_tells (testPath root : Path) : titleVerifier.Tells testPath root
    (fun _ _ => { success := false, diagnostics := titleMissing, command := none }) (fun _ _ => True) where
  run := fun {_ w _} _ _ => ⟨w, rfl, trivial, rfl⟩
  frame := fun _ _ _ => trivial

theorem mute_undeclared : Undeclared "A.ts" muteSetting.component := analyze_empty _ _

theorem mute_plain : muteSetting.component.IsPlain where
  name := by
    rw [Component.displayName, mute_undeclared.name, mute_undeclared.sourcePath]
    unfold IsWord
    decide
  propName := by
    rw [mute_undeclared.props]
    exact fun _ h => nomatch h
  alternatives := by
    rw [mute_undeclared.props]
    exact fun _ h => nomatch h
  path := by
    rw [mute_undeclared.sourcePath]
    unfold IsPlainPath
    decide

theorem classify_titleMissing : classify titleMissing = .ok [.missingProp "title" none] :=
  eq_ok_of_toOption (by decide)

/-- The loop on a project without a word stalls after at most two runs, when its verifier asks for one property every
time. -/
theorem repeated_output_stalls_mute :
    (∃ revised, repair muteSetting.component.suite titleMissing muteSetting.component (some "A.ts") = .ok revised ∧
      repair revised titleMissing muteSetting.component (some "A.ts") = .ok revised) ∧
    ∃ runs o w', (generate 2 muteOrder (some titleVerifier)).runOn mutePlace = (.ok o, w') ∧ runs ≤ 2 ∧
      o.ending = some .stalled := by
  have hpath : IsPlainPath (repairPath muteSetting.component (some "A.ts")) := by
    unfold IsPlainPath
    decide
  have hword : ∀ s ∈ [Signal.missingProp "title" none], s.NamesWord := by
    simp only [List.forall_mem_singleton]
    exact ⟨by decide, by decide⟩
  have hspread : ∀ s ∈ [Signal.missingProp "title" none], ∀ t ∈ [Signal.missingProp "title" none],
      ¬ TakesSpread muteSetting.component s t := by
    simp only [List.forall_mem_singleton]
    rintro ⟨-, h, -⟩
    cases h
  obtain ⟨hrepair, hstalls⟩ := repeated_output_stalls mute_plain hpath classify_titleMissing hword hspread
  obtain ⟨notes, hprepare⟩ := prepare_mute (some titleVerifier)
  obtain ⟨runs, o, w', hrun, -, hruns, hending⟩ := hstalls (by decide) rfl hprepare rfl rfl (titleVerifier_tells _ _)
    trivial (fun _ _ => ⟨rfl, rfl⟩) rfl
  exact ⟨hrepair _ .suite, runs, o, w', hrun, hruns, hending⟩

end Suitewright
