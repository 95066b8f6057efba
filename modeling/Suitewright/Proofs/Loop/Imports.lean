/-
  What the suites that are made import.

  * `suite_importLine`: a suite begins with the imports that all suites have and that of its component;
  * `generate_writes`: the file of a suite is the one that was settled before the suite was written;
  * `given_suite_imports`: with a given path the suite imports its component exactly if the directory of the suite lies
    directly below that of the component;
  * `not_given_suite_imports`: the path can be given otherwise.
-/
import Suitewright.Proofs.Loop.Spared
import Suitewright.Proofs.Project.Importing
import Suitewright.Proofs.Tree.Degraded

namespace Suitewright

/-- Behind the imports that all suites have, a suite imports its component. -/
theorem suite_importLine (m : Component) : ∃ rest, m.suite = importHeader ++ "\n" ++ m.importLine ++ "\n" ++ rest := by
  rw [Component.suite, Component.renderSuite, String.intercalate_cons_cons, String.intercalate_cons_cons]
  simp only [String.append_assoc]
  exact ⟨_, rfl⟩

/-! ## What is written -/

namespace LoopSetting

variable {s : LoopSetting} {w w' : Workspace} {o : Outcome}

theorem complete_writes (h : s.complete.runOn w = (.ok o, w')) :
    o.testPath = s.testPath ∧ w'.files.read o.testPath = .ok (Utf8.encode o.testSource) := by
  unfold complete at h
  obtain ⟨⟨ending, last⟩, w₁, -, hrest⟩ := Work.bind_ok.1 h
  obtain ⟨_, w₂, hpersist, hrest⟩ := Work.bind_ok.1 hrest
  obtain ⟨_, w₃, hnote, hend⟩ := Work.bind_ok.1 hrest
  obtain ⟨notes, rfl⟩ := (Work.quiet_compositional.log _).result hnote
  obtain ⟨rfl, rfl⟩ : s.outcome ending last = o ∧ _ = w' := by simpa using hend
  obtain ⟨-, -, -, hread⟩ := Work.persist_ok hpersist
  exact ⟨rfl, hread⟩

theorem skip_source (h : s.skip.runOn w = (.ok o, w')) : o.testSource = s.component.suite := by
  unfold skip at h
  obtain ⟨_, w₁, -, hend⟩ := Work.bind_ok.1 h
  obtain ⟨rfl, rfl⟩ : _ = o ∧ w₁ = w' := by simpa using hend
  rfl

end LoopSetting

section
variable {limit : Int} {order : Order} {verifier : Option Verifier} {w w' : Workspace} {i : Inputs} {o : Outcome}

/-- The file of a suite is the one that was settled before; a suite that is not run is written as it was first. -/
theorem generate_writes (h : order.Reads w i) (hgenerate : (generate limit order verifier).runOn w = (.ok o, w')) :
    let s := i.setting limit order verifier w
    o.testPath = s.testPath ∧ w'.files.read o.testPath = .ok (Utf8.encode o.testSource) ∧
      (order.verify = false → o.testSource = s.component.suite) := by
  intro s
  obtain ⟨notes, hprepare⟩ := h.prepare limit verifier
  unfold generate at hgenerate
  rw [Work.runOn_bind_of_ok hprepare] at hgenerate
  split at hgenerate
  · next hverify =>
    obtain ⟨hpath, hread⟩ := LoopSetting.complete_writes hgenerate
    exact ⟨hpath, hread, fun hskip => by rw [hverify] at hskip; cases hskip⟩
  · obtain ⟨hpath, hread, -⟩ := LoopSetting.skip_onDisk hgenerate
    exact ⟨hpath, hpath ▸ hread, fun _ => LoopSetting.skip_source hgenerate⟩

/-- A suite that is not run is made, if its file can be written. -/
theorem generate_skips (h : order.Reads w i) (hverify : order.verify = false)
    (hsave : (w.files.save (i.setting limit order verifier w).testPath []).2 = none) :
    ∃ o w', (generate limit order verifier).runOn w = (.ok o, w') := by
  let s := i.setting limit order verifier w
  obtain ⟨notes, hprepare⟩ := h.prepare limit verifier
  obtain ⟨w', hpersist⟩ := Work.persist_of_savable (w := { w with notes := notes }) hsave s.component.suite
  unfold generate
  rw [Work.runOn_bind_of_ok hprepare, hverify, if_neg Bool.false_ne_true, LoopSetting.skip, Work.runOn_bind_of_ok hpersist]
  exact ⟨_, w', rfl⟩

/-! ## Given paths -/

/-- The suite at a given path, after the imports that all suites have, imports a file of its component's name without a
source extension from the directory above its own; at the top that is the top itself. So it imports its component exactly
if that directory is the component's. -/
theorem given_suite_imports (h : order.Reads w i) {given : String} (hgiven : order.output = some given) (hne : given ≠ "")
    (hlast : (Path.ofText order.file).segments.getLast? = some i.component.name) (hname : IsSourceName i.component.name) :
    let s := i.setting limit order verifier w
    s.testPath = Path.resolveIn w.files.here (i.root.child given) ∧
      (∀ o w', (generate limit order verifier).runOn w = (.ok o, w') → o.testPath = s.testPath ∧
        w'.files.read o.testPath = .ok (Utf8.encode o.testSource) ∧
        (order.verify = false → o.testSource = s.component.suite)) ∧
      (∃ rest, s.component.suite = importHeader ++ "\n" ++ ("import " ++ braced (" " ++ s.component.displayName ++ " ") ++
        " from " ++ Json.quote (importPath order.file) ++ ";") ++ "\n" ++ rest) ∧
      s.testPath.importTarget (importPath order.file) =
        ⟨1, s.testPath.parent.parent.segments ++ [i.component.bareName]⟩ ∧
      (s.testPath.importTarget (importPath order.file) = i.component.withoutSourceExtension ↔
        s.testPath.parent.parent = i.component.parent) := by
  intro s
  have hpath : s.testPath = Path.resolveIn w.files.here (i.root.child given) := by
    show outputPath w.files.here i.component i.root order.output i.settings = _
    rw [hgiven, outputPath]
    exact if_neg (by simpa using hne)
  have hinside : ".." ∉ s.testPath.segments := by
    rw [hpath]
    exact Path.normalize_inside _ List.not_mem_nil
  have hsource : s.component.sourcePath = order.file := analyzeTree_sourcePath _ _
  have htarget := Path.importTarget_importPath hinside hlast hname
  refine ⟨hpath, fun o w' hgenerate => generate_writes h hgenerate, ?_, htarget, ?_⟩
  · have hsuite := suite_importLine s.component
    rwa [Component.importLine, hsource] at hsuite
  · obtain ⟨base, -, -, hcomponent⟩ := h.paths
    have hempty : i.component.name ≠ "" := Path.ofText_ne_empty (List.mem_of_getLast? hlast)
    have hslashes : s.testPath.parent.parent.slashes = i.component.parent.slashes := by
      show s.testPath.slashes = i.component.slashes
      rw [hpath, slashes_of_resolve hcomponent]
      rfl
    rw [htarget, Path.withoutSourceExtension_eq hempty, slashes_of_resolve hcomponent, Path.mk.injEq,
      List.append_left_inj, Path.eq_iff]
    exact and_congr_left fun _ => ⟨fun _ => hslashes, fun _ => rfl⟩

end

theorem mute_sourceName : IsSourceName givenInputs.component.name := ⟨by decide, by decide, by decide⟩

/-- A suite in a directory of its own beside the source file imports it. -/
theorem given_suite_imports_below : (givenInputs.setting 2 (givenOrder "specs/A.spec.tsx") none mutePlace).testPath.importTarget
    (importPath "A.ts") = ⟨1, ["p", "A"]⟩ := by
  have hreads : (givenOrder "specs/A.spec.tsx").Reads mutePlace givenInputs := givenOrder_reads rfl
  obtain ⟨hpath, -, -, -, htarget⟩ :=
    @given_suite_imports 2 _ none mutePlace givenInputs hreads "specs/A.spec.tsx" rfl (by decide) (by decide) mute_sourceName
  exact (htarget.2 (by rw [hpath]; decide)).trans (by decide)

/-- A suite beside the source file does not, although it is written. -/
theorem not_given_suite_imports : ¬ ∀ (limit : Int) (order : Order) (w w' : Workspace) (i : Inputs) (given : String)
    (o : Outcome), order.Reads w i → order.output = some given → given ≠ "" →
    (Path.ofText order.file).segments.getLast? = some i.component.name → IsSourceName i.component.name →
    (generate limit order).runOn w = (.ok o, w') →
    o.testPath.importTarget (importPath order.file) = i.component.withoutSourceExtension := by
  intro h
  have hreads : (givenOrder "A.test.tsx").Reads mutePlace givenInputs := givenOrder_reads rfl
  have hsave : (mutePlace.files.save (givenInputs.setting 2 (givenOrder "A.test.tsx") none mutePlace).testPath []).2 = none :=
    rfl
  obtain ⟨o, w', hgenerate⟩ := generate_skips hreads rfl hsave
  have hpath : o.testPath = ⟨1, ["p", "A.test.tsx"]⟩ := (generate_writes hreads hgenerate).1
  have htarget := h 2 _ mutePlace w' givenInputs "A.test.tsx" o hreads rfl (by decide) (by decide) mute_sourceName hgenerate
  rw [hpath] at htarget
  exact absurd htarget (by decide)

end Suitewright
