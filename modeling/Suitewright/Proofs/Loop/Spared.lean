/-
  What becomes of the component's file.

  * `Work.Sparing`: work that changes no file but the one at the place of a path;
  * `LoopSetting.complete_sparing`, `skip_sparing`: writing a suite is of this kind;
  * `generate_spares_component`: the component's file reads as before, whether a suite is made or not, unless the suite
    is written to the component's place; where suites lie below their components it never is;
  * `not_generate_spares`: it can be, by the path that is given for the suite.
-/
import Suitewright.Proofs.Loop.Obstacles
import Suitewright.Proofs.Loop.OnDisk
import Suitewright.Proofs.Project.Sparing
import Suitewright.Proofs.Text.Bytes

namespace Suitewright

namespace Work

variable {α β : Type} {path : Path}

/-- Work that changes no file but the one at the place of a path. -/
def Sparing (path : Path) (x : Work α) : Prop := ∀ w, Files.Spares path w.files (x.runOn w).2.files

theorem sparing_compositional (path : Path) : Compositional fun _ x => Sparing path x where
  reads h _ := fun w => by
    rw [h]
    exact .refl path w.files
  log _ := fun w => .refl path w.files
  bind := by
    intro α β x f hx hf w
    have hfirst := hx w
    rw [runOn_bind]
    cases hrun : x.runOn w with | mk r w₁ =>
    rw [hrun] at hfirst
    cases r with
    | ok a => exact hfirst.trans (hf a w₁)
    | error e => exact hfirst

theorem persist_sparing (path : Path) (text : String) : Sparing path (persist path text) := by
  intro w
  have hsave := Files.save_spares w.files path (Utf8.encode text)
  rw [persist, runOn_changeFiles]
  cases hsaved : w.files.save path (Utf8.encode text) with | mk fs fault =>
  rw [hsaved] at hsave
  cases fault <;> exact hsave

end Work

open Work

/-- A verifier that leaves the files alone. -/
def Verifier.KeepsFiles (verifier : Verifier) : Prop :=
  ∀ testPath root w, ((verifier testPath root).runOn w).2.files = w.files

theorem Verifier.ofCommands_keepsFiles (commands : List (List String)) : (Verifier.ofCommands commands).KeepsFiles := by
  intro testPath root w
  rw [runOn_ofCommands]

namespace LoopSetting

variable {s : LoopSetting}

theorem complete_sparing (hs : s.verifier.KeepsFiles) : Sparing s.testPath s.complete := by
  refine (sparing_compositional s.testPath).complete (persist_sparing _) fun w => ?_
  rw [hs]
  exact .refl _ _

theorem skip_sparing : Sparing s.testPath s.skip := (sparing_compositional s.testPath).skip (persist_sparing _)

end LoopSetting

section
variable {limit : Int} {order : Order} {verifier : Option Verifier} {w : Workspace} {base path : Path}

/-- Making a suite spares all but the file of the suite, whether it succeeds or fails. -/
theorem generate_spares (hverifier : ∀ v ∈ verifier, v.KeepsFiles) {i : Inputs} (h : order.Reads w i) :
    Files.Spares (i.setting limit order verifier w).testPath w.files
      ((generate limit order verifier).runOn w).2.files := by
  obtain ⟨notes, hprepare⟩ := h.prepare limit verifier
  have hs : (i.setting limit order verifier w).verifier.KeepsFiles := by
    cases verifier with
    | none => exact Verifier.ofCommands_keepsFiles _
    | some v => exact hverifier v rfl
  unfold generate
  rw [runOn_bind_of_ok hprepare]
  split
  · exact LoopSetting.complete_sparing hs { w with notes := notes }
  · exact LoopSetting.skip_sparing { w with notes := notes }

theorem base_proper (hhome : w.home.Proper) (h : order.base w = .ok base) : base.Proper := by
  have htext := Path.ofText_proper order.root
  rw [Order.base] at h
  unfold expandHome at h
  split at h
  · next first rest _ hsegments =>
    have hrest : ∀ name ∈ rest, '/' ∉ name.toList := fun name hname =>
      htext name (by rw [hsegments]; exact List.mem_cons_of_mem _ hname)
    split at h
    · cases h
      exact fun name hname => (List.mem_append.1 hname).elim (hhome name) (hrest name)
    · split at h
      · split at h <;> cases h
      · cases h
        exact htext
  · cases h
    exact htext

theorem resolved_proper {fs : Files} {file : String} (hhere : fs.here.Proper) (hbase : base.Proper)
    (h : fs.resolve (base.child file) = .ok path) : path.slashes = 1 ∧ ".." ∉ path.segments ∧ path.Proper := by
  rw [Files.eq_of_resolve h]
  exact ⟨rfl, Path.normalize_inside _ List.not_mem_nil, hhere.resolveIn (hbase.join (Path.ofText_proper file))⟩

/-- The component's file reads as before, whether a suite is made or not: always unless the suite is written to the
component's place, and in particular where suites lie below their components and no path is given for the suite. -/
theorem generate_spares_component (hverifier : ∀ v ∈ verifier, v.KeepsFiles) (hbase : order.base w = .ok base)
    (hpath : w.files.resolve (base.child order.file) = .ok path) :
    let after := ((generate limit order verifier).runOn w).2.files
    ((∀ i, order.Reads w i → Path.place w.files.here (i.setting limit order verifier w).testPath ≠
      Path.place w.files.here path) → after.read path = w.files.read path) ∧
    (w.files.here.Proper → w.home.Proper → (∀ text ∈ order.output, text = "") →
      (∀ root settings, w.files.resolve base = .ok root → SettingsIn w.files root settings → settings.Nested) →
      after.read path = w.files.read path) := by
  intro after
  obtain ⟨i, -, h, -⟩ | ⟨e, notes, -, hrun⟩ := prepare_run limit order verifier w
  · obtain ⟨base', hbase', hroot, hcomponent⟩ := h.paths
    obtain rfl : base = base' := Except.ok.inj (hbase.symm.trans hbase')
    obtain rfl : path = i.component := Except.ok.inj (hpath.symm.trans hcomponent)
    obtain ⟨hnull, place, bytes, hlocate⟩ := Files.isFile_iff.1 h.file
    have hread : w.files.read i.component = .ok bytes := by
      rw [Files.read, hnull, hlocate]
      rfl
    have hspares : Files.Spares (i.setting limit order verifier w).testPath w.files after := generate_spares hverifier h
    have hkeeps : Path.place w.files.here (i.setting limit order verifier w).testPath ≠
        Path.place w.files.here i.component → after.read i.component = w.files.read i.component := by
      intro hne
      rw [hread]
      exact hspares.read (Ne.symm hne) hread
    refine ⟨fun hne => hkeeps (hne i h), fun hhere hhome hgiven hnested => hkeeps ?_⟩
    obtain ⟨hslashes, hinside, hproper⟩ := resolved_proper hhere (base_proper hhome hbase) hpath
    exact outputPath_place (hnested _ _ hroot h.settings) hslashes hinside hproper (slashes_of_resolve hroot) hgiven _
  · have hsame : after = w.files := by
      have hgenerate : (generate limit order verifier).runOn w = (.error e, { w with notes := notes }) :=
        runOn_bind_of_error hrun
      exact congrArg (·.2.files) hgenerate
    rw [hsame]
    exact ⟨fun _ => rfl, fun _ _ _ _ => rfl⟩

end

/-- The project with an empty source file: its suite leaves the source file alone. -/
theorem generate_spares_component_mute :
    ((generate 2 muteOrder).runOn mutePlace).2.files.read ⟨1, ["p", "A.ts"]⟩ = .ok [] := by
  have hspares := @generate_spares_component 2 muteOrder none mutePlace {} ⟨1, ["p", "A.ts"]⟩ nofun rfl rfl
  have hsettings : SettingsIn mutePlace.files ⟨1, ["p"]⟩ {} := .absent rfl rfl
  refine hspares.2 (by decide) (by decide) nofun fun root settings hroot h => ?_
  cases hroot
  rw [h.unique hsettings]
  exact default_nested

/-- An order for a suite at a given path, in the project with an empty source file. -/
def givenOrder (given : String) : Order := { muteOrder with output := some given, verify := false }

/-- What is read for it. -/
def givenInputs : Inputs := ⟨⟨1, ["p"]⟩, ⟨1, ["p", "A.ts"]⟩, {}, ""⟩

theorem givenOrder_reads {given : String} {path : Path}
    (h : mutePlace.files.resolve (givenInputs.root.child given) = .ok path) : (givenOrder given).Reads mutePlace givenInputs where
  paths := ⟨{}, (rfl : muteOrder.base mutePlace = .ok {}), rfl,
    (rfl : mutePlace.files.resolve (Path.child {} "A.ts") = .ok givenInputs.component)⟩
  file := rfl
  settings := .absent rfl rfl
  source := rfl
  output := by
    rintro given ⟨⟩ _
    exact ⟨path, h⟩

/-- An order for a suite that is to stand in the source file itself. -/
def selfOrder : Order := { muteOrder with output := some "A.ts", verify := false }

theorem selfOrder_reads : selfOrder.Reads mutePlace ⟨⟨1, ["p"]⟩, ⟨1, ["p", "A.ts"]⟩, {}, ""⟩ := givenOrder_reads rfl

/-- A suite can be written over its component. -/
theorem not_generate_spares : ¬ ∀ (limit : Int) (order : Order) (w : Workspace) (base path : Path),
    order.base w = .ok base → w.files.resolve (base.child order.file) = .ok path →
    ((generate limit order).runOn w).2.files.read path = w.files.read path := by
  intro h
  have hsame := h 2 selfOrder mutePlace {} ⟨1, ["p", "A.ts"]⟩ rfl rfl
  obtain ⟨notes, hprepare⟩ := selfOrder_reads.prepare 2 none
  let s := Inputs.setting ⟨⟨1, ["p"]⟩, ⟨1, ["p", "A.ts"]⟩, {}, ""⟩ 2 selfOrder none mutePlace
  have hsave : (mutePlace.files.save s.testPath []).2 = none := rfl
  obtain ⟨w', hpersist⟩ := persist_of_savable (w := { mutePlace with notes := notes }) hsave s.component.suite
  obtain ⟨-, -, -, hread⟩ := persist_ok hpersist
  have hgenerate : ((generate 2 selfOrder).runOn mutePlace).2 = w' := by
    unfold generate
    rw [runOn_bind_of_ok hprepare, if_neg (by decide), LoopSetting.skip, runOn_bind_of_ok hpersist]
    rfl
  rw [hgenerate] at hsame
  have hempty : Utf8.encode s.component.suite = [] := Except.ok.inj (hread.symm.trans hsame)
  have hdecode := Utf8.decode_encode s.component.suite
  rw [hempty] at hdecode
  have hsuite : s.component.suite = "" := (Except.ok.inj hdecode).symm
  rw [Component.suite, Component.renderSuite] at hsuite
  have := congrArg String.toList hsuite
  simp at this

end Suitewright
