/-
  The settings that a file gives.

  * `HoldsDocument`: the value in a text, where a blank text holds nothing;
  * `HoldsSettings`: what the file with the settings for a path holds;
  * `load_document`: loading the settings for a path is reading that value;
  * `load_taken`: the file is refused exactly if its value is no mapping; else the settings are sound, and each is taken
    from below its own keys.
-/
import Suitewright.Proofs.Loop.Obstacles
import Suitewright.Proofs.Project.Usable

namespace Suitewright

open Work
open Yaml (Value)

/-- The value in a text; a blank text holds nothing. -/
inductive HoldsDocument (text : String) : Value → Prop
  | blank : (Text.trim text).isEmpty = true → HoldsDocument text .null
  | loaded {v : Value} : (Text.trim text).isEmpty = false → Yaml.load text = .ok v → HoldsDocument text v

/-- A file with the settings for a path is there, and holds a value. -/
structure HoldsSettings (w : Workspace) (path file : Path) (v : Value) : Prop where
  place : ∃ place, ((expandHome path).runOn w).1 = .ok place ∧ w.files.resolve (settingsPath w.files place) = .ok file
  there : w.files.isOccupied file = true
  document : ∃ text, w.files.readText file = .ok text ∧ HoldsDocument text v

section
variable {w : Workspace} {path file : Path} {v : Value} {text : String}

theorem ofText_document (h : HoldsDocument text v) : Settings.ofText text = Settings.ofValue v := by
  cases h with
  | blank hblank =>
    rw [Settings.ofText, if_pos hblank]
    rfl
  | loaded hblank hload =>
    rw [Settings.ofText, hblank, hload]
    rfl

theorem load_document (h : HoldsSettings w path file v) : (Settings.load path).runOn w =
    (((Settings.ofValue v).mapError .settings).map fun s => (file.parent, s), w) := by
  obtain ⟨place, hplace, hfile⟩ := h.place
  obtain ⟨text, htext, hdocument⟩ := h.document
  have hexpand : (expandHome path).runOn w = (.ok place, w) := by rw [runOn_expandHome, hplace]
  unfold Settings.load
  rw [runOn_bind_of_ok hexpand, runOn_bind_of_ok (runOn_files w), runOn_bind_of_ok (resolve_ok hfile),
    runOn_bind_of_ok (runOn_files w), if_pos h.there, runOn_bind_of_ok (readText_ok htext), ofText_document hdocument]
  cases Settings.ofValue v with
  | ok s => rfl
  | error e => rfl

/-- A mapping whose integers have a text gives settings that are taken from it; nothing else does. -/
theorem ofValue_taken (hv : v.Printable) :
    (v.isMapping = true → ∃ s, Settings.ofValue v = .ok s ∧ s.TakenFrom v) ∧
    (v.isMapping = false → Settings.ofValue v = .error .notAMapping) := by
  cases v with
  | null =>
    have hnothing : ∀ {group key x}, ¬ Value.Under group key .null x := fun ⟨_, hg, _⟩ => nomatch hg
    refine ⟨fun _ => ⟨{}, rfl, ?_, ?_, ?_⟩, fun h => nomatch h⟩
    · exact .otherwise fun _ _ h => absurd h hnothing
    · exact .otherwise fun _ _ h => absurd h hnothing
    · exact .otherwise fun _ _ h => absurd h hnothing
  | map pairs =>
    obtain ⟨s, hs, htaken⟩ := settingsOf_taken hv
    exact ⟨fun _ => ⟨s, by rw [Settings.ofValue, hs]; rfl, htaken⟩, fun h => nomatch h⟩
  | bool | int | float | str | bytes | moment | list | set | elided => exact ⟨fun h => (nomatch h), fun _ => rfl⟩

/-- Settings that a file gives are taken from its value. -/
theorem taken_of_load {place : Path} {s : Settings} (hfile : HoldsSettings w path file v) (hv : v.Printable)
    (hrun : (Settings.load path).runOn w = (.ok (place, s), w)) : s.TakenFrom v := by
  rw [load_document hfile] at hrun
  cases hmapping : v.isMapping with
  | true =>
    obtain ⟨s', hs', htaken⟩ := (ofValue_taken hv).1 hmapping
    rw [hs'] at hrun
    cases hrun
    exact htaken
  | false =>
    rw [(ofValue_taken hv).2 hmapping] at hrun
    cases hrun

/-- A file with settings is refused exactly if its value is no mapping. Otherwise it gives settings with commands that have
arguments, a directory and an ending with a point in front, each of them taken from below its own keys, so that another file
which agrees with this one there gives the same. -/
theorem load_taken (hfile : HoldsSettings w path file v) (hv : v.Printable) :
    ((Settings.load path).runOn w = (.error (.settings .notAMapping), w) ↔ v.isMapping = false) ∧
    (v.isMapping = true → ∃ s, (Settings.load path).runOn w = (.ok (file.parent, s), w) ∧ s.Sound ∧ s.TakenFrom v ∧
      ∀ w' path' file' v' place' s', HoldsSettings w' path' file' v' → v'.Printable →
        (Settings.load path').runOn w' = (.ok (place', s'), w') →
        (v.AgreeUnder "runner" "commands" v' → s.commands = s'.commands) ∧
        (v.AgreeUnder "output" "test_dir" v' → s.testDir = s'.testDir) ∧
        (v.AgreeUnder "output" "suffix" v' → s.suffix = s'.suffix)) := by
  obtain ⟨hmapping, hother⟩ := ofValue_taken hv
  have hok : v.isMapping = true → ∃ s, (Settings.load path).runOn w = (.ok (file.parent, s), w) := by
    intro h
    obtain ⟨s, hs, -⟩ := hmapping h
    exact ⟨s, by rw [load_document hfile, hs]; rfl⟩
  refine ⟨⟨fun hrun => ?_, fun h => by rw [load_document hfile, hother h]; rfl⟩, fun h => ?_⟩
  · cases h : v.isMapping with
    | false => rfl
    | true =>
      obtain ⟨s, hs⟩ := hok h
      rw [hs] at hrun
      cases hrun
  · obtain ⟨s, hs⟩ := hok h
    have htaken := taken_of_load hfile hv hs
    refine ⟨s, hs, htaken.sound, htaken, fun w' path' file' v' place' s' hfile' hv' hs' => ?_⟩
    have htaken' := taken_of_load hfile' hv' hs'
    exact ⟨htaken.commands_congr htaken', htaken.testDir_congr htaken', htaken.suffix_congr htaken'⟩

end

/-- Settings with a usable command beside an unusable one, and an ending without a point. -/
def pnpmText : String := "runner:\n  commands: [[npm, 3], {}, pnpm test]\noutput: {suffix: spec.tsx}\n"

/-- A project with them. -/
def pnpmPlace : Workspace where
  files := { here := ⟨1, ["p"]⟩, entries := [(["p"], .directory), (["p", ".testgen.yml"], .file (Utf8.encode pnpmText))] }
  home := ⟨1, ["p"]⟩

theorem load_taken_pnpm : ∃ v, HoldsSettings pnpmPlace {} ⟨1, ["p", ".testgen.yml"]⟩ v ∧ v.Printable ∧ v.isMapping = true ∧
    Settings.TakenFrom ⟨[["npm", "3"], ["pnpm", "test"]], "__tests__", ".spec.tsx"⟩ v := by
  have hload : (Yaml.load pnpmText).toOption.any (fun v => v.printable && v.isMapping) = true := by decide +kernel
  obtain ⟨v, hvalue, hv⟩ := (Option.any_eq_true _ _).1 hload
  obtain ⟨hprintable, hmapping⟩ := Bool.and_eq_true_iff.1 hv
  have hread : pnpmPlace.files.readText ⟨1, ["p", ".testgen.yml"]⟩ = .ok pnpmText := eq_ok_of_toOption (by decide +kernel)
  have hfile : HoldsSettings pnpmPlace {} ⟨1, ["p", ".testgen.yml"]⟩ v :=
    ⟨⟨{}, rfl, eq_ok_of_toOption (by decide +kernel)⟩, by decide +kernel, pnpmText, hread,
      .loaded (by decide +kernel) (eq_ok_of_toOption hvalue)⟩
  obtain ⟨s, hrun, -, htaken, -⟩ := (load_taken hfile hprintable).2 hmapping
  have hsettings : Settings.ofText pnpmText = .ok ⟨[["npm", "3"], ["pnpm", "test"]], "__tests__", ".spec.tsx"⟩ :=
    eq_ok_of_toOption (by decide +kernel)
  rw [load_document hfile, ← ofText_document (.loaded (by decide +kernel) (eq_ok_of_toOption hvalue)), hsettings] at hrun
  cases hrun
  exact ⟨v, hfile, hprintable, hmapping, htaken⟩

end Suitewright
