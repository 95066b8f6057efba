/-
  Work that never looks at the journal.

  * `Workspace.bare`: a workspace without its journal;
  * `Alike`, `Agree`: results and computations that are the same but for the journal;
  * `Unread`: what is computed, and what it leaves but for the journal, does not hang on the journal;
  * `Unread.compositional`, `generate_unread`: all work on a project is of this kind.
-/
import Suitewright.Proofs.Loop.Working

namespace Suitewright

variable {α β ε : Type} {w w' : Workspace}

/-- A workspace without its journal. -/
def Workspace.bare (w : Workspace) : Workspace := { w with notes := [] }

@[simp] theorem Workspace.bare_notes (w : Workspace) (notes : List Note) : { w with notes := notes }.bare = w.bare := rfl

theorem Workspace.eq_of_bare (h : w.bare = w'.bare) : w' = { w with notes := w'.notes } := by
  obtain ⟨files, home, script, calls, notes⟩ := w
  obtain ⟨files', home', script', calls', notes'⟩ := w'
  simp only [bare, mk.injEq, and_true] at h
  obtain ⟨rfl, rfl, rfl, rfl⟩ := h
  rfl

/-- The same result, and the same workspace but for the journal. -/
structure Alike (r r' : α × Workspace) : Prop where
  result : r.1 = r'.1
  left : r.2.bare = r'.2.bare

namespace Alike

variable {r r' r'' : α × Workspace}

theorem symm (h : Alike r r') : Alike r' r := ⟨h.result.symm, h.left.symm⟩

theorem trans (h : Alike r r') (h' : Alike r' r'') : Alike r r'' := ⟨h.result.trans h'.result, h.left.trans h'.left⟩

end Alike

/-- Computations that give the same and leave the same but for the journal, whatever the journal is. -/
def Agree (x y : StateM Workspace α) : Prop :=
  ∀ ⦃w w' : Workspace⦄, w.bare = w'.bare → Alike (x.run w) (y.run w')

namespace Agree

variable {x y z : StateM Workspace α}

theorem symm (h : Agree x y) : Agree y x := fun _ _ hbare => (h hbare.symm).symm

theorem trans (h : Agree x y) (h' : Agree y z) : Agree x z := fun _ _ hbare => (h rfl).trans (h' hbare)

theorem bind {f g : α → StateM Workspace β} (hx : Agree x y) (hf : ∀ a, Agree (f a) (g a)) :
    Agree (x >>= f) (y >>= g) := by
  intro w w' hbare
  obtain ⟨hresult, hleft⟩ := hx hbare
  change Alike ((f (x.run w).1).run (x.run w).2) ((g (y.run w').1).run (y.run w').2)
  rw [← hresult]
  exact hf _ hleft

end Agree

/-- What is computed, and what it leaves but for the journal, does not hang on the journal. -/
def Unread (x : StateM Workspace α) : Prop := Agree x x

namespace Unread

theorem of_reads {x : StateM Workspace α} {r : Workspace → α} (h : ∀ w, x.run w = (r w, w))
    (hr : ∀ w notes, r { w with notes := notes } = r w) : Unread x := by
  intro w w' hbare
  rw [h, h]
  refine ⟨?_, hbare⟩
  rw [Workspace.eq_of_bare hbare]
  exact (hr w w'.notes).symm

theorem pure (a : α) : Unread (pure a) := of_reads (fun _ => rfl) fun _ _ => rfl

/-- It is enough that what follows does not hang on the journal for results that there can be. -/
theorem bind_result {x : StateM Workspace α} {f : α → StateM Workspace β} (hx : Unread x)
    (hf : ∀ w, Unread (f (x.run w).1)) : Unread (x >>= f) := by
  intro w w' hbare
  obtain ⟨hresult, hleft⟩ := hx hbare
  change Alike ((f (x.run w).1).run (x.run w).2) ((f (x.run w').1).run (x.run w').2)
  rw [← hresult]
  exact hf w hleft

theorem bind {x : StateM Workspace α} {f : α → StateM Workspace β} (hx : Unread x) (hf : ∀ a, Unread (f a)) :
    Unread (x >>= f) := Agree.bind hx hf

theorem ite {c : Prop} [Decidable c] {x y : StateM Workspace α} (hx : Unread x) (hy : Unread y) :
    Unread (if c then x else y) := by
  split
  · exact hx
  · exact hy

/-- Adding to the journal. -/
theorem add (notes : List Note) : Unread (modify fun w => { w with notes := w.notes ++ notes }) :=
  fun _ _ hbare => ⟨rfl, hbare⟩

/-- A computation that goes on with work, whether it succeeds or fails. -/
theorem work_bind {x : Work α} {f : α → Work β} (hx : Unread x.run) (hf : ∀ a, Unread (f a).run) :
    Unread (x >>= f).run := by
  change Unread (x.run >>= ExceptT.bindCont f)
  refine bind hx fun r => ?_
  cases r with
  | ok a => exact hf a
  | error e => exact pure _

theorem work_lift {x : StateM Workspace α} (hx : Unread x) : Unread (x : Work α).run := by
  intro w w' hbare
  obtain ⟨hresult, hleft⟩ := hx hbare
  exact ⟨congrArg Except.ok hresult, hleft⟩

theorem compositional : Work.Compositional fun _ x => Unread x.run where
  reads h hr := of_reads h hr
  log _ := fun _ _ hbare => ⟨rfl, hbare⟩
  bind := work_bind

end Unread

open Unread

/-! ## The parts of work -/

namespace Work

theorem persist_unread (path : Path) (text : String) : Unread (persist path text).run := by
  intro w w' hbare
  rw [Workspace.eq_of_bare hbare]
  have hrun := runOn_changeFiles (·.save path (Utf8.encode text))
  change Alike ((persist path text).runOn w) ((persist path text).runOn { w with notes := w'.notes })
  rw [persist, hrun, hrun]
  obtain ⟨fs, fault⟩ := w.files.save path (Utf8.encode text)
  cases fault <;> exact ⟨rfl, rfl⟩

end Work

open Work

theorem Verifier.ofCommands_unread (commands : List (List String)) (testPath root : Path) :
    Unread (Verifier.ofCommands commands testPath root).run := by
  intro w w' hbare
  rw [Workspace.eq_of_bare hbare]
  have hrun := Work.runOn_ofCommands commands testPath root
  change Alike ((ofCommands commands testPath root).runOn w)
    ((ofCommands commands testPath root).runOn { w with notes := w'.notes })
  rw [hrun, hrun]
  exact ⟨rfl, rfl⟩

theorem readComponent_unread (file root : String) : Unread (readComponent file root).run :=
  compositional.readComponent file root

theorem analyzeComponent_unread (file root : String) : Unread (analyzeComponent file root).run :=
  compositional.analyzeComponent file root

/-- Making a suite with the commands of its project. -/
theorem generate_unread (limit : Int) (order : Order) : Unread (generate limit order).run := by
  change Unread
    ((prepare limit order none).run >>= ExceptT.bindCont fun s => if order.verify then s.complete else s.skip)
  refine bind_result (compositional.prepare limit order none) fun w => ?_
  cases hprepare : (prepare limit order none).runOn w with | mk result w₁ =>
  have hresult : ((prepare limit order none).run.run w).1 = result := congrArg Prod.fst hprepare
  rw [hresult]
  cases result with
  | error e => exact pure _
  | ok s =>
    obtain ⟨-, -, commands, hs⟩ := prepare_ok hprepare
    refine ite (compositional.complete (persist_unread _) ?_) (compositional.skip (persist_unread _))
    rw [hs]
    exact Verifier.ofCommands_unread commands _ _

end Suitewright
