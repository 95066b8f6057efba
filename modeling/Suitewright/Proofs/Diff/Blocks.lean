/-
  Common blocks are common.

  * `SameLines`: so many lines are the same in both lists;
  * `Block.Within`: a block of a window whose lines are the same in both lists; `longestBlock_within`;
  * `Chain`: blocks of common lines one after another; `matchingBlocks_chain`;
  * `chunks_old`, `chunks_new`: the two sides of the chunks are the two lists.
-/
import Suitewright.Diff.Unified

namespace Suitewright.Diff

variable {old new : List String} {w : Window} {places : Array (List Nat)}

/-- The `n` lines from `a` on in the first list are those from `b` on in the second one. -/
def SameLines (old new : List String) (a b n : Nat) : Prop := ∀ t < n, old[a + t]? = new[b + t]?

theorem SameLines.take_drop {a b n : Nat} (h : SameLines old new a b n) : (old.drop a).take n = (new.drop b).take n := by
  refine List.ext_getElem? fun t => ?_
  rw [List.getElem?_take, List.getElem?_take]
  split
  · next ht => rw [List.getElem?_drop, List.getElem?_drop, h t ht]
  · rfl

theorem SameLines.succ {a b n : Nat} (h : SameLines old new a b n) (hlast : old[a + n]? = new[b + n]?) :
    SameLines old new a b (n + 1) := by
  intro t ht
  rcases Nat.lt_succ_iff_lt_or_eq.1 ht with ht | rfl
  · exact h t ht
  · exact hlast

theorem SameLines.cons {a b n : Nat} (h : SameLines old new (a + 1) (b + 1) n) (hfirst : old[a]? = new[b]?) :
    SameLines old new a b (n + 1) := by
  intro t ht
  cases t with
  | zero => exact hfirst
  | succ t =>
    have := h t (Nat.lt_of_succ_lt_succ ht)
    rwa [Nat.add_right_comm, Nat.add_right_comm b] at this

theorem SameLines.append {a b n m : Nat} (h : SameLines old new a b n) (h' : SameLines old new (a + n) (b + n) m) :
    SameLines old new a b (n + m) := by
  intro t ht
  rcases Nat.lt_or_ge t n with hlt | hle
  · exact h t hlt
  · obtain ⟨s, rfl⟩ := Nat.exists_eq_add_of_le hle
    have := h' s (Nat.lt_of_add_lt_add_left ht)
    rwa [Nat.add_assoc, Nat.add_assoc] at this

/-! ## The longest block -/

/-- A block of a window, of lines that are the same in both lists. -/
structure Block.Within (old new : List String) (w : Window) (k : Block) : Prop where
  aFrom_le : w.aFrom ≤ k.a
  le_aTo : k.a + k.size ≤ w.aTo
  bFrom_le : w.bFrom ≤ k.b
  le_bTo : k.b + k.size ≤ w.bTo
  same : SameLines old new k.a k.b k.size

/-- Runs of common lines of a window that end before line `i` of the first list. -/
def Runs.EndAt (old new : List String) (w : Window) (i : Nat) (runs : Runs) : Prop :=
  ∀ e n, (e, n) ∈ runs → w.aFrom + n ≤ i ∧ w.bFrom + n ≤ e ∧ SameLines old new (i - n) (e - n) n

theorem mem_of_lookup {runs : Runs} {e n : Nat} (h : runs.lookup e = some n) : (e, n) ∈ runs := by
  obtain ⟨front, rest, rfl, -⟩ := List.lookup_eq_some_iff.1 h
  simp

/-- A run that is made one line longer. -/
theorem Runs.EndAt.longer {i j : Nat} {before : Runs} (h : Runs.EndAt old new w i before) (hi : w.aFrom ≤ i)
    (hj : w.bFrom ≤ j) (hline : old[i]? = new[j]?) :
    w.aFrom + ((before.lookup j).getD 0 + 1) ≤ i + 1 ∧ w.bFrom + ((before.lookup j).getD 0 + 1) ≤ j + 1 ∧
      SameLines old new (i + 1 - ((before.lookup j).getD 0 + 1)) (j + 1 - ((before.lookup j).getD 0 + 1))
        ((before.lookup j).getD 0 + 1) := by
  have hrun : w.aFrom + (before.lookup j).getD 0 ≤ i ∧ w.bFrom + (before.lookup j).getD 0 ≤ j ∧
      SameLines old new (i - (before.lookup j).getD 0) (j - (before.lookup j).getD 0) ((before.lookup j).getD 0) := by
    cases hlookup : before.lookup j with
    | none => exact ⟨hi, hj, fun t ht => absurd ht (Nat.not_lt_zero t)⟩
    | some n => exact h j n (mem_of_lookup hlookup)
  generalize (before.lookup j).getD 0 = n at hrun ⊢
  obtain ⟨ha, hb, hsame⟩ := hrun
  refine ⟨by omega, by omega, ?_⟩
  rw [Nat.add_sub_add_right, Nat.add_sub_add_right]
  refine hsame.succ ?_
  rwa [Nat.sub_add_cancel (by omega), Nat.sub_add_cancel (by omega)]

theorem stepRuns_within {i : Nat} {before : Runs} {js : List Nat} {best : Block} (hi : w.aFrom ≤ i) (hi' : i < w.aTo)
    (hbefore : Runs.EndAt old new w i before) (hjs : ∀ j ∈ js, old[i]? = new[j]?) (hbest : best.Within old new w) :
    Runs.EndAt old new w (i + 1) (stepRuns i w before js best).1 ∧ (stepRuns i w before js best).2.Within old new w := by
  induction js generalizing best with
  | nil => exact ⟨fun _ _ h => (List.not_mem_nil h).elim, hbest⟩
  | cons j js ih =>
    obtain ⟨hj, hjs⟩ := List.forall_mem_cons.1 hjs
    rw [stepRuns]
    split
    · exact ih hjs hbest
    · next hfrom =>
      split
      · exact ⟨fun _ _ h => (List.not_mem_nil h).elim, hbest⟩
      · next hto =>
        obtain ⟨ha, hb, hsame⟩ := hbefore.longer hi (Nat.le_of_not_lt hfrom) hj
        generalize (before.lookup j).getD 0 + 1 = n at ha hb hsame ⊢
        have hblock : Block.Within old new w ⟨i + 1 - n, j + 1 - n, n⟩ :=
          ⟨by dsimp only; omega, by dsimp only; omega, by dsimp only; omega, by dsimp only; omega, hsame⟩
        have hbest' : (if best.size < n then ⟨i + 1 - n, j + 1 - n, n⟩ else best : Block).Within old new w := by
          split
          · exact hblock
          · exact hbest
        obtain ⟨hruns, hlast⟩ := ih hjs hbest'
        refine ⟨fun e n' hmem => ?_, hlast⟩
        rcases List.mem_cons.1 hmem with heq | hmem
        · obtain ⟨rfl, rfl⟩ := Prod.mk.inj heq
          exact ⟨ha, hb, hsame⟩
        · exact hruns e n' hmem

/-- Places of lines are right when each line of the first list stands at its places in the second one. -/
def PlacesRight (old new : List String) (places : Array (List Nat)) : Prop :=
  ∀ i j : Nat, j ∈ places[i]?.getD [] → old[i]? = new[j]?

theorem scanRuns_within (hplaces : PlacesRight old new places) {n i : Nat} {runs : Runs} {best : Block} (hi : w.aFrom ≤ i)
    (hn : i + n ≤ w.aTo) (hruns : Runs.EndAt old new w i runs) (hbest : best.Within old new w) :
    (scanRuns places w n i runs best).Within old new w := by
  induction n generalizing i runs best with
  | zero => exact hbest
  | succ n ih =>
    obtain ⟨hruns', hbest'⟩ := stepRuns_within hi (by omega) hruns (hplaces i) hbest
    exact ih (by omega) (by omega) hruns' hbest'

theorem growUp_within {n : Nat} {k : Block} (h : k.Within old new w) :
    (growUp old.toArray new.toArray w n k).Within old new w := by
  induction n generalizing k with
  | zero => exact h
  | succ n ih =>
    rw [growUp]
    split
    · next hgrow =>
      simp only [Bool.and_eq_true, decide_eq_true_eq, beq_iff_eq, List.getElem?_toArray] at hgrow
      obtain ⟨⟨ha, hb⟩, hline⟩ := hgrow
      obtain ⟨-, hto, -, hto', hsame⟩ := h
      refine ih ⟨by dsimp only; omega, by dsimp only; omega, by dsimp only; omega, by dsimp only; omega, ?_⟩
      refine SameLines.cons ?_ hline
      rwa [Nat.sub_add_cancel (by omega), Nat.sub_add_cancel (by omega)]
    · exact h

theorem growDown_within {n : Nat} {k : Block} (h : k.Within old new w) :
    (growDown old.toArray new.toArray w n k).Within old new w := by
  induction n generalizing k with
  | zero => exact h
  | succ n ih =>
    rw [growDown]
    split
    · next hgrow =>
      simp only [Bool.and_eq_true, decide_eq_true_eq, beq_iff_eq, List.getElem?_toArray] at hgrow
      obtain ⟨⟨ha, hb⟩, hline⟩ := hgrow
      exact ih ⟨h.aFrom_le, by dsimp only; omega, h.bFrom_le, by dsimp only; omega, h.same.succ hline⟩
    · exact h

theorem longestBlock_within (hplaces : PlacesRight old new places) (ha : w.aFrom ≤ w.aTo) (hb : w.bFrom ≤ w.bTo) :
    (longestBlock old.toArray new.toArray places w).Within old new w := by
  refine growDown_within (growUp_within (scanRuns_within hplaces (Nat.le_refl _) (by omega) ?_ ?_))
  · exact fun _ _ h => (List.not_mem_nil h).elim
  · exact ⟨Nat.le_refl _, ha, Nat.le_refl _, hb, fun t ht => absurd ht (Nat.not_lt_zero t)⟩

/-! ## All blocks -/

/-- Blocks of common lines one after another, from a place in both lists up to another one. -/
inductive Chain (old new : List String) : (a b a' b' : Nat) → List Block → Prop
  | nil {a b a' b' : Nat} : a ≤ a' → b ≤ b' → Chain old new a b a' b' []
  | cons {a b a' b' : Nat} {k : Block} {ks : List Block} : a ≤ k.a → b ≤ k.b → SameLines old new k.a k.b k.size →
      Chain old new (k.a + k.size) (k.b + k.size) a' b' ks → Chain old new a b a' b' (k :: ks)

namespace Chain

variable {a b a' b' : Nat} {k : Block} {ks above below : List Block}

theorem append (h : Chain old new a b k.a k.b above) (hk : SameLines old new k.a k.b k.size)
    (h' : Chain old new (k.a + k.size) (k.b + k.size) a' b' below) : Chain old new a b a' b' (above ++ k :: below) := by
  generalize ha : k.a = c at h
  generalize hb : k.b = d at h
  induction h with
  | nil hle hle' =>
    subst ha hb
    exact .cons hle hle' hk h'
  | cons hle hle' hsame _ ih => exact .cons hle hle' hsame (ih ha hb)

theorem consBlock (hle : a ≤ k.a) (hle' : b ≤ k.b) (hk : SameLines old new k.a k.b k.size)
    (h : Chain old new (k.a + k.size) (k.b + k.size) a' b' ks) : Chain old new a b a' b' (consBlock k ks) := by
  cases h with
  | nil ha hb => exact .cons hle hle' hk (.nil ha hb)
  | @cons _ _ _ _ l ls ha hb hl h =>
    rw [Diff.consBlock]
    split
    · next htouch =>
      simp only [Bool.and_eq_true, beq_iff_eq] at htouch
      obtain ⟨hla, hlb⟩ := htouch
      refine .cons hle hle' (hk.append ?_) ?_
      · rwa [hla, hlb]
      · dsimp only
        rwa [← Nat.add_assoc, ← Nat.add_assoc, hla, hlb]
    · exact .cons hle hle' hk (.cons ha hb hl h)

theorem joined (h : Chain old new a b a' b' ks) : Chain old new a b a' b' (ks.foldr Diff.consBlock []) := by
  induction h with
  | nil ha hb => exact .nil ha hb
  | cons ha hb hk _ ih => exact .consBlock ha hb hk ih

end Chain

theorem blocksIn_chain (hplaces : PlacesRight old new places) {n : Nat} (ha : w.aFrom ≤ w.aTo) (hb : w.bFrom ≤ w.bTo) :
    Chain old new w.aFrom w.bFrom w.aTo w.bTo (blocksIn old.toArray new.toArray places n w) := by
  induction n generalizing w with
  | zero => exact .nil ha hb
  | succ n ih =>
    rw [blocksIn]
    have hk := longestBlock_within hplaces ha hb
    generalize longestBlock old.toArray new.toArray places w = k at hk ⊢
    dsimp only
    split
    · exact .nil ha hb
    · refine .append ?_ hk.same ?_
      · split
        · next hcut =>
          simp only [Bool.and_eq_true, decide_eq_true_eq] at hcut
          exact ih (w := ⟨w.aFrom, k.a, w.bFrom, k.b⟩) (Nat.le_of_lt hcut.1) (Nat.le_of_lt hcut.2)
        · exact .nil hk.aFrom_le hk.bFrom_le
      · split
        · next hcut =>
          simp only [Bool.and_eq_true, decide_eq_true_eq] at hcut
          exact ih (w := ⟨k.a + k.size, w.aTo, k.b + k.size, w.bTo⟩) (Nat.le_of_lt hcut.1) (Nat.le_of_lt hcut.2)
        · exact .nil hk.le_aTo hk.le_bTo

theorem mem_placesOf {line : String} {lines : List String} {j : Nat} (h : j ∈ placesOf line lines) :
    lines[j]? = some line := by
  simp only [placesOf, List.mem_map, List.mem_filter, beq_iff_eq, Prod.exists] at h
  obtain ⟨l, j', ⟨hmem, rfl⟩, rfl⟩ := h
  exact List.mem_zipIdx_iff_getElem?.1 hmem

theorem candidates_right (old new : List String) : PlacesRight old new (candidates old new) := by
  intro i j hj
  rw [candidates, List.getElem?_toArray, List.getElem?_map] at hj
  cases hline : old[i]? with
  | none =>
    rw [hline] at hj
    exact (List.not_mem_nil hj).elim
  | some line =>
    rw [hline] at hj
    simp only [Option.map_some, Option.getD_some] at hj
    split at hj
    · exact (List.not_mem_nil hj).elim
    · exact (mem_placesOf hj).symm

/-- Matching blocks are blocks of common lines, one after another. -/
theorem matchingBlocks_chain (old new : List String) :
    Chain old new 0 0 old.length new.length (matchingBlocks old new) :=
  (blocksIn_chain (w := ⟨0, old.length, 0, new.length⟩) (candidates_right old new) (Nat.zero_le _) (Nat.zero_le _)).joined

/-! ## Chunks -/

theorem changeOf_old (old new : List String) : (changeOf old new).flatMap Chunk.old = old := by
  cases old <;> cases new <;> simp [changeOf, Chunk.old]

theorem changeOf_new (old new : List String) : (changeOf old new).flatMap Chunk.new = new := by
  cases old <;> cases new <;> simp [changeOf, Chunk.new]

theorem chunksFrom_old (ks : List Block) (i j : Nat) (old new : List String) :
    (chunksFrom i j old new ks).flatMap Chunk.old = old := by
  induction ks generalizing i j old new with
  | nil => exact changeOf_old old new
  | cons k ks ih =>
    rw [chunksFrom, List.flatMap_append, changeOf_old, List.flatMap_cons, ih, Chunk.old, ← List.drop_drop,
      List.take_append_drop, List.take_append_drop]

theorem Chain.chunksFrom_new {i j a' b' : Nat} {ks : List Block} (h : Chain old new i j a' b' ks) :
    (chunksFrom i j (old.drop i) (new.drop j) ks).flatMap Chunk.new = new.drop j := by
  induction h with
  | nil => exact changeOf_new _ _
  | @cons i j a' b' k ks hi hj hk _ ih =>
    have hold : i + (k.a - i) = k.a := Nat.add_sub_cancel' hi
    have hnew : j + (k.b - j) = k.b := Nat.add_sub_cancel' hj
    have hsame : ((old.drop i).drop (k.a - i)).take k.size = ((new.drop j).drop (k.b - j)).take k.size := by
      rw [List.drop_drop, List.drop_drop, hold, hnew, hk.take_drop]
    have hold' : (old.drop i).drop (k.a - i + k.size) = old.drop (k.a + k.size) := by
      rw [List.drop_drop, ← Nat.add_assoc, hold]
    have hnew' : (new.drop j).drop (k.b - j + k.size) = new.drop (k.b + k.size) := by
      rw [List.drop_drop, ← Nat.add_assoc, hnew]
    rw [chunksFrom, List.flatMap_append, changeOf_new, List.flatMap_cons, Chunk.new, hsame, hold', hnew', ih, ← hnew',
      ← List.drop_drop, List.take_append_drop, List.take_append_drop]

/-- The sides of the chunks are the two lists. -/
theorem chunks_old (old new : List String) : (chunks old new).flatMap Chunk.old = old := chunksFrom_old _ _ _ _ _

theorem chunks_new (old new : List String) : (chunks old new).flatMap Chunk.new = new :=
  (matchingBlocks_chain old new).chunksFrom_new

end Suitewright.Diff
