/-
  A written difference leads from the first text to the second one.

  * `applyHunks_hunksFrom`, `applyHunks_hunks`: the hunks of chunks, applied to the one side, give the other side;
  * `read_join`: what is read is what was written, if the lines of both texts have breaks;
  * `unified_faithful`: a difference of two texts is read as a patch that leads from the one to the other.
-/
import Suitewright.Proofs.Diff.Blocks
import Suitewright.Proofs.Diff.Patch
import Suitewright.Proofs.Text.Tame

namespace Suitewright.Diff

open Text

/-! ## Hunks -/

/-- The lines of a hunk before the change. -/
def Hunk.old (h : Hunk) : List String := h.body.flatMap Chunk.old

/-- The lines of a hunk after the change. -/
def Hunk.new (h : Hunk) : List String := h.body.flatMap Chunk.new

theorem Hunk.push_old (h : Hunk) (c : Chunk) : (h.push c).old = h.old ++ c.old := by
  simp [old, push]

theorem Hunk.push_new (h : Hunk) (c : Chunk) : (h.push c).new = h.new ++ c.new := by
  simp [new, push]

/-- A hunk without a change has the same lines on both sides. -/
theorem Hunk.new_eq_old {h : Hunk} (hsame : h.body.any Chunk.isChange = false) : h.new = h.old := by
  rw [new, old, List.flatMap_def, List.flatMap_def]
  refine congrArg List.flatten (List.map_congr_left fun c hc => ?_)
  cases c with
  | same lines => rfl
  | change old new => exact absurd rfl (List.any_eq_false.1 hsame _ hc)

/-- `i` lines of the first list and `j` lines of the second one come before some lines that stay, and then comes a
hunk. -/
structure Hunk.Follows (h : Hunk) (i j : Nat) (before : List String) : Prop where
  old : h.oldStart = i + before.length
  new : h.newStart = j + before.length

section
variable {h : Hunk} {i j : Nat} {before rest : List String}

theorem applyHunks_cons (hf : h.Follows i j before) (hs : List PatchHunk) :
    Patch.applyHunks i j (h.patch :: hs) (before ++ (h.old ++ rest)) =
      (Patch.applyHunks (h.oldStart + h.oldSize) (h.newStart + h.newSize) hs rest).map fun after =>
        before ++ (h.new ++ after) := by
  have hskipped : h.patch.oldBefore - i = before.length := by
    show h.oldStart - i = _
    rw [hf.old, Nat.add_sub_cancel_left]
  have hcond : i ≤ h.patch.oldBefore ∧ h.patch.newBefore = j + before.length ∧
      before.length ≤ (before ++ (h.old ++ rest)).length ∧ h.patch.old <+: (before ++ (h.old ++ rest)).drop before.length := by
    refine ⟨?_, hf.new, by simp, ?_⟩
    · show i ≤ h.oldStart
      rw [hf.old]
      exact Nat.le_add_right _ _
    · rw [List.drop_left, h.patch_old]
      exact List.prefix_append _ _
  rw [Patch.applyHunks, hskipped, if_pos hcond, h.patch_old, h.patch_new, ← List.drop_drop, List.drop_left, List.take_left,
    show h.body.flatMap Chunk.old = h.old from rfl, List.drop_left]
  rfl

/-- A hunk at the end, which is left out if it changes nothing. -/
theorem applyHunks_toList (hf : h.Follows i j before) :
    Patch.applyHunks i j (h.toList.map Hunk.patch) (before ++ (h.old ++ rest)) = some (before ++ (h.new ++ rest)) := by
  rw [Hunk.toList]
  split
  · rw [List.map_singleton, applyHunks_cons hf]
    rfl
  · next hsame =>
    rw [Hunk.new_eq_old (Bool.eq_false_iff.2 hsame)]
    rfl

/-- A long unchanged chunk ends with lines that belong to the next hunk. -/
theorem exists_middle {lines : List String} (h : 2 * contextSize < lines.length) :
    ∃ middle, middle.length = lines.length - 2 * contextSize ∧
      lines = lines.take contextSize ++ (middle ++ lastLines contextSize lines) := by
  refine ⟨(lines.drop contextSize).take (lines.length - 2 * contextSize), ?_, ?_⟩
  · rw [List.length_take, List.length_drop]
    omega
  · have hlast : lines.length - contextSize = contextSize + (lines.length - 2 * contextSize) := by omega
    rw [lastLines, hlast, ← List.drop_drop, List.take_append_drop, List.take_append_drop]

/-- A hunk that ends in a long unchanged chunk, and the hunks after it: the middle of the chunk comes between. -/
theorem applyHunks_long {cs : List Chunk} {lines : List String} (hf : h.Follows i j before)
    (hlong : 2 * contextSize < lines.length)
    (ih : ∀ {h : Hunk} {i j : Nat} {before : List String}, h.Follows i j before →
      Patch.applyHunks i j ((hunksFrom h cs).map Hunk.patch) (before ++ (h.old ++ cs.flatMap Chunk.old)) =
        some (before ++ (h.new ++ cs.flatMap Chunk.new))) :
    let done := h.push (.same (lines.take contextSize))
    let skipped := lines.length - 2 * contextSize
    Patch.applyHunks i j ((done :: hunksFrom ⟨done.oldStart + done.oldSize + skipped, done.newStart + done.newSize + skipped,
        [.same (lastLines contextSize lines)]⟩ cs).map Hunk.patch) (before ++ (h.old ++ (lines ++ cs.flatMap Chunk.old))) =
      some (before ++ (h.new ++ (lines ++ cs.flatMap Chunk.new))) := by
  intro done skipped
  obtain ⟨middle, hmiddle, hlines⟩ := exists_middle hlong
  let next : Hunk := ⟨done.oldStart + done.oldSize + skipped, done.newStart + done.newSize + skipped,
    [.same (lastLines contextSize lines)]⟩
  have hnext : next.Follows (done.oldStart + done.oldSize) (done.newStart + done.newSize) middle := by
    constructor <;> rw [hmiddle]
  have hdone : done.Follows i j before := ⟨hf.old, hf.new⟩
  have hsides : next.old = lastLines contextSize lines ∧ next.new = lastLines contextSize lines := by
    constructor <;> simp [next, Hunk.old, Hunk.new, Chunk.old, Chunk.new]
  have hsplit : ∀ front rest : List String, front ++ (lines ++ rest) =
      (front ++ lines.take contextSize) ++ (middle ++ (lastLines contextSize lines ++ rest)) := fun front rest => by
    calc front ++ (lines ++ rest) =
        front ++ ((lines.take contextSize ++ (middle ++ lastLines contextSize lines)) ++ rest) := by rw [← hlines]
      _ = _ := by simp only [List.append_assoc]
  have hold : done.old = h.old ++ lines.take contextSize := h.push_old _
  have hnew : done.new = h.new ++ lines.take contextSize := h.push_new _
  rw [List.map_cons, hsplit, hsplit, ← hold, ← hnew, applyHunks_cons hdone]
  have hrest := ih hnext
  rw [hsides.1, hsides.2] at hrest
  rw [hrest]
  rfl

/-- The hunks of chunks lead from the old side of the chunks to the new one: a hunk that is being made is pushed on, and
one that ends leaves the middle of an unchanged chunk to come before the next one. -/
theorem applyHunks_hunksFrom (hf : h.Follows i j before) (cs : List Chunk) :
    Patch.applyHunks i j ((hunksFrom h cs).map Hunk.patch) (before ++ (h.old ++ cs.flatMap Chunk.old)) =
      some (before ++ (h.new ++ cs.flatMap Chunk.new)) := by
  induction cs generalizing h i j before with
  | nil => exact applyHunks_toList hf
  | cons c cs ih =>
    have hpush : ∀ c : Chunk, (h.push c).Follows i j before := fun c => ⟨hf.old, hf.new⟩
    rw [List.flatMap_cons, List.flatMap_cons]
    cases c with
    | change old new =>
      rw [hunksFrom, ← List.append_assoc h.old, ← List.append_assoc h.new, ← h.push_old, ← h.push_new]
      exact ih (hpush _)
    | same lines =>
      rw [hunksFrom]
      split
      · next hlast =>
        obtain rfl : cs = [] := List.isEmpty_iff.1 hlast
        have hpushed := hpush (.same (lines.take contextSize))
        have hstay : _ = some (_ ++ (_ ++ lines.drop contextSize)) := applyHunks_toList hpushed
        rw [Hunk.push_old, Hunk.push_new] at hstay
        simpa [Chunk.old, Chunk.new] using hstay
      · split
        · next hlong => exact applyHunks_long hf hlong ih
        · rw [← List.append_assoc h.old, ← List.append_assoc h.new, ← h.push_old, ← h.push_new]
          exact ih (hpush _)

theorem applyHunks_hunks (cs : List Chunk) :
    Patch.applyHunks 0 0 ((hunks cs).map Hunk.patch) (cs.flatMap Chunk.old) = some (cs.flatMap Chunk.new) := by
  have hempty : (⟨0, 0, []⟩ : Hunk).Follows 0 0 [] := ⟨rfl, rfl⟩
  have hfirst : ∀ cs, Patch.applyHunks 0 0 ((hunksFrom ⟨0, 0, []⟩ cs).map Hunk.patch) (cs.flatMap Chunk.old) =
      some (cs.flatMap Chunk.new) := applyHunks_hunksFrom hempty
  cases cs with
  | nil => exact hfirst []
  | cons c cs =>
    cases c with
    | change old new => exact hfirst _
    | same lines =>
      have hfollows : (⟨lines.length - contextSize, lines.length - contextSize, [.same (lastLines contextSize lines)]⟩ :
          Hunk).Follows 0 0 (lines.take (lines.length - contextSize)) := by
        constructor <;> simp
      have hrest := applyHunks_hunksFrom hfollows cs
      simpa [Hunk.old, Hunk.new, Chunk.old, Chunk.new, lastLines, ← List.append_assoc, hunks] using hrest

end

/-- Hunks that can be applied hold lines of both lists. -/
theorem mem_of_applyHunks {i j : Nat} {hs : List PatchHunk} {lines after : List String}
    (h : Patch.applyHunks i j hs lines = some after) :
    ∀ k ∈ hs, (∀ l ∈ k.old, l ∈ lines) ∧ ∀ l ∈ k.new, l ∈ after := by
  induction hs generalizing i j lines after with
  | nil => exact fun _ hk => (List.not_mem_nil hk).elim
  | cons k hs ih =>
    rw [Patch.applyHunks] at h
    split at h
    · next hcond =>
      obtain ⟨rest, hrest, rfl⟩ := Option.map_eq_some_iff.1 h
      refine List.forall_mem_cons.2 ⟨⟨fun l hl => ?_, fun l hl => ?_⟩, fun k' hk' => ⟨fun l hl => ?_, fun l hl => ?_⟩⟩
      · exact List.mem_of_mem_drop (hcond.2.2.2.subset hl)
      · exact List.mem_append_right _ (List.mem_append_left _ hl)
      · exact List.mem_of_mem_drop ((ih hrest k' hk').1 l hl)
      · exact List.mem_append_right _ (List.mem_append_right _ ((ih hrest k' hk').2 l hl))
    · cases h

/-! ## Lines of a written difference -/

theorem isTextLine_append {s : String} (h : IsLine s.toList) : IsTextLine (s ++ "\n") := by
  rw [IsTextLine, String.toList_append]
  exact h.isWhole

theorem isLine_toString (n : Nat) : IsLine (toString n).toList := by
  refine .of_tame (List.all_eq_true.2 fun c hc => ?_)
  rw [show (toString n).toList = Nat.toDigits 10 n from String.toList_ofList] at hc
  have hdigit : c.isDigit = true := Nat.isDigit_of_mem_toDigits (by decide) (by decide) hc
  exact isTame_of_isNameChar (isNameChar_of_isAlphanum (by rw [Char.isAlphanum, hdigit, Bool.or_true]))

theorem isLine_rangeText (start size : Nat) : IsLine (rangeText start size).toList := by
  rw [rangeText]
  split
  · exact isLine_toString _
  · rw [String.toList_append, String.toList_append]
    exact ((isLine_toString _).append (by decide)).append (isLine_toString _)

theorem isTextLine_headText (h : Hunk) : IsTextLine h.headText := by
  have hsplit : h.headText = ("@@ -" ++ rangeText h.oldStart h.oldSize ++ " +" ++ rangeText h.newStart h.newSize ++ " @@") ++
      "\n" := by
    rw [Hunk.headText, ← String.toList_inj]
    simp
  rw [hsplit]
  refine isTextLine_append ?_
  simp only [String.toList_append]
  exact (((IsLine.append (by decide) (isLine_rangeText _ _)).append (by decide)).append (isLine_rangeText _ _)).append
    (by decide)

/-- A marked line is a line of a text and begins with its mark. -/
theorem PatchLine.text_line {l : PatchLine} (h : ∀ line ∈ l.old ++ l.new, IsTextLine line) :
    IsTextLine l.text ∧ l.text.toList.head? ≠ some '\n' := by
  have hmark : ∀ mark line, isLineBreak mark = false → IsTextLine line →
      IsTextLine (String.singleton mark ++ line) ∧ (String.singleton mark ++ line).toList.head? ≠ some '\n' := by
    intro mark line hm hline
    have hchars : (String.singleton mark ++ line).toList = mark :: line.toList := by
      rw [String.toList_append, String.toList_singleton]
      rfl
    rw [IsTextLine, hchars]
    refine ⟨hline.cons hm, fun hhead => ?_⟩
    obtain rfl : mark = '\n' := Option.some.inj hhead
    cases hm
  cases l with
  | kept line => exact hmark ' ' line (by decide) (h line (by simp [old]))
  | removed line => exact hmark '-' line (by decide) (h line (by simp [old]))
  | added line => exact hmark '+' line (by decide) (h line (by simp [new]))

theorem Hunk.text_lines {h : Hunk} (hlines : ∀ line ∈ h.patch.old ++ h.patch.new, IsTextLine line) :
    ∀ line ∈ h.text, IsTextLine line ∧ line.toList.head? ≠ some '\n' := by
  rw [h.text_eq, List.forall_mem_cons]
  refine ⟨⟨isTextLine_headText h, ?_⟩, fun line hline => ?_⟩
  · rw [headText]
    simp only [String.toList_append, List.append_assoc]
    exact fun hhead => absurd (Option.some.inj hhead) (by decide)
  · obtain ⟨l, hl, rfl⟩ := List.mem_map.1 hline
    refine PatchLine.text_line fun line hmem => hlines line ?_
    rcases List.mem_append.1 hmem with hmem | hmem
    · exact List.mem_append_left _ (List.mem_flatMap.2 ⟨l, hl, hmem⟩)
    · exact List.mem_append_right _ (List.mem_flatMap.2 ⟨l, hl, hmem⟩)

/-! ## Differences -/

theorem name?_mark {mark name : String} (h : IsLine name.toList) :
    Patch.name? mark.toList (mark ++ name ++ "\n") = some name := by
  have hsplit : (mark ++ name ++ "\n").toList = mark.toList ++ (name.toList ++ ['\n']) := by
    rw [String.toList_append, String.toList_append, List.append_assoc]
    rfl
  rw [Patch.name?, hsplit, after?_append, Option.map_some, dropBreak_line h, String.ofList_toList]

section
variable {oldName newName old new : String}

/-- What is read is what was written. -/
theorem read_join (hold : IsLine oldName.toList) (hnew : IsLine newName.toList) {hs : List Hunk}
    (hlines : ∀ h ∈ hs, ∀ line ∈ h.patch.old ++ h.patch.new, IsTextLine line) :
    Patch.read (String.join (["--- " ++ oldName ++ "\n", "+++ " ++ newName ++ "\n"] ++ hs.flatMap Hunk.text)) =
      some ⟨oldName, newName, hs.map Hunk.patch⟩ := by
  have hname : ∀ mark name : String, IsLine mark.toList → mark.toList ≠ [] → IsLine name.toList →
      IsTextLine (mark ++ name ++ "\n") ∧ (mark ++ name ++ "\n").toList.head? ≠ some '\n' := by
    intro mark name hmark hne hline
    refine ⟨isTextLine_append (by rw [String.toList_append]; exact hmark.append hline), ?_⟩
    obtain ⟨c, cs, hcs⟩ := List.exists_cons_of_ne_nil hne
    rw [String.toList_append, String.toList_append, hcs]
    intro hhead
    obtain rfl : c = '\n' := Option.some.inj hhead
    exact absurd (hmark '\n' (by rw [hcs]; exact List.mem_cons_self)) (by decide)
  have hsplit : textLines (String.join (["--- " ++ oldName ++ "\n", "+++ " ++ newName ++ "\n"] ++ hs.flatMap Hunk.text)) =
      ["--- " ++ oldName ++ "\n", "+++ " ++ newName ++ "\n"] ++ hs.flatMap Hunk.text := by
    refine textLines_join fun line hline => ?_
    simp only [List.cons_append, List.nil_append, List.mem_cons, List.mem_flatMap] at hline
    rcases hline with rfl | rfl | ⟨h, hmem, hline⟩
    · exact hname _ _ (by decide) (by decide) hold
    · exact hname _ _ (by decide) (by decide) hnew
    · exact Hunk.text_lines (hlines h hmem) line hline
  have hcount : hs.length ≤ (hs.flatMap Hunk.text).length := by
    clear hlines hsplit
    induction hs with
    | nil => exact Nat.le_refl _
    | cons h hs ih =>
      rw [List.flatMap_cons, h.text_eq, List.length_append, List.length_cons, List.length_cons]
      omega
  rw [Patch.read, hsplit]
  simp only [List.cons_append, List.nil_append, name?_mark hold, name?_mark hnew, Patch.hunks?_text hs hcount]
  rfl

/-- A difference of two texts whose lines have breaks leads from the one to the other. -/
theorem unified_faithful (hnames : IsLine oldName.toList ∧ IsLine newName.toList) (hold : EndsWithBreak old.toList)
    (hnew : EndsWithBreak new.toList) (hne : old ≠ new) :
    unified oldName newName old new ≠ "" ∧ ∃ p, Patch.read (unified oldName newName old new) = some p ∧
      p.oldName = oldName ∧ p.newName = newName ∧ p.apply (textLines old) = some (textLines new) := by
  have happly := applyHunks_hunks (chunks (textLines old) (textLines new))
  rw [chunks_old, chunks_new] at happly
  have hlines : ∀ h ∈ hunks (chunks (textLines old) (textLines new)), ∀ line ∈ h.patch.old ++ h.patch.new,
      IsTextLine line := by
    intro h hh line hline
    obtain ⟨hmem, hmem'⟩ := mem_of_applyHunks happly h.patch (List.mem_map_of_mem hh)
    rcases List.mem_append.1 hline with hl | hl
    · exact isTextLine_of_mem hold (hmem line hl)
    · exact isTextLine_of_mem hnew (hmem' line hl)
  have hread := read_join hnames.1 hnames.2 hlines
  rw [unified]
  cases hhunks : hunks (chunks (textLines old) (textLines new)) with
  | nil =>
    -- without hunks the lines would be the same
    rw [hhunks] at happly
    exact absurd (textLines_inj (Option.some.inj happly)) hne
  | cons h hs =>
    rw [hhunks] at hread happly
    refine ⟨fun hempty => ?_, _, hread, rfl, rfl, happly⟩
    have hnone : Patch.read "" = none := rfl
    rw [show String.join _ = "" from hempty, hnone] at hread
    cases hread

end

end Suitewright.Diff
