/-
  Reading a written difference and applying it.

  * `Patch`: the names and the hunks of a difference; `Patch.read`: what a text says, where the numbers in the heads of
    hunks tell how many lines belong to them;
  * `Patch.apply`: the lines after the patch, if every line that it keeps or removes stands where it says;
  * `Hunk.patch`, `hunks?_text`: reading gives back the hunks that were written.
-/
import Suitewright.Diff.Unified
import Suitewright.Proofs.Text.Breaks

namespace Suitewright.Diff

open Text

/-- A line of a hunk. -/
inductive PatchLine where
  /-- A line of both lists. -/
  | kept (line : String)
  /-- A line of the first list. -/
  | removed (line : String)
  /-- A line of the second list. -/
  | added (line : String)
  deriving Repr, DecidableEq

/-- The line, if it belongs to the first list. -/
def PatchLine.old : PatchLine → List String
  | kept line | removed line => [line]
  | added _ => []

/-- The line, if it belongs to the second list. -/
def PatchLine.new : PatchLine → List String
  | kept line | added line => [line]
  | removed _ => []

/-- A hunk as it is read. -/
structure PatchHunk where
  /-- The number of lines before it in the first list. -/
  oldBefore : Nat
  /-- The number of lines before it in the second list. -/
  newBefore : Nat
  /-- Its lines. -/
  body : List PatchLine
  deriving Repr, DecidableEq

/-- The lines of a hunk in the first list. -/
def PatchHunk.old (h : PatchHunk) : List String := h.body.flatMap PatchLine.old

/-- The lines of a hunk in the second list. -/
def PatchHunk.new (h : PatchHunk) : List String := h.body.flatMap PatchLine.new

/-- A difference as it is read. -/
structure Patch where
  /-- The name of the first text. -/
  oldName : String
  /-- The name of the second text. -/
  newName : String
  /-- Its hunks. -/
  hunks : List PatchHunk
  deriving Repr, DecidableEq

namespace Patch

/-! ## Reading -/

/-- A number in decimal digits. -/
def number? (cs : List Char) : Option (Nat × List Char) :=
  (run? Char.isDigit cs).map fun (digits, rest) => (Nat.ofDigitChars 10 digits 0, rest)

/-- How many lines come before some lines, and how many they are. The first line is named, or the line before no lines;
a single line is not counted. -/
def range? (cs : List Char) : Option ((Nat × Nat) × List Char) := do
  let (first, rest) ← number? cs
  match after? [','] rest with
  | none => return ((first - 1, 1), rest)
  | some rest =>
    let (size, rest) ← number? rest
    return ((if size = 0 then first else first - 1, size), rest)

/-- The ranges in the head of a hunk. -/
def head? (cs : List Char) : Option ((Nat × Nat) × (Nat × Nat)) := do
  let rest ← after? "@@ -".toList cs
  let (old, rest) ← range? rest
  let rest ← after? " +".toList rest
  let (new, rest) ← range? rest
  if rest = " @@\n".toList then return (old, new) else none

/-- What a line of a hunk says. -/
def line? (text : String) : Option PatchLine :=
  match text.toList with
  | ' ' :: cs => some (.kept (.ofList cs))
  | '-' :: cs => some (.removed (.ofList cs))
  | '+' :: cs => some (.added (.ofList cs))
  | _ => none

/-- The lines of a hunk, of which `n` belong to the first list and `m` to the second one, and what is left. -/
def body? : (n m : Nat) → List String → Option (List PatchLine × List String)
  | n, m, [] => if n = 0 ∧ m = 0 then some ([], []) else none
  | n, m, text :: texts =>
    if n = 0 ∧ m = 0 then some ([], text :: texts)
    else do
      let l ← line? text
      if l.old.length ≤ n ∧ l.new.length ≤ m then
        let (body, rest) ← body? (n - l.old.length) (m - l.new.length) texts
        return (l :: body, rest)
      else none

/-- At most `n` hunks, up to the end of the lines. -/
def hunks? : (n : Nat) → List String → Option (List PatchHunk)
  | _, [] => some []
  | 0, _ :: _ => none
  | n + 1, line :: lines => do
    let ((oldBefore, oldSize), (newBefore, newSize)) ← head? line.toList
    let (body, rest) ← body? oldSize newSize lines
    let hs ← hunks? n rest
    return ⟨oldBefore, newBefore, body⟩ :: hs

/-- The name after a mark. -/
def name? (mark : List Char) (line : String) : Option String :=
  (after? mark line.toList).map fun cs => .ofList (dropBreak cs)

/-- What a text says. -/
def read (text : String) : Option Patch :=
  match textLines text with
  | first :: second :: lines => do
    let oldName ← name? "--- ".toList first
    let newName ← name? "+++ ".toList second
    let hunks ← hunks? lines.length lines
    return ⟨oldName, newName, hunks⟩
  | _ => none

/-! ## Applying -/

/-- The lines after some hunks, where `i` lines of the first list and `j` lines of the second one come before. -/
def applyHunks : (i j : Nat) → List PatchHunk → List String → Option (List String)
  | _, _, [], lines => some lines
  | i, j, h :: hs, lines =>
    let skipped := h.oldBefore - i
    if i ≤ h.oldBefore ∧ h.newBefore = j + skipped ∧ skipped ≤ lines.length ∧ h.old <+: lines.drop skipped then
      (applyHunks (h.oldBefore + h.old.length) (h.newBefore + h.new.length) hs
        (lines.drop (skipped + h.old.length))).map fun rest => lines.take skipped ++ (h.new ++ rest)
    else none

/-- The lines after a patch. -/
def apply (p : Patch) (lines : List String) : Option (List String) := applyHunks 0 0 p.hunks lines

end Patch

/-! ## What was written -/

/-- A line as it is written. -/
def PatchLine.text : PatchLine → String
  | kept line => " " ++ line
  | removed line => "-" ++ line
  | added line => "+" ++ line

/-- The lines of a chunk. -/
def Chunk.patchLines : Chunk → List PatchLine
  | same lines => lines.map .kept
  | change old new => old.map .removed ++ new.map .added

/-- A hunk as it is read. -/
def Hunk.patch (h : Hunk) : PatchHunk := ⟨h.oldStart, h.newStart, h.body.flatMap Chunk.patchLines⟩

/-- The head of a hunk. -/
def Hunk.headText (h : Hunk) : String :=
  "@@ -" ++ rangeText h.oldStart h.oldSize ++ " +" ++ rangeText h.newStart h.newSize ++ " @@\n"

theorem Chunk.text_eq (c : Chunk) : c.text = c.patchLines.map PatchLine.text := by
  cases c with
  | same lines => rw [text, patchLines, List.map_map]; rfl
  | change old new => rw [text, patchLines, List.map_append, List.map_map, List.map_map]; rfl

theorem Chunk.patchLines_old (c : Chunk) : c.patchLines.flatMap PatchLine.old = c.old := by
  cases c with
  | same lines => simp [patchLines, List.flatMap_map, PatchLine.old, old]
  | change old new => simp [patchLines, List.flatMap_map, PatchLine.old, Chunk.old]

theorem Chunk.patchLines_new (c : Chunk) : c.patchLines.flatMap PatchLine.new = c.new := by
  cases c with
  | same lines => simp [patchLines, List.flatMap_map, PatchLine.new, new]
  | change old new => simp [patchLines, List.flatMap_map, PatchLine.new, Chunk.new]

theorem Hunk.patch_old (h : Hunk) : h.patch.old = h.body.flatMap Chunk.old := by
  rw [PatchHunk.old, Hunk.patch, List.flatMap_assoc]
  exact congrArg (List.flatMap · h.body) (funext Chunk.patchLines_old)

theorem Hunk.patch_new (h : Hunk) : h.patch.new = h.body.flatMap Chunk.new := by
  rw [PatchHunk.new, Hunk.patch, List.flatMap_assoc]
  exact congrArg (List.flatMap · h.body) (funext Chunk.patchLines_new)

theorem Hunk.text_eq (h : Hunk) : h.text = h.headText :: h.patch.body.map PatchLine.text := by
  rw [Hunk.text, Hunk.patch, List.map_flatMap]
  exact congrArg (h.headText :: List.flatMap · h.body) (funext Chunk.text_eq)

namespace Patch

theorem number?_toString (n : Nat) {rest : List Char} (hrest : rest.head?.all (fun c => !c.isDigit) = true) :
    number? ((toString n).toList ++ rest) = some (n, rest) := by
  have hdigits : (toString n).toList = Nat.toDigits 10 n := by
    show (Nat.repr n).toList = _
    rw [Nat.repr, String.toList_ofList]
  have hne : (toString n).toList ≠ [] := by
    rw [hdigits]
    exact Nat.toDigits_ne_nil
  have hall : ∀ c ∈ (toString n).toList, c.isDigit = true := fun c hc =>
    Nat.isDigit_of_mem_toDigits (by decide) (by decide) (hdigits ▸ hc)
  rw [number?, run?_append hne hall hrest, Option.map_some]
  dsimp only
  rw [hdigits, Nat.ofDigitChars_ten_toDigits]

theorem range?_rangeText (start size : Nat) {rest : List Char}
    (hrest : rest.head?.all (fun c => !c.isDigit && c != ',') = true) :
    range? ((rangeText start size).toList ++ rest) = some ((start, size), rest) := by
  have hdigit : rest.head?.all (fun c => !c.isDigit) = true := by
    cases rest with
    | nil => rfl
    | cons c rest => exact (Bool.and_eq_true_iff.1 hrest).1
  rw [rangeText]
  by_cases hone : size = 1
  · subst hone
    have hcomma : after? [','] rest = none := by
      cases rest with
      | nil => rfl
      | cons c rest =>
        have hc : c ≠ ',' := by simpa using (Bool.and_eq_true_iff.1 hrest).2
        rw [after?, if_neg (by simpa using hc.symm)]
    rw [if_pos (beq_self_eq_true 1), range?, number?_toString _ hdigit, Option.bind_eq_bind, Option.bind_some]
    dsimp only
    rw [hcomma]
    rfl
  · have hsplit : ∀ n : Nat, (toString n ++ "," ++ toString size).toList ++ rest =
        (toString n).toList ++ ([','] ++ ((toString size).toList ++ rest)) := fun n => by
      rw [String.toList_append, String.toList_append, List.append_assoc, List.append_assoc]
      rfl
    rw [if_neg (by simpa using hone), range?, hsplit, number?_toString _ rfl, Option.bind_eq_bind, Option.bind_some]
    dsimp only
    rw [after?_append]
    dsimp only
    rw [number?_toString _ hdigit, Option.bind_some]
    by_cases hzero : size = 0
    · subst hzero
      rfl
    · simp [hzero]

theorem line?_text (l : PatchLine) : line? l.text = some l := by
  have hmark : ∀ mark line, (String.singleton mark ++ line).toList = mark :: line.toList := fun mark line => by
    rw [String.toList_append, String.toList_singleton]
    rfl
  cases l with
  | kept line =>
    rw [line?, show (PatchLine.kept line).text.toList = _ from hmark ' ' line]
    exact congrArg (fun text => some (PatchLine.kept text)) String.ofList_toList
  | removed line =>
    rw [line?, show (PatchLine.removed line).text.toList = _ from hmark '-' line]
    exact congrArg (fun text => some (PatchLine.removed text)) String.ofList_toList
  | added line =>
    rw [line?, show (PatchLine.added line).text.toList = _ from hmark '+' line]
    exact congrArg (fun text => some (PatchLine.added text)) String.ofList_toList

theorem body?_text (ls : List PatchLine) (rest : List String) :
    body? (ls.flatMap PatchLine.old).length (ls.flatMap PatchLine.new).length (ls.map PatchLine.text ++ rest) =
      some (ls, rest) := by
  induction ls with
  | nil => cases rest <;> rfl
  | cons l ls ih =>
    have hsome : ¬ ((List.flatMap PatchLine.old (l :: ls)).length = 0 ∧ (List.flatMap PatchLine.new (l :: ls)).length = 0) := by
      cases l <;> simp [PatchLine.old, PatchLine.new]
    rw [List.map_cons, List.cons_append, body?, if_neg hsome, line?_text, Option.bind_eq_bind, Option.bind_some,
      List.flatMap_cons, List.flatMap_cons, List.length_append, List.length_append,
      if_pos ⟨Nat.le_add_right _ _, Nat.le_add_right _ _⟩, Nat.add_sub_cancel_left, Nat.add_sub_cancel_left, ih]
    rfl

theorem head?_headText (h : Hunk) :
    head? h.headText.toList = some ((h.oldStart, h.oldSize), (h.newStart, h.newSize)) := by
  have hsplit : h.headText.toList = "@@ -".toList ++ ((rangeText h.oldStart h.oldSize).toList ++
      (" +".toList ++ ((rangeText h.newStart h.newSize).toList ++ " @@\n".toList))) := by
    rw [Hunk.headText]
    simp only [String.toList_append, List.append_assoc]
  rw [head?, hsplit, after?_append, Option.bind_eq_bind, Option.bind_some, range?_rangeText _ _ (by rfl),
    Option.bind_eq_bind, Option.bind_some]
  dsimp only
  rw [after?_append, Option.bind_some, range?_rangeText _ _ (by decide), Option.bind_some]
  dsimp only
  rw [if_pos rfl]
  rfl

theorem hunks?_text (hs : List Hunk) {n : Nat} (hn : hs.length ≤ n) :
    hunks? n (hs.flatMap Hunk.text) = some (hs.map Hunk.patch) := by
  induction hs generalizing n with
  | nil => cases n <;> rfl
  | cons h hs ih =>
    obtain ⟨n, rfl⟩ : ∃ n', n = n' + 1 := Nat.exists_eq_add_one_of_ne_zero (by rw [List.length_cons] at hn; omega)
    have hsizes : h.oldSize = (h.patch.body.flatMap PatchLine.old).length ∧
        h.newSize = (h.patch.body.flatMap PatchLine.new).length :=
      ⟨congrArg List.length h.patch_old.symm, congrArg List.length h.patch_new.symm⟩
    rw [List.flatMap_cons, Hunk.text_eq, List.cons_append, hunks?, head?_headText, Option.bind_eq_bind, Option.bind_some]
    dsimp only
    rw [hsizes.1, hsizes.2, body?_text, Option.bind_eq_bind, Option.bind_some]
    dsimp only
    rw [ih (Nat.le_of_succ_le_succ hn)]
    rfl

end Patch

/-! ## Lines of a difference -/

/-- A line of a text, with its break. -/
def IsTextLine (line : String) : Prop := IsWhole line.toList

theorem toList_join (ls : List String) : (String.join ls).toList = (ls.map String.toList).flatten := by
  have hfold : ∀ s : String, (ls.foldl (· ++ ·) s).toList = s.toList ++ (ls.map String.toList).flatten := by
    induction ls with
    | nil => simp
    | cons l ls ih => simp [ih]
  exact (hfold "").trans (List.nil_append _)

theorem textLines_join {ls : List String} (h : ∀ l ∈ ls, IsTextLine l ∧ l.toList.head? ≠ some '\n') :
    textLines (String.join ls) = ls := by
  have hchars : linesKept (ls.map String.toList).flatten = ls.map String.toList := by
    refine linesKept_flatten fun l hl => ?_
    obtain ⟨line, hline, rfl⟩ := List.mem_map.1 hl
    exact h line hline
  rw [textLines, toList_join, hchars, List.map_map]
  exact (List.map_congr_left fun l _ => String.ofList_toList).trans (List.map_id _)

theorem textLines_toList (text : String) : (textLines text).map String.toList = linesKept text.toList := by
  rw [textLines, List.map_map]
  exact (List.map_congr_left fun l _ => String.toList_ofList).trans (List.map_id _)

theorem join_textLines (text : String) : String.join (textLines text) = text := by
  rw [← String.toList_inj, toList_join, textLines_toList, flatten_linesKept]

theorem isTextLine_of_mem {text line : String} (h : EndsWithBreak text.toList) (hline : line ∈ textLines text) :
    IsTextLine line :=
  isWhole_of_mem h _ (textLines_toList text ▸ List.mem_map_of_mem hline)

theorem textLines_inj {text text' : String} (h : textLines text = textLines text') : text = text' := by
  rw [← join_textLines text, h, join_textLines]

end Suitewright.Diff
