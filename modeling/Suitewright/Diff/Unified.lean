/-
  The difference of two texts, written with some unchanged lines around each change.

  * `Chunk`: lines that stay, or lines that others replace; `Chunk.old` and `Chunk.new` are the two sides;
  * `chunks`: the chunks of two lists of lines, whose sides are the two lists;
  * `Hunk`: neighbouring changes with the lines around them, and where they begin;
  * `hunks`: the hunks of chunks, with at most three unchanged lines at their ends;
  * `unified`: the written difference.
-/
import Suitewright.Diff.Blocks
import Suitewright.Text.Line

namespace Suitewright.Diff

/-! ## Chunks -/

/-- A part of a difference. -/
inductive Chunk where
  /-- Lines that stay. -/
  | same (lines : List String)
  /-- Lines that are taken away, and lines that come in their place. -/
  | change (old new : List String)
  deriving Repr, DecidableEq, Inhabited

/-- The lines before the change. -/
def Chunk.old : Chunk → List String
  | same lines => lines
  | change old _ => old

/-- The lines after the change. -/
def Chunk.new : Chunk → List String
  | same lines => lines
  | change _ new => new

/-- Whether the chunk changes anything. -/
def Chunk.isChange : Chunk → Bool
  | same _ => false
  | change .. => true

/-- The change of one list of lines into another one, if there is any. -/
def changeOf (old new : List String) : List Chunk :=
  if old.isEmpty && new.isEmpty then [] else [.change old new]

/-- The chunks of two lists of lines of which `i` and `j` lines are already written. -/
def chunksFrom (i j : Nat) (old new : List String) : List Block → List Chunk
  | [] => changeOf old new
  | k :: ks =>
    changeOf (old.take (k.a - i)) (new.take (k.b - j)) ++
      .same ((old.drop (k.a - i)).take k.size) ::
        chunksFrom (k.a + k.size) (k.b + k.size) (old.drop (k.a - i + k.size)) (new.drop (k.b - j + k.size)) ks

/-- The chunks of two lists of lines. -/
def chunks (old new : List String) : List Chunk := chunksFrom 0 0 old new (matchingBlocks old new)

/-! ## Hunks -/

/-- Neighbouring chunks; `oldStart` and `newStart` lines come before them. -/
structure Hunk where
  /-- The number of lines before it in the first list. -/
  oldStart : Nat
  /-- The number of lines before it in the second list. -/
  newStart : Nat
  /-- Its chunks. -/
  body : List Chunk
  deriving Repr, DecidableEq, Inhabited

namespace Hunk

/-- The number of lines before the change. -/
def oldSize (h : Hunk) : Nat := (h.body.flatMap Chunk.old).length

/-- The number of lines after the change. -/
def newSize (h : Hunk) : Nat := (h.body.flatMap Chunk.new).length

/-- The hunk with one more chunk. -/
def push (h : Hunk) (c : Chunk) : Hunk := { h with body := h.body ++ [c] }

/-- The hunk as the only item, if it changes anything. -/
def toList (h : Hunk) : List Hunk := if h.body.any Chunk.isChange then [h] else []

end Hunk

/-- The number of unchanged lines around a change. -/
def contextSize : Nat := 3

/-- The last lines of a list. -/
def lastLines (n : Nat) (lines : List String) : List String := lines.drop (lines.length - n)

/-- The hunks of chunks, given the hunk that is being made. A long unchanged chunk ends it and begins the next
one. -/
def hunksFrom (h : Hunk) : List Chunk → List Hunk
  | [] => h.toList
  | .change old new :: cs => hunksFrom (h.push (.change old new)) cs
  | .same lines :: cs =>
    if cs.isEmpty then (h.push (.same (lines.take contextSize))).toList
    else if 2 * contextSize < lines.length then
      let done := h.push (.same (lines.take contextSize))
      let skipped := lines.length - 2 * contextSize
      done :: hunksFrom ⟨done.oldStart + done.oldSize + skipped, done.newStart + done.newSize + skipped,
        [.same (lastLines contextSize lines)]⟩ cs
    else hunksFrom (h.push (.same lines)) cs

/-- The hunks of the chunks of two lists of lines. -/
def hunks : List Chunk → List Hunk
  | .same lines :: cs =>
    let skipped := lines.length - contextSize
    hunksFrom ⟨skipped, skipped, [.same (lastLines contextSize lines)]⟩ cs
  | cs => hunksFrom ⟨0, 0, []⟩ cs

/-! ## The written difference -/

/-- Where lines are: the first line and their number, which is left out if it is one. Of no lines the line
before them is named. -/
def rangeText (start size : Nat) : String :=
  if size == 1 then toString (start + 1)
  else toString (if size == 0 then start else start + 1) ++ "," ++ toString size

/-- The lines of a chunk, each with its mark. -/
def Chunk.text : Chunk → List String
  | same lines => lines.map (" " ++ ·)
  | change old new => old.map ("-" ++ ·) ++ new.map ("+" ++ ·)

/-- The lines of a hunk. -/
def Hunk.text (h : Hunk) : List String :=
  ("@@ -" ++ rangeText h.oldStart h.oldSize ++ " +" ++ rangeText h.newStart h.newSize ++ " @@\n") ::
    h.body.flatMap Chunk.text

/-- The lines of a text with their breaks. -/
def textLines (text : String) : List String := (Text.linesKept text.toList).map .ofList

/-- The difference of two texts under their names; nothing if there is none. -/
def unified (oldName newName old new : String) : String :=
  match hunks (chunks (textLines old) (textLines new)) with
  | [] => ""
  | hs => String.join (["--- " ++ oldName ++ "\n", "+++ " ++ newName ++ "\n"] ++ hs.flatMap Hunk.text)

end Suitewright.Diff
