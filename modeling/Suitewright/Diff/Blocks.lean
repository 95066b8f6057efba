/-
  Common blocks of two lists of lines.

  * `Block`: a run of lines that both lists have;
  * `longestBlock`: the longest run in a window of both lists, the first of several;
  * `matchingBlocks`: the blocks found by cutting both lists at the longest run again and again, in order.

  In a long list, lines that occur very often begin no run; they only lengthen runs of other lines.
-/
namespace Suitewright.Diff

/-- A run of `size` lines at `a` in the first list and at `b` in the second one. -/
structure Block where
  /-- Where it begins in the first list. -/
  a : Nat
  /-- Where it begins in the second list. -/
  b : Nat
  /-- The number of its lines. -/
  size : Nat
  deriving Repr, DecidableEq, Inhabited

/-- A window of both lists: the lines from `aFrom` up to `aTo`, and from `bFrom` up to `bTo`. -/
structure Window where
  /-- Where the window of the first list begins. -/
  aFrom : Nat
  /-- Where the window of the first list ends. -/
  aTo : Nat
  /-- Where the window of the second list begins. -/
  bFrom : Nat
  /-- Where the window of the second list ends. -/
  bTo : Nat
  deriving Repr, DecidableEq, Inhabited

/-! ## Candidates -/

/-- The number of lines from which on frequent lines are left out. -/
def longList : Nat := 200

/-- Whether a line with so many occurrences in a list is too frequent to begin a run. -/
def isFrequent (length occurrences : Nat) : Bool := longList ≤ length && length / 100 + 1 < occurrences

/-- The places of a line in a list. -/
def placesOf (line : String) (lines : List String) : List Nat :=
  (lines.zipIdx.filter fun (l, _) => l == line).map (·.2)

/-- For each line of the first list, the places in the second one where a run may go through it. -/
def candidates (old new : List String) : Array (List Nat) :=
  (old.map fun line =>
    let places := placesOf line new
    if isFrequent new.length places.length then [] else places).toArray

/-! ## The longest block -/

/-- The lengths of the runs that end at a line of the first list: the place after their end in the second one,
and the length. -/
abbrev Runs := List (Nat × Nat)

/-- The runs that end at line `i`, from those that end at the line before, and the longest run so far. -/
def stepRuns (i : Nat) (w : Window) (before : Runs) : List Nat → Block → Runs × Block
  | [], best => ([], best)
  | j :: js, best =>
    if j < w.bFrom then stepRuns i w before js best
    else if w.bTo ≤ j then ([], best)
    else
      let k := (before.lookup j).getD 0 + 1
      let best := if best.size < k then ⟨i + 1 - k, j + 1 - k, k⟩ else best
      let (runs, best) := stepRuns i w before js best
      ((j + 1, k) :: runs, best)

/-- The longest run that ends in the next `n` lines from line `i` on. -/
def scanRuns (places : Array (List Nat)) (w : Window) : (n i : Nat) → Runs → Block → Block
  | 0, _, _, best => best
  | n + 1, i, runs, best =>
    let (runs, best) := stepRuns i w runs (places[i]?.getD []) best
    scanRuns places w n (i + 1) runs best

/-- Lengthens a block upwards by at most `n` lines. -/
def growUp (old new : Array String) (w : Window) : Nat → Block → Block
  | 0, k => k
  | n + 1, k =>
    if w.aFrom < k.a && w.bFrom < k.b && old[k.a - 1]? == new[k.b - 1]? then
      growUp old new w n ⟨k.a - 1, k.b - 1, k.size + 1⟩
    else k

/-- Lengthens a block downwards by at most `n` lines. -/
def growDown (old new : Array String) (w : Window) : Nat → Block → Block
  | 0, k => k
  | n + 1, k =>
    if k.a + k.size < w.aTo && k.b + k.size < w.bTo && old[k.a + k.size]? == new[k.b + k.size]? then
      growDown old new w n ⟨k.a, k.b, k.size + 1⟩
    else k

/-- The longest block in a window; of several the one that begins first in the first list, then in the
second. -/
def longestBlock (old new : Array String) (places : Array (List Nat)) (w : Window) : Block :=
  let found := scanRuns places w (w.aTo - w.aFrom) w.aFrom [] ⟨w.aFrom, w.bFrom, 0⟩
  growDown old new w (w.aTo - w.aFrom) (growUp old new w (w.aTo - w.aFrom) found)

/-! ## All blocks -/

/-- The blocks of a window, found by cutting it at its longest block at most `n` times deep. -/
def blocksIn (old new : Array String) (places : Array (List Nat)) : Nat → Window → List Block
  | 0, _ => []
  | n + 1, w =>
    let k := longestBlock old new places w
    if k.size == 0 then []
    else
      let above := if w.aFrom < k.a && w.bFrom < k.b then
        blocksIn old new places n ⟨w.aFrom, k.a, w.bFrom, k.b⟩ else []
      let below := if k.a + k.size < w.aTo && k.b + k.size < w.bTo then
        blocksIn old new places n ⟨k.a + k.size, w.aTo, k.b + k.size, w.bTo⟩ else []
      above ++ k :: below

/-- Puts a block in front of others, joined with the first one if they touch. -/
def consBlock (k : Block) : List Block → List Block
  | [] => [k]
  | l :: ls => if k.a + k.size == l.a && k.b + k.size == l.b then ⟨k.a, k.b, k.size + l.size⟩ :: ls else k :: l :: ls

/-- The common blocks of two lists of lines, in order. -/
def matchingBlocks (old new : List String) : List Block :=
  let w : Window := ⟨0, old.length, 0, new.length⟩
  (blocksIn old.toArray new.toArray (candidates old new) (old.length + 1) w).foldr consBlock []

end Suitewright.Diff
