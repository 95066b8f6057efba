/-
  File paths, handled as text alone.

  * `Path`: leading slashes and the segments after them, without empty and `.` segments;
  * `Path.name`, `stem`, `extension`, `parent`: the last segment, its two parts, and the path without it;
  * `Path.join`: a path read below another one; an absolute path replaces it;
  * `Path.resolveIn`: an absolute path without `..`, where `..` at the top stays at the top;
  * `Path.relativeTo?`: the segments below another path.
-/
import Suitewright.Text.Trim

namespace Suitewright

/-- A path: `slashes` leading ones (none, one or two) and segments. -/
structure Path where
  /-- The number of leading slashes. -/
  slashes : Nat := 0
  /-- The segments between the slashes. -/
  segments : List String := []
  deriving Repr, DecidableEq, Inhabited, Hashable

namespace Path

/-- The number of slashes kept of a leading run: exactly two are kept, any other run counts as one. -/
def keptSlashes (n : Nat) : Nat := if n == 2 then 2 else if n == 0 then 0 else 1

/-- The path that a text denotes. -/
def ofText (text : String) : Path :=
  let cs := text.toList
  { slashes := keptSlashes (cs.takeWhile (· == '/')).length
    segments := (Text.runsOf (· != '/') cs |>.map String.ofList).filter (· != ".") }

/-- The path of a source file, in which backslashes count as slashes. -/
def ofSource (text : String) : Path :=
  .ofText (.ofList (text.toList.map fun c => if c == '\\' then '/' else c))

/-- The path as text; the empty path is `.`. -/
def toText (p : Path) : String :=
  if p.slashes == 0 && p.segments.isEmpty then "."
  else String.ofList (List.replicate p.slashes '/') ++ "/".intercalate p.segments

/-- Whether the path begins at the top. -/
def isAbsolute (p : Path) : Bool := p.slashes != 0

/-- The last segment, or nothing at all. -/
def name (p : Path) : String := p.segments.getLast?.getD ""

/-- The path without its last segment. -/
def parent (p : Path) : Path := { p with segments := p.segments.dropLast }

/-- Splits a file name before its last point, unless the point is at an end of the name. -/
def splitName (name : String) : String × String :=
  let cs := name.toList
  let extension := (cs.reverse.takeWhile (· != '.')).reverse
  let stem := cs.take (cs.length - extension.length - 1)
  if extension.length < cs.length && !extension.isEmpty && !stem.isEmpty then
    (.ofList stem, .ofList ('.' :: extension))
  else (name, "")

/-- The file name without its extension. -/
def stem (p : Path) : String := (splitName p.name).1

/-- The extension with its point, or nothing. -/
def extension (p : Path) : String := (splitName p.name).2

/-- The second path read below the first; an absolute one replaces it. -/
def join (p q : Path) : Path :=
  if q.isAbsolute then q else { p with segments := p.segments ++ q.segments }

/-- The path of a text below a path. -/
def child (p : Path) (text : String) : Path := p.join (ofText text)

/-- Carries out `..` in segments, given the segments before them, last first. -/
def normalize (done : List String) : List String → List String
  | [] => done.reverse
  | s :: rest => if s == ".." then normalize done.tail rest else normalize (s :: done) rest

/-- The absolute path that `p` denotes in the directory `here`; it has one leading slash. -/
def resolveIn (here p : Path) : Path := { slashes := 1, segments := normalize [] (here.join p).segments }

/-- The path from `base` down to `p`, if `p` is below it. -/
def relativeTo? (p base : Path) : Option Path :=
  if p.slashes == base.slashes && base.segments.isPrefixOf p.segments then
    some { slashes := 0, segments := p.segments.drop base.segments.length }
  else none

/-- The directories above a path, outermost first; the top is not among them. -/
def ancestors (p : Path) : List Path :=
  (List.range p.segments.length).drop 1 |>.map fun n => { p with segments := p.segments.take n }

end Path

end Suitewright
