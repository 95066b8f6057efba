/-
  Patterns of syntax, and reading a source by them.

  * `Pattern`: tokens and lexemes, sequences, ordered alternatives, repetitions and looks ahead, with the nodes
    that they build;
  * `Branch`: a node of what was read, with its extent;
  * `Pattern.run`: reads a source by a pattern from a place on. Each rule is tried once at each place, so
    reading takes time in proportion to the length of the source.

  A comment belongs to the innermost node that has tokens on both of its sides.
-/
import Suitewright.Script.Lexeme
import Suitewright.Tree.Node
import Std.Data.HashMap

namespace Suitewright.Script

/-- A pattern over the rules `R`. -/
inductive Pattern (R : Type) where
  /-- Fixed signs, not followed by one of the characters of `barred`. -/
  | token (text : String) (barred : String)
  /-- Fixed signs directly after the last token. -/
  | raw (text : String)
  /-- A fixed word. -/
  | keyword (text : String)
  /-- A lexeme. -/
  | lexeme (kind : Lexeme)
  /-- Patterns one after another. -/
  | seq (parts : List (Pattern R))
  /-- The first of several patterns that matches. -/
  | alt (choices : List (Pattern R))
  /-- A pattern as often as it matches. -/
  | many (p : Pattern R)
  /-- A pattern, if it matches. -/
  | opt (p : Pattern R)
  /-- A pattern that matches from here on, without reading it. -/
  | ahead (p : Pattern R)
  /-- A pattern that does not match from here on. -/
  | notAhead (p : Pattern R)
  /-- The next token is on this line. -/
  | sameLine
  /-- The next token is on another line. -/
  | newLine
  /-- No token is left. -/
  | atEnd
  /-- Any one character after the gap. -/
  | anyChar
  /-- A node around what a pattern reads. -/
  | node (kind : String) (named : Bool) (p : Pattern R)
  /-- What a pattern reads fills a field. -/
  | field (name : String) (p : Pattern R)
  /-- A pattern, and then tails as often as one matches; each tail makes a node around all before it. -/
  | grow (base : Pattern R) (tails : List (Pattern R))
  /-- A tail: the kind of its node, the field that what comes before fills, and what it reads. -/
  | tail (kind : String) (field : String) (p : Pattern R)
  /-- A rule. -/
  | rule (r : R)
  deriving Inhabited

/-- A node of what was read: its kind, field, standing and extent. -/
inductive Branch where
  /-- A node with its children. -/
  | node (kind : String) (field : Option String) (named : Bool) (start stop : Nat) (children : List Branch)
  deriving Inhabited

namespace Branch

/-- The kind of comments. -/
def commentKind : String := "comment"

/-- A comment. -/
def comment (extent : Nat × Nat) : Branch := node commentKind none true extent.1 extent.2 []

/-- Whether a node is a comment. -/
def isComment : Branch → Bool
  | node kind .. => kind == commentKind

/-- Where a node begins. -/
def start : Branch → Nat
  | node _ _ _ start _ _ => start

/-- Lets a node fill a field; a comment fills none. -/
def setField (name : String) : Branch → Branch
  | node kind field named start stop children =>
    if kind == commentKind then node kind field named start stop children
    else node kind (some name) named start stop children

mutual

/-- The syntax tree of a node. -/
def toTree (s : Source) : Branch → Tree
  | node kind field named start stop children =>
    .node { kind := .ok kind, text := s.slice start stop, field, named } (toTrees s children)

/-- The syntax trees of nodes. -/
def toTrees (s : Source) : List Branch → List Tree
  | [] => []
  | b :: bs => toTree s b :: toTrees s bs

end

end Branch

/-- What a pattern read: where it ends, where its first token begins, and its nodes. -/
structure Match where
  /-- The place after the last token. -/
  stop : Nat
  /-- The place of the first token, if there is one. -/
  start : Option Nat := none
  /-- The nodes, in order. -/
  items : List Branch := []
  deriving Inhabited

namespace Match

/-- Two matches one after another. -/
def append (a b : Match) : Match where
  stop := b.stop
  start := a.start.or b.start
  items := a.items ++ b.items

/-- The comments before the first token, and the other nodes. -/
def split (m : Match) : List Branch × List Branch :=
  match m.start with
  | some start => m.items.partition fun b => b.isComment && b.start < start
  | none => ([], m.items)

/-- A node around a match; the comments before it stay outside. -/
def wrap (kind : String) (named : Bool) (m : Match) : Match :=
  match m.start with
  | some start =>
    let (before, inside) := m.split
    { m with items := before ++ [.node kind none named start m.stop inside] }
  | none => { m with items := [.node kind none named m.stop m.stop m.items] }

/-- Lets the nodes of a match fill a field. -/
def setField (name : String) (m : Match) : Match :=
  if name.isEmpty then m else { m with items := m.items.map (Branch.setField name) }

/-- A match of a token between two places, after the gap from `from_` on. -/
def token (s : Source) (from_ start stop : Nat) : Match where
  stop := stop
  start := some start
  items := (s.comments (start - from_) from_ start).map Branch.comment

end Match

/-- The results of the rules at the places where they were tried. -/
abbrev Memo (R : Type) [BEq R] [Hashable R] := Std.HashMap (R × Nat) (Option Match)

section
variable {R : Type} [BEq R] [Hashable R]

/-- A reader: from a place on, with the results known so far. -/
abbrev Reader (R : Type) [BEq R] [Hashable R] := Nat → StateM (Memo R) (Option Match)

namespace Reader

/-- Patterns one after another, after what was read. -/
def inOrder (read : Pattern R → Reader R) : List (Pattern R) → Match → StateM (Memo R) (Option Match)
  | [], done => return some done
  | p :: ps, done => do
    match ← read p done.stop with
    | some m => inOrder read ps (done.append m)
    | none => return none

/-- The first pattern that matches. -/
def firstOf (read : Pattern R → Reader R) : List (Pattern R) → Reader R
  | [], _ => return none
  | p :: ps, i => do
    match ← read p i with
    | some m => return some m
    | none => firstOf read ps i

/-- One reader as often as it gets on, after what was read. -/
def repeated (read : Reader R) : Nat → Match → StateM (Memo R) (Option Match)
  | 0, done => return some done
  | fuel + 1, done => do
    match ← read done.stop with
    | some m => if m.stop ≤ done.stop then return some done else repeated read fuel (done.append m)
    | none => return some done

/-- The first tail that matches after what was read, with its node around all. -/
def firstTail (read : Pattern R → Reader R) (done : Match) :
    List (Pattern R) → StateM (Memo R) (Option Match)
  | [] => return none
  | .tail kind field p :: ps => do
    match ← read p done.stop with
    | some m => return some (((done.setField field).append m).wrap kind true)
    | none => firstTail read done ps
  | _ :: ps => firstTail read done ps

/-- Tails as often as one matches, after what was read. -/
def growing (read : Pattern R → Reader R) (tails : List (Pattern R)) :
    Nat → Match → StateM (Memo R) (Option Match)
  | 0, done => return some done
  | fuel + 1, done => do
    match ← firstTail read done tails with
    | some m => if m.stop ≤ done.stop then return some done else growing read tails fuel m
    | none => return some done

end Reader

namespace Pattern

/-- Reads fixed signs. -/
def readToken (s : Source) (text barred : String) (i : Nat) : Option Match :=
  let start := s.gapEnd i
  let stop := start + text.length
  if s.hasChars start text.toList && !(s.get? stop).any barred.toList.contains then
    some (.token s i start stop)
  else none

/-- Reads a lexeme. -/
def readLexeme (s : Source) (kind : Lexeme) (i : Nat) : Option Match :=
  let start := if kind.isRaw then i else s.gapEnd i
  (kind.read? s start).map (.token s i start)

/-- Reads a fixed word. -/
def readKeyword (s : Source) (text : String) (i : Nat) : Option Match :=
  let start := s.gapEnd i
  let stop := start + text.length
  if s.hasChars start text.toList && !(s.get? stop).any isNamePart then some (.token s i start stop)
  else none

/-- Reads a source by a pattern from a place on. -/
def run (s : Source) (rules : R → Pattern R) : (fuel : Nat) → Pattern R → Reader R
  | 0, _, _ => return none
  | fuel + 1, p, i =>
    match p with
    | token text barred => return readToken s text barred i
    | raw text =>
      return if s.hasChars i text.toList then some { stop := i + text.length, start := some i } else none
    | keyword text => return readKeyword s text i
    | lexeme kind => return readLexeme s kind i
    | seq parts => Reader.inOrder (run s rules fuel) parts { stop := i }
    | alt choices => Reader.firstOf (run s rules fuel) choices i
    | many p => Reader.repeated (run s rules fuel p) (s.size + 1) { stop := i }
    | opt p => return some ((← run s rules fuel p i).getD { stop := i })
    | ahead p => return (← run s rules fuel p i).map fun _ => { stop := i }
    | notAhead p => return if (← run s rules fuel p i).isSome then none else some { stop := i }
    | sameLine => return if s.breakInGap i then none else some { stop := i }
    | newLine => return if s.breakInGap i then some { stop := i } else none
    | atEnd => return if s.size ≤ s.gapEnd i then some { stop := i } else none
    | anyChar =>
      let start := s.gapEnd i
      return if start < s.size then some (.token s i start (start + 1)) else none
    | node kind named p => return (← run s rules fuel p i).map (Match.wrap kind named)
    | field name p => return (← run s rules fuel p i).map (Match.setField name)
    | grow base tails => do
      match ← run s rules fuel base i with
      | some m => Reader.growing (run s rules fuel) tails (s.size + 1) m
      | none => return none
    | tail kind _ p => return (← run s rules fuel p i).map (Match.wrap kind true)
    | rule r => do
      match (← get).get? (r, i) with
      | some known => return known
      | none =>
        let m ← run s rules fuel (rules r) i
        modify (·.insert (r, i) m)
        return m

end Pattern

end

end Suitewright.Script
