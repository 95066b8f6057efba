/-
  The texts of scalars, by the way they are written.

  * `plain`: without marks, over one or more lines;
  * `quoted`: between quotation marks, single or double, the latter with escapes;
  * `block`: as indented lines after a header, kept or folded.

  Each gives the text and the place after it.
-/
import Suitewright.Yaml.Cursor
import Suitewright.Yaml.Error

namespace Suitewright.Yaml

/-! ## Line ends between parts -/

/-- What line ends between two parts of a folded text stand for: the first one for a space, if it is alone and
a common one. -/
def foldBreaks (first later : List Char) : List Char :=
  if first != ['\n'] then first ++ later else if later.isEmpty then [' '] else later

/-! ## Plain scalars -/

/-- White space between the parts of a plain scalar. -/
structure PlainGap where
  /-- What it stands for. -/
  text : List Char
  /-- Whether it has a line end. -/
  broken : Bool
  /-- The place after it. -/
  next : Cursor
  deriving Repr, Inhabited

/-- The further line ends of a gap, at most `n` of them; nothing if a mark between documents follows. -/
def plainBreaks : (n : Nat) → Cursor → List Char → Option (List Char) × Cursor
  | 0, k, found => (some found, k)
  | n + 1, k, found =>
    let k := k.skipSpaces
    if k.atBreak then
      let (b, k) := k.lineBreak
      if k.atSeparator then (none, k) else plainBreaks n k (found ++ b)
    else (some found, k)

/-- The white space at a place. -/
def plainGap (k : Cursor) : PlainGap :=
  let (spaces, k) := k.span (· == ' ')
  if k.atBreak then
    let (first, k) := k.lineBreak
    if k.atSeparator then ⟨[], true, k⟩
    else match plainBreaks k.rest.length k [] with
      | (some later, k) => ⟨foldBreaks first later, true, k⟩
      | (none, k) => ⟨[], true, k⟩
  else ⟨spaces, false, k⟩

/-- The characters that end a plain scalar inside brackets and braces. -/
def isFlowMark (c : Char) : Bool := c == ',' || c == '[' || c == ']' || c == '\x7b' || c == '\x7d'

/-- The part of a plain scalar up to a gap, a comment's place or a mark. -/
def plainPart (inFlow : Bool) : List Char → List Char
  | [] => []
  | c :: cs =>
    let ends := isGap c ||
      (c == ':' && orEnd (fun d => isGap d || (inFlow && isFlowMark d)) cs.head?) ||
      (inFlow && (isFlowMark c || c == '?'))
    if ends then [] else c :: plainPart inFlow cs

/-- A scalar that has been read. -/
structure Reading where
  /-- Its text. -/
  text : List Char
  /-- Whether a line end was read after its last part. -/
  broken : Bool
  /-- The place after it. -/
  next : Cursor
  deriving Repr, Inhabited

/-- The rest of a plain scalar, of which `text` and a gap are read, in at most `n` parts. Its lines are indented
by at least `indent`, unless it is inside brackets. -/
def plainFrom (inFlow : Bool) (indent : Int) : (n : Nat) → (text gap : List Char) → (broken : Bool) → Cursor → Reading
  | 0, text, _, broken, k => ⟨text, broken, k⟩
  | n + 1, text, gap, broken, k =>
    if k.peek == some '#' then ⟨text, broken, k⟩
    else
      let part := plainPart inFlow k.rest
      if part.isEmpty then ⟨text, broken, k⟩
      else
        let text := text ++ gap ++ part
        let g := plainGap (k.steps part.length)
        if g.text.isEmpty || (!inFlow && (g.next.column : Int) < indent) then ⟨text, g.broken, g.next⟩
        else plainFrom inFlow indent n text g.text g.broken g.next

/-- A plain scalar. -/
def plain (inFlow : Bool) (indent : Int) (k : Cursor) : Reading :=
  plainFrom inFlow indent (k.rest.length + 1) [] [] false k

/-! ## Quoted scalars -/

/-- The character that an escape letter stands for. -/
def escapeLetter? (c : Char) : Option Char :=
  match c with
  | '0' => some '\x00'
  | 'a' => some '\x07'
  | 'b' => some '\x08'
  | 't' | '\t' => some '\t'
  | 'n' => some '\n'
  | 'v' => some '\x0b'
  | 'f' => some '\x0c'
  | 'r' => some '\r'
  | 'e' => some '\x1b'
  | ' ' => some ' '
  | '"' => some '"'
  | '\\' => some '\\'
  | '/' => some '/'
  | 'N' => some '\x85'
  | '_' => some '\xa0'
  | 'L' => some '\u2028'
  | 'P' => some '\u2029'
  | _ => none

/-- The number of hexadecimal digits after an escape letter. -/
def escapeDigits? (c : Char) : Option Nat :=
  match c with
  | 'x' => some 2
  | 'u' => some 4
  | 'U' => some 8
  | _ => none

/-- The character of a number; half of a pair counts as a replacement character. -/
def characterOf (code : Nat) : Except Error Char :=
  if 0x110000 ≤ code then .error (.noCharacter code)
  else .ok (if 0xD800 ≤ code && code < 0xE000 then '\uFFFD' else Char.ofNat code)

/-- The line ends and indentations after a line end in a quoted scalar, at most `n` of them. -/
def quotedBreaks : (n : Nat) → Cursor → List Char → Except Error (List Char × Cursor)
  | 0, k, found => .ok (found, k)
  | n + 1, k, found =>
    if k.atSeparator then .error .malformed
    else
      let k := k.skip fun c => c == ' ' || c == '\t'
      if k.atBreak then
        let (b, k) := k.lineBreak
        quotedBreaks n k (found ++ b)
      else .ok (found, k)

/-- The white space at a place in a quoted scalar: what it stands for. -/
def quotedGap (k : Cursor) : Except Error (List Char × Cursor) :=
  let (spaces, k) := k.span fun c => c == ' ' || c == '\t'
  if k.rest.isEmpty then .error .malformed
  else if k.atBreak then do
    let (first, k) := k.lineBreak
    let (later, k) ← quotedBreaks (k.rest.length + 1) k []
    return (foldBreaks first later, k)
  else .ok (spaces, k)

/-- The escape after a backslash. -/
def quotedEscape (k : Cursor) : Except Error (List Char × Cursor) :=
  match k.peek with
  | none => .error .malformed
  | some c =>
    match escapeLetter? c, escapeDigits? c with
    | some d, _ => .ok ([d], k.step)
    | none, some n => do
      let k := k.step
      let digits := k.rest.take n
      match digits.mapM (Number.digitIn? 16), digits.all fun d => d.toNat < 128 with
      | some values, true =>
        if values.length < n then .error .malformed
        else
          let d ← characterOf (values.foldl (fun v d => 16 * v + d) 0)
          return ([d], k.steps n)
      | _, _ => .error .malformed
    | none, none =>
      if isBreak c then
        let (_, k) := k.lineBreak
        quotedBreaks (k.rest.length + 1) k []
      else .error .malformed

/-- The rest of a quoted scalar, of which `text` is read, in at most `n` parts. -/
def quotedFrom (double : Bool) : (n : Nat) → (text : List Char) → Cursor → Except Error (List Char × Cursor)
  | 0, _, _ => .error .malformed
  | n + 1, text, k =>
    let (part, k) := k.span fun c => !(c == '\'' || c == '"' || c == '\\' || isGap c)
    let text := text ++ part
    match k.peek with
    | none => .error .malformed
    | some c =>
      if isGap c then do
        let (gap, k) ← quotedGap k
        quotedFrom double n (text ++ gap) k
      else if double then
        if c == '"' then .ok (text, k.step)
        else if c == '\\' then do
          let (part, k) ← quotedEscape k.step
          quotedFrom double n (text ++ part) k
        else quotedFrom double n (text ++ [c]) k.step
      else if c == '\'' then
        if k.peekSecond == some '\'' then quotedFrom double n (text ++ ['\'']) (k.steps 2)
        else .ok (text, k.step)
      else quotedFrom double n (text ++ [c]) k.step

/-- A quoted scalar, from its opening mark on. -/
def quoted (double : Bool) (k : Cursor) : Except Error (List Char × Cursor) :=
  quotedFrom double (k.rest.length + 1) [] k.step

/-! ## Block scalars -/

/-- What becomes of the line ends after the last line. -/
inductive Chomping where
  /-- They are dropped. -/
  | strip
  /-- One is kept. -/
  | clip
  /-- All are kept. -/
  | keep
  deriving Repr, DecidableEq, Inhabited

/-- The sign of a chomping. -/
def chomping? : Option Char → Option Chomping
  | some '+' => some .keep
  | some '-' => some .strip
  | _ => none

/-- The digit of an indentation. -/
def indentDigit? (k : Cursor) : Option Nat :=
  k.peek.bind fun c => if c.isDigit then some (c.toNat - 48) else none

/-- The signs of a block's header: what becomes of the last line ends, and the depth of its lines if it is
given. -/
def blockSigns (k : Cursor) : Except Error ((Chomping × Option Nat) × Cursor) := do
  let (signs, k) := match chomping? k.peek with
    | some c =>
      let k := k.step
      match indentDigit? k with
      | some d => ((c, some d), k.step)
      | none => ((c, none), k)
    | none =>
      match indentDigit? k with
      | some d =>
        let k := k.step
        match chomping? k.peek with
        | some c => ((c, some d), k.step)
        | none => ((.clip, some d), k)
      | none => ((.clip, none), k)
  if signs.2 == some 0 then .error .malformed
  else if k.nextIs fun c => c == ' ' || isBreak c then .ok (signs, k)
  else .error .malformed

/-- The rest of a line that may hold a comment. -/
def restOfLine (k : Cursor) : Except Error Cursor :=
  let k := k.skipSpaces.skipComment
  if k.nextIs isBreak then .ok k.lineBreak.2 else .error .malformed

/-- The leading line ends of a block without a given depth, and the depth of its deepest leading spaces. -/
def blockDepth : (n : Nat) → Cursor → List Char → Nat → (List Char × Nat) × Cursor
  | 0, k, found, depth => ((found, depth), k)
  | n + 1, k, found, depth =>
    if k.atBreak then
      let (b, k) := k.lineBreak
      blockDepth n k (found ++ b) depth
    else if k.peek == some ' ' then
      let k := k.step
      blockDepth n k found (max depth k.column)
    else ((found, depth), k)

/-- The line ends at a place in a block of a known depth, with the spaces up to the depth after each. -/
def blockBreaks (depth : Nat) : (n : Nat) → Cursor → List Char → List Char × Cursor
  | 0, k, found => (found, k)
  | n + 1, k, found =>
    let k := k.indentTo depth
    if k.atBreak then
      let (b, k) := k.lineBreak
      blockBreaks depth n k (found ++ b)
    else (found, k)

/-- The lines of a block from a place on, in at most `n` steps: their text, the last line end and those after
it. -/
def blockLines (folded : Bool) (depth : Nat) :
    (n : Nat) → (text breaks : List Char) → Cursor → (List Char × List Char × List Char) × Cursor
  | 0, text, breaks, k => ((text, [], breaks), k)
  | n + 1, text, breaks, k =>
    if k.column != depth || k.rest.isEmpty then ((text, [], breaks), k)
    else
      let isIndented (k : Cursor) : Bool := k.peek == some ' ' || k.peek == some '\t'
      let flush := !isIndented k
      let (line, k) := k.span fun c => !isBreak c
      let text := text ++ breaks ++ line
      let (last, k) := k.lineBreak
      let (breaks, k) := blockBreaks depth (k.rest.length + 1) k []
      if k.column == depth && !k.rest.isEmpty then
        let joint := if folded && last == ['\n'] && flush && !isIndented k then
          (if breaks.isEmpty then [' '] else []) else last
        blockLines folded depth n (text ++ joint) breaks k
      else ((text, last, breaks), k)

/-- A block scalar, from its sign on; `indent` is the depth of what it belongs to. -/
def block (folded : Bool) (indent : Int) (k : Cursor) : Except Error (List Char × Cursor) := do
  let ((chomping, given), k) ← blockSigns k.step
  let k ← restOfLine k
  let least := max 1 (indent + 1).toNat
  let (depth, breaks, k) := match given with
    | none =>
      let ((breaks, depth), k) := blockDepth (k.rest.length + 1) k [] 0
      (max least depth, breaks, k)
    | some d =>
      let depth := least + d - 1
      let (breaks, k) := blockBreaks depth (k.rest.length + 1) k []
      (depth, breaks, k)
  let ((text, last, later), k) := blockLines folded depth (k.rest.length + 1) [] breaks k
  return (match chomping with
    | .strip => text
    | .clip => text ++ last
    | .keep => text ++ last ++ later, k)

end Suitewright.Yaml
