/-
  The tokens of a document.

  * `Token`: a mark, a property or a scalar, and the beginnings and ends of collections that indentation shows;
  * `Lexer`: a place in the text with the open indentations and the possible keys;
  * `Token.ofText`: the tokens of a text, and the error that ended it too early.

  A scalar that a colon follows on its line is a key; the token that says so is put in front of it afterwards.
-/
import Suitewright.Yaml.ScalarText
import Suitewright.Text.Utf8

namespace Suitewright.Yaml

/-- The name of a tag: a handle that stands for a beginning, and the rest. -/
structure TagName where
  /-- The handle, if there is one. -/
  handle : Option String
  /-- The rest. -/
  suffix : String
  deriving Repr, DecidableEq, Inhabited

/-- An instruction before a document. -/
inductive Directive where
  /-- The version of the language. -/
  | version (major : Nat)
  /-- What a handle stands for. -/
  | tagHandle (handle start : String)
  /-- Any other one. -/
  | other
  deriving Repr, DecidableEq, Inhabited

/-- A token. -/
inductive Token where
  /-- An instruction. -/
  | directive (d : Directive)
  /-- The mark before a document. -/
  | documentStart
  /-- The mark after a document. -/
  | documentEnd
  /-- Indentation begins a list. -/
  | blockListStart
  /-- Indentation begins a mapping. -/
  | blockMapStart
  /-- Indentation ends a collection. -/
  | blockEnd
  /-- An opening bracket. -/
  | flowListStart
  /-- A closing bracket. -/
  | flowListEnd
  /-- An opening brace. -/
  | flowMapStart
  /-- A closing brace. -/
  | flowMapEnd
  /-- The dash of a list item. -/
  | blockEntry
  /-- A comma. -/
  | flowEntry
  /-- A key follows. -/
  | key
  /-- A value follows. -/
  | value
  /-- A reference to a node. -/
  | alias (name : String)
  /-- A name for the next node. -/
  | anchor (name : String)
  /-- A tag of the next node. -/
  | tag (name : TagName)
  /-- A scalar. -/
  | scalar (text : String) (plain : Bool)
  deriving Repr, DecidableEq, Inhabited

/-- A token that may turn out to be a key. -/
structure PossibleKey where
  /-- The number of tokens before it. -/
  number : Nat
  /-- Whether it cannot be anything else. -/
  required : Bool
  /-- The place where it begins. -/
  start : Cursor
  deriving Repr, Inhabited

/-- The state of reading tokens. -/
structure Lexer where
  /-- The place in the text. -/
  cursor : Cursor
  /-- The number of open brackets and braces. -/
  flow : Nat := 0
  /-- The depth of the innermost collection made by indentation, or `-1`. -/
  indent : Int := -1
  /-- The depths of those around it. -/
  outer : List Int := []
  /-- Whether a key may begin here. -/
  keyAllowed : Bool := true
  /-- The possible keys by the number of open brackets and braces around them. -/
  keys : List (Nat × PossibleKey) := []
  /-- The number of tokens. -/
  count : Nat := 0
  /-- The tokens, last first. -/
  tokens : List Token := []
  deriving Inhabited

namespace Lexer

/-! ## Tokens, keys and indentations -/

/-- Adds a token. -/
def push (t : Token) (l : Lexer) : Lexer := { l with tokens := t :: l.tokens, count := l.count + 1 }

/-- Puts a token in front of the one with a number. -/
def insert (number : Nat) (t : Token) (l : Lexer) : Lexer :=
  { l with tokens := l.tokens.insertIdx (l.count - number) t, count := l.count + 1 }

/-- Moves on. -/
def moveTo (k : Cursor) (l : Lexer) : Lexer := { l with cursor := k }

/-- The greatest number of characters of a key. -/
def maxKeyLength : Nat := 1024

/-- Whether a possible key cannot be one any more. -/
def isStale (l : Lexer) (key : PossibleKey) : Bool :=
  key.start.line != l.cursor.line || maxKeyLength < l.cursor.index - key.start.index

/-- Gives up the possible keys that cannot be keys any more. -/
def dropStaleKeys (l : Lexer) : Except Error Lexer :=
  if l.keys.any fun (_, key) => l.isStale key && key.required then .error .malformed
  else .ok { l with keys := l.keys.filter fun (_, key) => !l.isStale key }

/-- Gives up the possible key at this depth. -/
def dropKey (l : Lexer) : Except Error Lexer :=
  match l.keys.lookup l.flow with
  | some key =>
    if key.required then .error .malformed
    else .ok { l with keys := l.keys.filter (·.1 != l.flow) }
  | none => .ok l

/-- Remembers the next token as a possible key. -/
def saveKey (l : Lexer) : Except Error Lexer := do
  if !l.keyAllowed then return l
  let required := l.flow == 0 && l.indent == l.cursor.column
  let l ← l.dropKey
  return { l with keys := (l.flow, ⟨l.count, required, l.cursor⟩) :: l.keys }

/-- Ends the collections that are deeper than a column; `outer` holds the depths around the innermost one. -/
def closeTo (column : Int) : (outer : List Int) → Lexer → Lexer
  | [], l => if column < l.indent then { l with indent := -1, outer := [] }.push .blockEnd else l
  | o :: os, l =>
    if column < l.indent then closeTo column os ({ l with indent := o, outer := os }.push .blockEnd) else l

/-- Ends the collections that are deeper than a column, unless brackets are open. -/
def unwind (column : Int) (l : Lexer) : Lexer := if l.flow != 0 then l else closeTo column l.outer l

/-- Whether a collection at a column is deeper than the innermost one. -/
def isDeeper (l : Lexer) (column : Nat) : Bool := l.indent < column

/-- Begins a collection at a column. -/
def openAt (column : Nat) (l : Lexer) : Lexer := { l with indent := column, outer := l.indent :: l.outer }

/-! ## Between tokens -/

/-- Skips spaces, comments and line ends, at most `n` lines of them. -/
def skipGap : (n : Nat) → Lexer → Lexer
  | 0, l => l
  | n + 1, l =>
    let k := l.cursor.skipSpaces.skipComment
    if k.atBreak then
      skipGap n { l with cursor := k.lineBreak.2, keyAllowed := l.flow == 0 || l.keyAllowed }
    else { l with cursor := k }

/-- The mark at the very beginning of a text. -/
def skipMark (l : Lexer) : Lexer :=
  if l.cursor.index == 0 && l.cursor.peek == some '\uFEFF' then { l with cursor := l.cursor.step } else l

/-! ## Directives -/

/-- Letters, digits, hyphens and underscores. -/
def isNamePart (c : Char) : Bool := c.isAlphanum || c == '-' || c == '_'

/-- A space or the end of a line. -/
def isSpaceOrBreak (c : Char) : Bool := c == ' ' || isBreak c

/-- A number of a version. -/
def versionNumber (k : Cursor) : Except Error (Nat × Cursor) :=
  let (digits, k) := k.span Char.isDigit
  if digits.isEmpty then .error .malformed
  else .ok (digits.foldl (fun n c => 10 * n + (c.toNat - 48)) 0, k)

/-- A handle of tags. -/
def tagHandle (k : Cursor) : Except Error (String × Cursor) :=
  if k.peek != some '!' then .error .malformed
  else
    let k := k.step
    if k.peek == some ' ' then .ok ("!", k)
    else
      let (name, k) := k.span isNamePart
      if k.peek == some '!' then .ok (.ofList ('!' :: name ++ ['!']), k.step) else .error .malformed

/-- The characters of a tag. -/
def isTagChar (c : Char) : Bool := c.isAlphanum || "-;/?:@&=+$,_.!~*'()[]".toList.contains c

/-- A byte written as a percent sign and two hexadecimal digits. -/
def escapedByte? : List Char → Option UInt8
  | '%' :: a :: b :: _ =>
    match Number.digitIn? 16 a, Number.digitIn? 16 b with
    | some x, some y => if a.toNat < 128 && b.toNat < 128 then some (.ofNat (16 * x + y)) else none
    | _, _ => none
  | _ => none

/-- Bytes written so, at most `n` of them. -/
def escapedBytes : (n : Nat) → Cursor → List UInt8 × Cursor
  | 0, k => ([], k)
  | n + 1, k =>
    match escapedByte? k.rest with
    | some b =>
      let (bytes, k) := escapedBytes n (k.steps 3)
      (b :: bytes, k)
    | none => ([], k)

/-- The characters of a tag from a place on, in at most `n` parts. -/
def tagChars : (n : Nat) → (text : List Char) → Cursor → Except Error (List Char × Cursor)
  | 0, text, k => .ok (text, k)
  | n + 1, text, k =>
    let (part, k) := k.span isTagChar
    let text := text ++ part
    if k.peek == some '%' then
      let (bytes, k) := escapedBytes k.rest.length k
      match bytes, Utf8.decode bytes with
      | _ :: _, .ok s =>
        if k.peek == some '%' then .error .malformed else tagChars n (text ++ s.toList) k
      | _, _ => .error .malformed
    else .ok (text, k)

/-- The characters of a tag, at least one. -/
def tagText (k : Cursor) : Except Error (String × Cursor) := do
  let (text, k) ← tagChars (k.rest.length + 1) [] k
  if text.isEmpty then .error .malformed else return (.ofList text, k)

/-- What follows the name of a directive. -/
def directiveBody (name : List Char) (k : Cursor) : Except Error (Directive × Cursor) := do
  if name == "YAML".toList then
    let (major, k) ← versionNumber k.skipSpaces
    if k.peek != some '.' then .error .malformed
    else
      let (_, k) ← versionNumber k.step
      if k.nextIs isSpaceOrBreak then return (.version major, k) else .error .malformed
  else if name == "TAG".toList then
    let (handle, k) ← tagHandle k.skipSpaces
    if k.peek != some ' ' then .error .malformed
    else
      let (start, k) ← tagText k.skipSpaces
      if k.nextIs isSpaceOrBreak then return (.tagHandle handle start, k) else .error .malformed
  else return (.other, k.skip fun c => !isBreak c)

/-- A directive, from its percent sign on. -/
def directive (k : Cursor) : Except Error (Directive × Cursor) := do
  let (name, k) := k.step.span isNamePart
  if name.isEmpty || !k.nextIs isSpaceOrBreak then .error .malformed
  else
    let (d, k) ← directiveBody name k
    return (d, ← restOfLine k)

/-! ## Properties -/

/-- The characters that may follow the name of an anchor. -/
def endsAnchor (c : Char) : Bool := isGap c || "?:,]\x7d%@".toList.contains c || c == '\x60'

/-- The name of an anchor, after its sign. -/
def anchorName (k : Cursor) : Except Error (String × Cursor) :=
  let (name, k) := k.step.span isNamePart
  if name.isEmpty || !k.nextIs endsAnchor then .error .malformed else .ok (.ofList name, k)

/-- The name of a tag, from its exclamation mark on. -/
def tagName (k : Cursor) : Except Error (TagName × Cursor) := do
  let (name, k) ← (match k.peekSecond with
    | some '<' => do
      let (suffix, k) ← tagText (k.steps 2)
      if k.peek == some '>' then return (⟨none, suffix⟩, k.step) else .error .malformed
    | c =>
      if orEnd isGap c then return (⟨none, "!"⟩, k.step)
      else if ((k.rest.drop 1).takeWhile fun c => !isSpaceOrBreak c).contains '!' then do
        let (handle, k) ← tagHandle k
        let (suffix, k) ← tagText k
        return (⟨some handle, suffix⟩, k)
      else do
        let (suffix, k) ← tagText k.step
        return (⟨some "!", suffix⟩, k) : Except Error (TagName × Cursor))
  if k.nextIs isSpaceOrBreak then return (name, k) else .error .malformed

/-! ## Single tokens -/

/-- Reads a directive or a mark between documents, which ends all collections. -/
def betweenDocuments (read : Cursor → Except Error (Token × Cursor)) (l : Lexer) : Except Error Lexer := do
  let l ← (l.unwind (-1)).dropKey
  let (t, k) ← read l.cursor
  return { l with keyAllowed := false, cursor := k }.push t

/-- Reads an opening bracket or brace. -/
def openFlow (t : Token) (l : Lexer) : Except Error Lexer := do
  let l ← l.saveKey
  return { l with flow := l.flow + 1, keyAllowed := true, cursor := l.cursor.step }.push t

/-- Reads a closing bracket or brace. -/
def closeFlow (t : Token) (l : Lexer) : Except Error Lexer := do
  let l ← l.dropKey
  return { l with flow := l.flow - 1, keyAllowed := false, cursor := l.cursor.step }.push t

/-- Reads a comma. -/
def flowEntry (l : Lexer) : Except Error Lexer := do
  let l ← l.dropKey
  return { l with keyAllowed := true, cursor := l.cursor.step }.push .flowEntry

/-- Begins a collection of indentation at a column unless brackets are open or it is open already. -/
def begin (t : Token) (l : Lexer) : Except Error Lexer :=
  if l.flow != 0 then .ok l
  else if !l.keyAllowed then .error .malformed
  else if l.isDeeper l.cursor.column then .ok ((l.openAt l.cursor.column).push t)
  else .ok l

/-- Reads the dash of an item. -/
def blockEntry (l : Lexer) : Except Error Lexer := do
  let l ← l.begin .blockListStart
  let l ← { l with keyAllowed := true }.dropKey
  return (l.moveTo l.cursor.step).push .blockEntry

/-- Reads a question mark before a key. -/
def keyMark (l : Lexer) : Except Error Lexer := do
  let l ← l.begin .blockMapStart
  let l ← { l with keyAllowed := l.flow == 0 }.dropKey
  return (l.moveTo l.cursor.step).push .key

/-- Reads the colon before a value. -/
def valueMark (l : Lexer) : Except Error Lexer := do
  match l.keys.lookup l.flow with
  | some key =>
    let l := { l with keys := l.keys.filter (·.1 != l.flow) }.insert key.number .key
    let l := if l.flow == 0 && l.isDeeper key.start.column then
      (l.openAt key.start.column).insert key.number .blockMapStart else l
    return { l with keyAllowed := false, cursor := l.cursor.step }.push .value
  | none =>
    let l ← l.begin .blockMapStart
    let l ← { l with keyAllowed := l.flow == 0 }.dropKey
    return (l.moveTo l.cursor.step).push .value

/-- Reads a token that may be a key. -/
def keyLike (read : Lexer → Except Error (Token × Cursor)) (l : Lexer) : Except Error Lexer := do
  let l ← l.saveKey
  let (t, k) ← read l
  return { l with keyAllowed := false, cursor := k }.push t

/-- Reads a block scalar. -/
def blockScalar (folded : Bool) (l : Lexer) : Except Error Lexer := do
  let l ← { l with keyAllowed := true }.dropKey
  let (text, k) ← block folded l.indent l.cursor
  return (l.moveTo k).push (.scalar (.ofList text) false)

/-- Reads a plain scalar; after a line end at its end a key may begin. -/
def plainScalar (l : Lexer) : Except Error Lexer := do
  let l ← l.saveKey
  let r := plain (l.flow != 0) (l.indent + 1) l.cursor
  return { l with keyAllowed := r.broken, cursor := r.next }.push (.scalar (.ofList r.text) true)

/-! ## All tokens -/

/-- The characters with which no plain scalar begins, unless it goes on without a gap after some of them. -/
def isIndicator (c : Char) : Bool := isGap c || "-?:,[]\x7b\x7d#&*!|>'\"%@".toList.contains c || c == '\x60'

/-- Whether a plain scalar begins with a character before another one. -/
def beginsPlain (inFlow : Bool) (c : Char) (next : Option Char) : Bool :=
  !isIndicator c || (!orEnd isGap next && (c == '-' || (!inFlow && (c == '?' || c == ':'))))

/-- Reads the token that begins with a character. -/
def readToken (c : Char) (l : Lexer) : Except Error Lexer :=
  let k := l.cursor
  let inFlow := l.flow != 0
  let gapFollows := orEnd isGap k.peekSecond
  if c == '%' && k.column == 0 then
    l.betweenDocuments fun k => (directive k).map fun (d, k) => (.directive d, k)
  else if k.column == 0 && k.atMark ['-', '-', '-'] then
    l.betweenDocuments fun k => .ok (.documentStart, k.steps 3)
  else if k.column == 0 && k.atMark ['.', '.', '.'] then
    l.betweenDocuments fun k => .ok (.documentEnd, k.steps 3)
  else if c == '[' then l.openFlow .flowListStart
  else if c == '\x7b' then l.openFlow .flowMapStart
  else if c == ']' then l.closeFlow .flowListEnd
  else if c == '\x7d' then l.closeFlow .flowMapEnd
  else if c == ',' then l.flowEntry
  else if c == '-' && gapFollows then l.blockEntry
  else if c == '?' && (inFlow || gapFollows) then l.keyMark
  else if c == ':' && (inFlow || gapFollows) then l.valueMark
  else if c == '*' then l.keyLike fun l => (anchorName l.cursor).map fun (name, k) => (.alias name, k)
  else if c == '&' then l.keyLike fun l => (anchorName l.cursor).map fun (name, k) => (.anchor name, k)
  else if c == '!' then l.keyLike fun l => (tagName l.cursor).map fun (name, k) => (.tag name, k)
  else if c == '|' && !inFlow then l.blockScalar false
  else if c == '>' && !inFlow then l.blockScalar true
  else if c == '\'' || c == '"' then
    l.keyLike fun l => (quoted (c == '"') l.cursor).map fun (text, k) => (.scalar (.ofList text) false, k)
  else if beginsPlain inFlow c k.peekSecond then l.plainScalar
  else .error .malformed

/-- Skips to the next token and ends what its column ends. -/
def approach (l : Lexer) : Except Error Lexer := do
  let l := skipGap (l.cursor.rest.length + 1) l.skipMark
  let l ← l.dropStaleKeys
  return l.unwind l.cursor.column

/-- Ends all collections at the end of the text. -/
def finish (l : Lexer) : Except Error Lexer := (l.unwind (-1)).dropKey

/-- The tokens that are certain: those before the first possible key. -/
def certain (l : Lexer) : List Token :=
  l.tokens.reverse.take (l.keys.foldl (fun n (_, key) => min n key.number) l.count)

/-- Reads at most `n` tokens: all tokens, or the certain ones before an error. -/
def run : (n : Nat) → Lexer → List Token × Option Error
  | 0, l => (l.tokens.reverse, none)
  | n + 1, l =>
    match l.approach with
    | .error e => (l.certain, some e)
    | .ok l =>
      match l.cursor.peek with
      | none =>
        match l.finish with
        | .error e => (l.certain, some e)
        | .ok l => (l.tokens.reverse, none)
      | some c =>
        match l.readToken c with
        | .error e => (l.certain, some e)
        | .ok l => run n l

end Lexer

/-- The characters that a document may have. -/
def isAllowed (c : Char) : Bool :=
  let n := c.toNat
  n == 9 || n == 10 || n == 13 || (0x20 ≤ n && n ≤ 0x7E) || n == 0x85 || (0xA0 ≤ n && n ≤ 0xD7FF) ||
    (0xE000 ≤ n && n ≤ 0xFFFD) || 0x10000 ≤ n

/-- The tokens of a text, and the error that ended it too early. -/
def Token.ofText (text : String) : List Token × Option Error :=
  let cs := text.toList
  if cs.all isAllowed then Lexer.run (cs.length + 2) { cursor := ⟨cs, 0, 0, 0⟩ }
  else ([], some .malformed)

end Suitewright.Yaml
