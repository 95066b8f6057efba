/-
  The nodes of a document.

  * `Tag`: what a node is meant to be;
  * `Node`: a scalar, a list or a mapping with its tag; nodes refer to each other by number, so that one node can
    stand in several places, even inside itself;
  * `Document`: the nodes of a document, its root and the order in which the nodes are complete;
  * `Document.ofText`: the document of a text.
-/
import Suitewright.Yaml.Implicit
import Suitewright.Yaml.Token

namespace Suitewright.Yaml

/-- What a node consists of. -/
inductive Content where
  /-- A text. -/
  | scalar (text : String)
  /-- Items. -/
  | list (items : List Nat)
  /-- Keys with values. -/
  | map (pairs : List (Nat × Nat))
  deriving Repr, DecidableEq, Inhabited

/-- A node. -/
structure Node where
  /-- What it is meant to be. -/
  tag : Tag
  /-- What it consists of. -/
  content : Content
  deriving Repr, DecidableEq, Inhabited

/-- A document. -/
structure Document where
  /-- The nodes by number. -/
  nodes : Array Node
  /-- The numbers in the order in which the nodes are complete. -/
  order : List Nat
  /-- The number of the root. -/
  root : Nat
  deriving Inhabited

/-! ## Reading nodes -/

/-- The state of reading nodes. -/
structure Composer where
  /-- The tokens that follow. -/
  tokens : List Token
  /-- The error after the tokens. -/
  fault : Option Error
  /-- What the handles of tags stand for. -/
  handles : List (String × String) := []
  /-- The nodes so far. -/
  nodes : Array Node := #[]
  /-- The numbers of the complete nodes, last first. -/
  order : List Nat := []
  /-- The numbers of the named nodes. -/
  anchors : List (String × Nat) := []
  deriving Inhabited

/-- Reading something from the tokens. -/
abbrev Compose := StateT Composer (Except Error)

namespace Compose

/-- The document is not well-formed. -/
def malformed {α : Type} : Compose α := throw .malformed

/-- The next token, if there is one. -/
def peek : Compose (Option Token) := do
  let s ← get
  match s.tokens, s.fault with
  | t :: _, _ => return some t
  | [], none => return none
  | [], some e => throw e

/-- Passes over the next token. -/
def skip : Compose Unit := modify fun s => { s with tokens := s.tokens.drop 1 }

/-- Whether the next token is a certain one. -/
def nextIs (t : Token) : Compose Bool := do return (← peek) == some t

/-- Whether the next token is among certain ones. -/
def nextAmong (ts : List Token) : Compose Bool := do return (← peek).any ts.contains

/-- Passes over a certain token, which must come next. -/
def expect (t : Token) : Compose Unit := do if ← nextIs t then skip else malformed

/-- Passes over a certain token, if it comes next. -/
def accept (t : Token) : Compose Bool := do
  if ← nextIs t then
    skip
    return true
  else return false

/-- The anchor and the tag in front of a node. -/
structure Properties where
  /-- The name of the node. -/
  anchor : Option String := none
  /-- The name of the tag. -/
  tag : Option TagName := none

/-- Reads the anchor and the tag in front of a node, in either order. -/
def properties : Compose Properties := do
  match ← peek with
  | some (.anchor name) =>
    skip
    match ← peek with
    | some (.tag tag) =>
      skip
      return { anchor := some name, tag := some tag }
    | _ => return { anchor := some name }
  | some (.tag tag) =>
    skip
    match ← peek with
    | some (.anchor name) =>
      skip
      return { anchor := some name, tag := some tag }
    | _ => return { tag := some tag }
  | _ => return {}

/-- The full name of a tag. -/
def fullTag : Option TagName → Compose (Option String)
  | none => return none
  | some ⟨none, suffix⟩ => return some suffix
  | some ⟨some handle, suffix⟩ => do
    match (← get).handles.lookup handle with
    | some start => return some (start ++ suffix)
    | none => malformed

/-- Makes place for a node and gives it its name. -/
def begin (anchor : Option String) : Compose Nat := do
  let s ← get
  match anchor with
  | some name =>
    if (s.anchors.lookup name).isSome then malformed
    else set { s with anchors := (name, s.nodes.size) :: s.anchors, nodes := s.nodes.push default }
  | none => set { s with nodes := s.nodes.push default }
  return s.nodes.size

/-- Completes a node. -/
def complete (id : Nat) (node : Node) : Compose Nat := do
  modify fun s => { s with nodes := s.nodes.set! id node, order := id :: s.order }
  return id

/-- The tag of a collection. -/
def collectionTag (byDefault : Tag) (name : Option String) : Tag :=
  match name with
  | none => byDefault
  | some name => if name == "!" then byDefault else .ofName name

/-- The tag of a scalar: without a tag a plain one is judged by its text, and with the tag of one exclamation
mark every one is. -/
def scalarTag (name : Option String) (plain : Bool) (text : String) : Tag :=
  match name with
  | none => if plain then implicitTag text.toList else .str
  | some name => if name == "!" then implicitTag text.toList else .ofName name

/-- A scalar node. -/
def scalarNode (anchor name : Option String) (plain : Bool) (text : String) : Compose Nat := do
  complete (← begin anchor) ⟨scalarTag name plain text, .scalar text⟩

/-- A scalar that is not written at all. -/
def emptyNode : Compose Nat := scalarNode none none true ""

/-- A scalar that is not written at all, if one of certain tokens comes next; else what is read. -/
def orEmpty (ends : List Token) (read : Compose Nat) : Compose Nat := do
  if ← nextAmong ends then emptyNode else read

/-- Reads items up to an end, at most `n`. -/
def collect {α : Type} (item? : Compose (Option α)) : (n : Nat) → List α → Compose (List α)
  | 0, found => return found.reverse
  | n + 1, found => do
    match ← item? with
    | some x => collect item? n (x :: found)
    | none => return found.reverse

/-- An item of a list made by indentation. -/
def blockItem (node : Compose Nat) : Compose (Option Nat) := do
  if ← accept .blockEntry then return some (← orEmpty [.blockEntry, .blockEnd] node)
  else
    expect .blockEnd
    return none

/-- An item of a list that is as deep as the key before it. -/
def flushItem (node : Compose Nat) : Compose (Option Nat) := do
  if ← accept .blockEntry then return some (← orEmpty [.blockEntry, .key, .value, .blockEnd] node)
  else return none

/-- A key of a mapping made by indentation, with its value. -/
def blockPair (node : Compose Nat) : Compose (Option (Nat × Nat)) := do
  let part := orEmpty [.key, .value, .blockEnd] node
  if ← accept .key then
    let k ← part
    let v ← if ← accept .value then part else emptyNode
    return some (k, v)
  else
    expect .blockEnd
    return none

/-- The comma before an item between brackets, unless the item is the first one. -/
def comma (first : Bool) : Compose Unit := if first then return else expect .flowEntry

/-- A key and a value between brackets, after the mark of the key. -/
def flowKeyValue (ends : List Token) (node : Compose Nat) : Compose (Nat × Nat) := do
  let k ← orEmpty (.value :: ends) node
  let v ← if ← accept .value then orEmpty ends node else emptyNode
  return (k, v)

/-- An item of a list between brackets. -/
def flowItem (node : Compose Nat) (first : Bool) : Compose (Option Nat) := do
  if ← accept .flowListEnd then return none
  comma first
  if ← accept .key then
    let id ← begin none
    let pair ← flowKeyValue [.flowEntry, .flowListEnd] node
    return some (← complete id ⟨.map, .map [pair]⟩)
  else if ← accept .flowListEnd then return none
  else return some (← node)

/-- A key between braces, with its value. -/
def flowPair (node : Compose Nat) (first : Bool) : Compose (Option (Nat × Nat)) := do
  if ← accept .flowMapEnd then return none
  comma first
  if ← accept .key then return some (← flowKeyValue [.flowEntry, .flowMapEnd] node)
  else if ← accept .flowMapEnd then return none
  else
    let k ← node
    return some (k, ← emptyNode)

/-- Reads the items of a collection, of which the first one has no comma before it. -/
def collectFlow {α : Type} (item? : Bool → Compose (Option α)) (n : Nat) : Compose (List α) := do
  match ← item? true with
  | some x => collect (item? false) n [x]
  | none => return []

/-- Reads a node of at most the given depth. Indentation makes collections if `inBlock`, and a list may be as
deep as what it belongs to if `flush`. -/
def node : (depth : Nat) → (inBlock flush : Bool) → Compose Nat
  | 0, _, _ => malformed
  | n + 1, inBlock, flush => do
    match ← peek with
    | some (.alias name) =>
      skip
      match (← get).anchors.lookup name with
      | some id => return id
      | none => malformed
    | _ =>
      let p ← properties
      let name ← fullTag p.tag
      let size := (← get).tokens.length
      let blockNode := node n true false
      let pairNode := node n true true
      let flowNode := node n false false
      match ← peek with
      | some .blockEntry =>
        if flush then
          let id ← begin p.anchor
          complete id ⟨collectionTag .seq name, .list (← collect (flushItem blockNode) size [])⟩
        else bare p name
      | some (.scalar text plain) =>
        skip
        scalarNode p.anchor name plain text
      | some .flowListStart =>
        skip
        let id ← begin p.anchor
        complete id ⟨collectionTag .seq name, .list (← collectFlow (flowItem flowNode) size)⟩
      | some .flowMapStart =>
        skip
        let id ← begin p.anchor
        complete id ⟨collectionTag .map name, .map (← collectFlow (flowPair flowNode) size)⟩
      | some .blockListStart =>
        if inBlock then
          skip
          let id ← begin p.anchor
          complete id ⟨collectionTag .seq name, .list (← collect (blockItem blockNode) size [])⟩
        else bare p name
      | some .blockMapStart =>
        if inBlock then
          skip
          let id ← begin p.anchor
          complete id ⟨collectionTag .map name, .map (← collect (blockPair pairNode) size [])⟩
        else bare p name
      | _ => bare p name
where
  /-- A node of which only the properties are written. -/
  bare (p : Properties) (name : Option String) : Compose Nat :=
    if p.anchor.isSome || p.tag.isSome then scalarNode p.anchor name true "" else malformed

/-! ## Documents -/

/-- Reads the directives before a document. -/
def directives : (n : Nat) → (version : Bool) → Compose Unit
  | 0, _ => return
  | n + 1, version => do
    match ← peek with
    | some (.directive d) =>
      skip
      match d with
      | .version major => if version || major != 1 then malformed else directives n true
      | .tagHandle handle start =>
        let s ← get
        if (s.handles.lookup handle).isSome then malformed
        else
          set { s with handles := (handle, start) :: s.handles }
          directives n version
      | .other => directives n version
    | _ => return

/-- The handles that need no directive. -/
def standardHandles : List (String × String) := [("!", "!"), ("!!", "tag:yaml.org,2002:")]

/-- Adds the handles that need no directive. -/
def addStandardHandles : Compose Unit :=
  modify fun s => { s with handles := s.handles ++ standardHandles }

/-- Reads the only document, if there is one. -/
def document : Compose (Option Nat) := do
  let size := (← get).tokens.length
  match ← peek with
  | none => return none
  | some (.directive _) | some .documentStart =>
    directives size false
    addStandardHandles
    expect .documentStart
    match ← peek with
    | some (.directive _) | some .documentStart | some .documentEnd | none =>
      let root ← emptyNode
      finish size
      return some root
    | _ =>
      let root ← node (size + 1) true false
      finish size
      return some root
  | some _ =>
    addStandardHandles
    let root ← node (size + 1) true false
    finish size
    return some root
where
  /-- Passes over the marks after the document; nothing may follow them. -/
  finish : Nat → Compose Unit
    | 0 => return
    | n + 1 => do
      if ← accept .documentEnd then finish n
      else if (← peek).isSome then malformed

end Compose

/-- The document of a text; nothing if it has no document. -/
def Document.ofText (text : String) : Except Error (Option Document) := do
  let (tokens, fault) := Token.ofText text
  let (root, s) ← Compose.document.run { tokens, fault }
  return root.map fun root => { nodes := s.nodes, order := s.order.reverse, root }

end Suitewright.Yaml
