/-
  Serving a stream of lines.

  * `InputLine`: a line of the input, which may be no text;
  * `Rpc.linesOfText`, `linesOfBytes`: the lines of an input; only a line feed ends one;
  * `Rpc.Server`: what gives the reply to a line; it may break down;
  * `Rpc.serve`: the replies to the lines, each on a line of its own.

  Blank lines, lines that are no text and lines on which the server breaks down are passed over.
-/
import Suitewright.Rpc.Answer
import Suitewright.Text.Line

namespace Suitewright.Rpc

/-- A line of the input with its line feed, or why it is no text. -/
abbrev InputLine := Except Utf8Error String

/-- The lines of a text. -/
def linesOfText (text : String) : List InputLine :=
  (Text.splitAfter '\n' text.toList).map fun cs => .ok (.ofList cs)

/-- The lines of bytes. -/
def linesOfBytes (bytes : List UInt8) : List InputLine := (Text.splitAfter 10 bytes).map Utf8.decode

/-- What gives the reply to a line, if it wants one. -/
abbrev Server := String → Work (Option Json)

/-- The server that calls tools. -/
def toolServerBy (o : Orchestrator) : Server := fun line => do
  let reply ← (answerLineBy o line : StateM Workspace (Option Reply))
  return reply.map Reply.toJson

/-- The server that calls tools, with the work on a project behind them. -/
def toolServer (limit : Int) : Server := toolServerBy (.standard limit)

/-- The root of the project that the call in a line names. -/
def rootNamed? (line : String) : Option String :=
  match Json.read line with
  | .ok v => do
    let arguments ← (← v.get? "params").get? "arguments"
    let root ← rootKeys.findSome? arguments.get?
    root.text.toOption
  | .error _ => none

/-- A record of this part of the program. -/
def streamNote (level : Level) (message : String) : StateM Workspace Unit :=
  modify fun w => { w with notes := w.notes ++ [⟨level, "stdio", message⟩] }

/-- What is written for a line. -/
def serveLine (server : Server) : InputLine → StateM Workspace String
  | .error e => do
    streamNote .warning ("Skipping undecodable line: " ++ e.message)
    return ""
  | .ok line => do
    if line.toList.all Text.isBlank then return ""
    match ← (server line).run with
    | .error _ =>
      streamNote .error "Skipping request that could not be handled"
      return ""
    | .ok none => return ""
    | .ok (some reply) => return reply.compact ++ "\n"

/-- What is written for lines. -/
def serveLines (server : Server) : List InputLine → StateM Workspace String
  | [] => return ""
  | line :: rest => do
    let out ← serveLine server line
    return out ++ (← serveLines server rest)

/-- The record at the beginning. -/
def openingNote : String := "Test generator server running on stdio"

/-- The record at the end. -/
def closingNote : String := "Input closed; shutting down"

/-- What is written for a whole input. -/
def serve (server : Server) (lines : List InputLine) : StateM Workspace String := do
  streamNote .info openingNote
  let out ← serveLines server lines
  streamNote .info closingNote
  return out

end Suitewright.Rpc
