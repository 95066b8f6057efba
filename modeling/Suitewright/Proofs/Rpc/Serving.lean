/-
  Serving a stream line by line.

  * `toolServerBy_unread`: a tool server takes no notice of the journal, if the work behind its tools does not;
  * `Rpc.replyTo`: what a server gives for a line;
  * `Rpc.Idle`: lines that come to nothing, as they are no text, blank, no value or break the server down;
  * `Rpc.serve_line_by_line`: the output is the replies, one a line and in order; a line that comes to nothing can be
    left out; an input can be served in parts; and a text is served as its bytes are.
-/
import Suitewright.Proofs.Json.ReadBack
import Suitewright.Proofs.Loop.Unread
import Suitewright.Proofs.Text.Bytes
import Suitewright.Rpc.Stream

namespace Suitewright.Rpc

variable {o : Orchestrator} {server : Server} {w w' : Workspace}

open Unread

/-! ## Tool servers -/

/-- The work behind the tools takes no notice of the journal. -/
structure Orchestrator.IsUnread (o : Orchestrator) : Prop where
  analyze : ∀ file root, Unread (o.analyze file root).run
  generate : ∀ order, Unread (o.generate order).run
  read : ∀ file root, Unread (o.read file root).run

theorem standard_unread (limit : Int) : (Orchestrator.standard limit).IsUnread where
  analyze := analyzeComponent_unread
  generate := generate_unread limit
  read := readComponent_unread

theorem note_unread (level : Level) (message : String) : Unread (note level message) := add _

theorem run_unread (ho : o.IsUnread) (q : ToolRequest) : Unread (q.run o).run := by
  cases q with
  | analyze file root => exact compositional.bind (ho.analyze file root) fun _ => compositional.pure _
  | generate order => exact compositional.bind (ho.generate order) fun _ => compositional.pure _
  | read file root => exact compositional.bind (ho.read file root) fun _ => compositional.pure _

theorem callTool_unread (ho : o.IsUnread) (params : List (String × Json)) : Unread (callTool o params) := by
  unfold callTool
  split
  · exact pure _
  split
  · exact pure _
  refine bind (note_unread _ _) fun _ => ?_
  split
  · exact pure _
  refine bind (run_unread ho _) fun r => ?_
  cases r with
  | error e => exact pure _
  | ok text => exact pure _

theorem carryOut_unread (ho : o.IsUnread) (r : Request) : Unread (r.carryOut o) :=
  ite (pure _) (ite (pure _) (ite (pure _) (ite (callTool_unread ho _) (pure _))))

theorem reply_unread (ho : o.IsUnread) (id : Id) (r : Request) : Unread (r.reply o id) := by
  refine bind (carryOut_unread ho r) fun result => ?_
  cases result with
  | ok fields => exact pure _
  | error e =>
    cases e with
    | work e => exact bind (note_unread _ _) fun _ => pure _
    | _ => exact pure _

theorem answerBy_unread (ho : o.IsUnread) (v : Json) : Unread (answerBy o v) := by
  unfold answerBy
  split
  · exact bind (note_unread _ _) fun _ => pure _
  split
  · exact bind (note_unread _ _) fun _ => pure _
  · exact bind (reply_unread ho _ _) fun _ => pure _

/-- A tool server takes no notice of the journal. -/
theorem toolServerBy_unread (ho : o.IsUnread) (line : String) : Unread (toolServerBy o line).run := by
  have hline : Unread (answerLineBy o line) := by
    unfold answerLineBy
    split
    · exact answerBy_unread ho _
    · exact bind (note_unread _ _) fun _ => pure _
  exact compositional.bind (work_lift hline) fun _ => compositional.pure _

/-! ## Lines -/

/-- What a server gives for a line: nothing if the line is no text, is blank, or breaks the server down. -/
def replyTo (server : Server) : InputLine → StateM Workspace (Option Json)
  | .error _ => return none
  | .ok line => do
    if line.toList.all Text.isBlank then return none
    match ← (server line).run with
    | .error _ => return none
    | .ok reply => return reply

/-- What a server gives for lines, each as the lines before it have left the workspace. -/
def repliesTo (server : Server) (lines : List InputLine) : StateM Workspace (List (Option Json)) :=
  lines.mapM (replyTo server)

/-- What is written for a reply. -/
def lineOf : Option Json → String
  | none => ""
  | some v => v.compact ++ "\n"

/-- What is written for replies. -/
def written (replies : List (Option Json)) : String := replies.foldr (fun reply out => lineOf reply ++ out) ""

section
variable (hserver : ∀ line, Unread (server line).run)
include hserver

theorem serveLine_agree (line : InputLine) :
    Agree (serveLine server line) (do return lineOf (← replyTo server line)) := by
  cases line with
  | error e => exact fun _ _ hbare => ⟨rfl, hbare⟩
  | ok line =>
    unfold serveLine replyTo
    dsimp only
    split
    · exact fun _ _ hbare => ⟨rfl, hbare⟩
    · rw [bind_assoc]
      refine Agree.bind (hserver line) fun r => ?_
      match r with
      | .error e => exact fun _ _ hbare => ⟨rfl, hbare⟩
      | .ok none => exact fun _ _ hbare => ⟨rfl, hbare⟩
      | .ok (some v) => exact fun _ _ hbare => ⟨rfl, hbare⟩

/-- What is written for lines is what is written for the replies to them. -/
theorem serveLines_agree (lines : List InputLine) :
    Agree (serveLines server lines) (do return written (← repliesTo server lines)) := by
  induction lines with
  | nil => exact fun _ _ hbare => ⟨rfl, hbare⟩
  | cons line lines ih =>
    have hreplies : (do return written (← repliesTo server (line :: lines)) : StateM Workspace String) = (do
        let out ← (do return lineOf (← replyTo server line))
        let more ← (do return written (← repliesTo server lines))
        return out ++ more) := by
      simp only [repliesTo, List.mapM_cons, bind_assoc, pure_bind]
      rfl
    rw [hreplies]
    exact Agree.bind (serveLine_agree hserver line) fun out => Agree.bind ih fun more => Unread.pure _

/-- The records at the beginning and at the end are all that serving adds. -/
theorem serve_agree (lines : List InputLine) : Agree (serve server lines) (serveLines server lines) := by
  intro w w' hbare
  have hlines : Agree (serveLines server lines) (serveLines server lines) :=
    (serveLines_agree hserver lines).trans (serveLines_agree hserver lines).symm
  have hopening : Workspace.bare { w with notes := w.notes ++ [⟨.info, "stdio", openingNote⟩] } = w'.bare := hbare
  exact ⟨(hlines hopening).result, (hlines hopening).left⟩

end

theorem serveLines_append (xs ys : List InputLine) : serveLines server (xs ++ ys) = (do
    let out ← serveLines server xs
    return out ++ (← serveLines server ys)) := by
  induction xs with
  | nil =>
    rw [List.nil_append, serveLines, pure_bind]
    simp only [String.empty_append, bind_pure]
  | cons line xs ih =>
    rw [List.cons_append, serveLines, serveLines, ih]
    simp only [bind_assoc, pure_bind, String.append_assoc]

/-- Lines that come to nothing: they are no text, blank, no value for a server of tools, or the server breaks down on
them before it has changed anything. -/
inductive Idle (server : Server) (w : Workspace) : InputLine → Prop
  | undecodable (e : Utf8Error) : Idle server w (.error e)
  | blank {line : String} : line.toList.all Text.isBlank = true → Idle server w (.ok line)
  | noValue {line : String} {o : Orchestrator} {e : ReadError} : server line = toolServerBy o line →
      Json.read line = .error e → Idle server w (.ok line)
  | breakdown {line : String} {e : RequestError} : ((server line).runOn w).1 = .error e →
      ((server line).runOn w).2.bare = w.bare → Idle server w (.ok line)

theorem serveLine_idle {line : InputLine} (h : Idle server w line) : Alike ((serveLine server line).run w) ("", w) := by
  cases h with
  | undecodable e => exact ⟨rfl, rfl⟩
  | blank hblank =>
    unfold serveLine
    dsimp only
    rw [if_pos hblank]
    exact ⟨rfl, rfl⟩
  | @noValue line o e hserver hread =>
    unfold serveLine
    dsimp only
    split
    · exact ⟨rfl, rfl⟩
    · rw [hserver, toolServerBy, answerLineBy, hread]
      exact ⟨rfl, rfl⟩
  | @breakdown line e hresult hleft =>
    unfold serveLine
    dsimp only
    split
    · exact ⟨rfl, rfl⟩
    · cases hrun : (server line).runOn w with | mk result w₁ =>
      rw [hrun] at hresult hleft
      obtain rfl : result = .error e := hresult
      rw [StateT.run_bind, show (server line).run.run w = (.error e, w₁) from hrun]
      exact ⟨rfl, hleft⟩

/-! ## Inputs -/

/-- Cut at its line feeds, what is written is the replies. -/
theorem splitAfter_written (replies : List (Option Json)) :
    Text.splitAfter '\n' (written replies).toList =
      (replies.filterMap id).map fun v => v.compact.toList ++ ['\n'] := by
  induction replies with
  | nil => rfl
  | cons reply replies ih =>
    rw [written, List.foldr_cons, ← written, String.toList_append]
    cases reply with
    | none => exact ih
    | some v =>
      have hline : (lineOf (some v)).toList = v.compact.toList ++ ['\n'] := String.toList_append
      have hlast : ∀ c ∈ (v.compact.toList ++ ['\n']).getLast?, c = '\n' := by
        rw [List.getLast?_append]
        rintro c ⟨⟩
        rfl
      have hbreak : '\n' ∉ v.compact.toList := (Json.compact_printed v).not_mem (by decide)
      rw [hline, Text.splitAfter_append hlast, Text.splitAfter_part hbreak, ih]
      rfl

theorem linesOfText_append {s : String} (hs : ∀ c ∈ s.toList.getLast?, c = '\n') (t : String) :
    linesOfText (s ++ t) = linesOfText s ++ linesOfText t := by
  rw [linesOfText, String.toList_append, Text.splitAfter_append hs, List.map_append]
  rfl

theorem linesOfBytes_append {xs : List UInt8} (hxs : ∀ b ∈ xs.getLast?, b = 10) (ys : List UInt8) :
    linesOfBytes (xs ++ ys) = linesOfBytes xs ++ linesOfBytes ys := by
  rw [linesOfBytes, Text.splitAfter_append hxs, List.map_append]
  rfl

/-- The lines of a text are those of its bytes. -/
theorem linesOfBytes_encode (t : String) : linesOfBytes (Utf8.encode t) = linesOfText t := by
  rw [linesOfBytes, linesOfText, Utf8.encode, Text.splitAfter_encode, List.map_map]
  refine List.map_congr_left fun cs _ => ?_
  have hdecode := Utf8.decode_encode (.ofList cs)
  rwa [Utf8.encode, String.toList_ofList] at hdecode

section
variable (hserver : ∀ line, Unread (server line).run)
include hserver

/-- An input can be served in two parts. -/
theorem serve_append (xs ys : List InputLine) : Agree (serve server (xs ++ ys)) (do
    let out ← serve server xs
    return out ++ (← serve server ys)) := by
  refine (serve_agree hserver (xs ++ ys)).trans ?_
  rw [serveLines_append]
  exact Agree.bind (serve_agree hserver xs).symm fun out =>
    Agree.bind (serve_agree hserver ys).symm fun more => Unread.pure _

/-- A line that comes to nothing can be left out. -/
theorem serve_idle {before : List InputLine} {line : InputLine}
    (h : Idle server ((serve server before).run w).2 line) (after : List InputLine) :
    Alike ((serve server (before ++ line :: after)).run w) ((serve server (before ++ after)).run w) := by
  cases hbefore : (serve server before).run w with | mk out w₁ =>
  rw [hbefore] at h
  have hafter : Agree (serve server (line :: after)) (do
      let written ← serveLine server line
      return written ++ (← serveLines server after)) := serve_agree hserver (line :: after)
  -- what follows the line starts from where the line started, but for the journal
  have hrest : Alike ((serve server (line :: after)).run w₁) ((serve server after).run w₁) := by
    refine (hafter rfl).trans ?_
    obtain ⟨hresult, hleft⟩ := serveLine_idle h
    have hrest := (serve_agree hserver after).symm hleft
    rw [StateT.run_bind]
    refine ⟨?_, hrest.left⟩
    change ((serveLine server line).run w₁).1 ++ ((serveLines server after).run ((serveLine server line).run w₁).2).1 = _
    rw [hresult, hrest.result, String.empty_append]
  have hparts : ∀ ys, Alike ((serve server (before ++ ys)).run w)
      (out ++ ((serve server ys).run w₁).1, ((serve server ys).run w₁).2) := by
    intro ys
    have hparts := serve_append hserver before ys (w := w) rfl
    rw [StateT.run_bind, hbefore] at hparts
    exact hparts
  have hwhole : Alike (out ++ ((serve server (line :: after)).run w₁).1, ((serve server (line :: after)).run w₁).2)
      (out ++ ((serve server after).run w₁).1, ((serve server after).run w₁).2) :=
    ⟨congrArg (out ++ ·) hrest.result, hrest.left⟩
  exact ((hparts (line :: after)).trans hwhole).trans (hparts after).symm

end

/-- A stream is served line by line. The lines of the output are the replies to the lines of the input, in order; each is
of printed ASCII and can be read back. A line that comes to nothing can be left out. What is served in two parts is
served as the whole is, if the first part ends with a line feed or is empty. A text is served as its bytes are. -/
theorem serve_line_by_line (hserver : ∀ line, Unread (server line).run) (w : Workspace) :
    (∀ lines, Text.splitAfter '\n' ((serve server lines).run w).1.toList =
        (((repliesTo server lines).run w).1.filterMap id).map (fun v => v.compact.toList ++ ['\n']) ∧
      ((serve server lines).run w).2.bare = ((repliesTo server lines).run w).2.bare) ∧
    (∀ lines, ∀ v ∈ ((repliesTo server lines).run w).1.filterMap id, Json.Printed v.compact ∧
      (v.fits Json.maxDepth = true → Json.read (v.compact ++ "\n") = .ok v)) ∧
    (∀ before line after, Idle server ((serve server before).run w).2 line →
      Alike ((serve server (before ++ line :: after)).run w) ((serve server (before ++ after)).run w)) ∧
    (∀ s t : String, (∀ c ∈ s.toList.getLast?, c = '\n') → Alike ((serve server (linesOfText (s ++ t))).run w) ((do
      let out ← serve server (linesOfText s)
      return out ++ (← serve server (linesOfText t))).run w)) ∧
    (∀ xs ys : List UInt8, (∀ b ∈ xs.getLast?, b = 10) → Alike ((serve server (linesOfBytes (xs ++ ys))).run w) ((do
      let out ← serve server (linesOfBytes xs)
      return out ++ (← serve server (linesOfBytes ys))).run w)) ∧
    ∀ t : String, serve server (linesOfBytes (Utf8.encode t)) = serve server (linesOfText t) := by
  refine ⟨fun lines => ?_, ?_, ?_, ?_, ?_, ?_⟩
  · have hlines := ((serve_agree hserver lines).trans (serveLines_agree hserver lines)) (rfl : w.bare = w.bare)
    refine ⟨?_, hlines.left⟩
    rw [hlines.result]
    exact splitAfter_written _
  · intro lines v _
    exact ⟨Json.compact_printed v, fun hfits => Json.read_compact hfits rfl⟩
  · intro before line after hidle
    exact serve_idle hserver hidle after
  · intro s t hs
    rw [linesOfText_append hs]
    exact serve_append hserver _ _ rfl
  · intro xs ys hxs
    rw [linesOfBytes_append hxs]
    exact serve_append hserver _ _ rfl
  · intro t
    rw [linesOfBytes_encode]

/-- A tool server that breaks down on one line. -/
def breakingOn (line : String) (e : RequestError) (limit : Int) : Server := fun line' =>
  if line' == line then throw e else toolServer limit line'

theorem breakingOn_unread (line : String) (e : RequestError) (limit : Int) (line' : String) :
    Unread (breakingOn line e limit line').run :=
  ite (compositional.throw e) (toolServerBy_unread (standard_unread limit) line')

/-- A request that asks for a sign of life. -/
def ping : Json := .obj [("jsonrpc", .str "2.0"), ("id", .int 3), ("method", .str "ping")]

/-- A line on which the server breaks down leaves the reply to the next line as it is. -/
theorem serve_breakingOn_ping :
    (∀ line, Unread (breakingOn "boom\n" .homeUnknown 5 line).run) ∧
    ((serve (breakingOn "boom\n" .homeUnknown 5) [.ok "boom\n", .ok (ping.compact ++ "\n")]).run default).1 =
      (Json.obj [("jsonrpc", .str "2.0"), ("id", .int 3), ("result", .obj [])]).compact ++ "\n" := by
  have hserver := breakingOn_unread "boom\n" .homeUnknown 5
  have hidle := (serve_line_by_line hserver default).2.2.1 [] (.ok "boom\n") [.ok (ping.compact ++ "\n")]
    (.breakdown (e := .homeUnknown) rfl rfl)
  have hblank : (ping.compact ++ "\n").toList.all Text.isBlank = false := by decide
  have hline : (ping.compact ++ "\n" == "boom\n") = false := by decide
  have hread : Json.read (ping.compact ++ "\n") = .ok ping := Json.read_compact (by decide) (by decide)
  have hreply : (breakingOn "boom\n" .homeUnknown 5 (ping.compact ++ "\n")).run = Pure.pure (.ok (some
      (.obj [("jsonrpc", .str "2.0"), ("id", .int 3), ("result", .obj [])]))) := by
    rw [breakingOn, hline, toolServer, toolServerBy, answerLineBy, hread]
    rfl
  refine ⟨hserver, hidle.result.trans ?_⟩
  simp only [List.nil_append, serve, serveLines, serveLine, hblank, hreply]
  rfl

end Suitewright.Rpc
