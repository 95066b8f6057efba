/-
  Which reply a value gets.

  * `Rpc.Orchestrator.Raises`: the work that a tool asks for fails;
  * `Rpc.Request.FailsWith`: the kind of error that a request runs into; `FailsWith.carryOut`,
    `failsWith_of_carryOut`: carrying it out fails just so;
  * `Rpc.answerBy_cases`: where a reply comes from;
  * `Rpc.answerBy_replies`: to every value, whatever the work behind the tools does, there is a reply or none as the
    value asks for it, under the name that it gives, with an error of the kind that is due.
-/
import Suitewright.Proofs.Loop.Working
import Suitewright.Proofs.Rpc.Requests

namespace Suitewright.Rpc

variable {o : Orchestrator} {w w' : Workspace}

/-! ## Carrying out a request -/

/-- The work that a tool asks for fails. -/
inductive Orchestrator.Raises (o : Orchestrator) (w : Workspace) : ToolRequest → RequestError → Prop
  | analyze {file root : String} {e : RequestError} : ((o.analyze file root).runOn w).1 = .error e →
      Raises o w (.analyze file root) e
  | generate {order : Order} {e : RequestError} : ((o.generate order).runOn w).1 = .error e →
      Raises o w (.generate order) e
  | read {file root : String} {e : RequestError} : ((o.read file root).runOn w).1 = .error e →
      Raises o w (.read file root) e

theorem map_error {α : Type} {x : Work α} {f : α → String} {e : RequestError} :
    ((do return f (← x) : Work String).runOn w).1 = .error e ↔ (x.runOn w).1 = .error e := by
  rw [Work.runOn_bind]
  obtain ⟨r, w₁⟩ := x.runOn w
  cases r <;> simp

theorem run_error {q : ToolRequest} {e : RequestError} : ((q.run o).runOn w).1 = .error e ↔ o.Raises w q e := by
  cases q with
  | analyze file root =>
    refine map_error.trans ⟨.analyze, ?_⟩
    rintro ⟨h⟩
    exact h
  | generate order =>
    refine map_error.trans ⟨.generate, ?_⟩
    rintro (_ | ⟨h⟩)
    exact h
  | read file root =>
    refine map_error.trans ⟨.read, ?_⟩
    rintro (_ | _ | ⟨h⟩)
    exact h

/-- The methods that the server knows. -/
def methods : List String := ["initialize", "ping", "tools/list", "tools/call"]

/-- The workspace when a tool begins its work. -/
def calling (name : String) (w : Workspace) : Workspace :=
  { w with notes := w.notes ++ [⟨.info, "server", "Calling tool " ++ name⟩] }

/-- The kind of error that a request runs into. -/
inductive Request.FailsWith (o : Orchestrator) (w : Workspace) (r : Request) : ErrorCode → Prop
  /-- There is no such method. -/
  | method : r.method ∉ methods → FailsWith o w r .methodNotFound
  /-- The call is well-formed, but there is no such tool. -/
  | tool {name : String} {arguments : List (String × Json)} : r.method = "tools/call" →
      IsCall r.params name arguments → (∀ t : Tool, t.name ≠ name) → FailsWith o w r .methodNotFound
  /-- The parameters call no tool. -/
  | call : r.method = "tools/call" → (∀ name arguments, ¬ IsCall r.params name arguments) →
      FailsWith o w r .invalidParams
  /-- The tool does not take its arguments. -/
  | arguments {t : Tool} {arguments : List (String × Json)} : r.method = "tools/call" →
      IsCall r.params t.name arguments → (∀ q, ¬ t.Takes arguments q) → FailsWith o w r .invalidParams
  /-- The work of the tool fails. -/
  | work {t : Tool} {arguments : List (String × Json)} {q : ToolRequest} {e : RequestError} :
      r.method = "tools/call" → IsCall r.params t.name arguments → t.Takes arguments q →
      o.Raises (calling t.name w) q e → FailsWith o w r .internalError

variable {r : Request} {code : ErrorCode}

theorem carryOut_call (h : r.method = "tools/call") : r.carryOut o = callTool o r.params := by
  unfold Request.carryOut
  rw [h]
  rfl

theorem carryOut_unknown (h : r.method ∉ methods) : r.carryOut o = pure (.error (.unknownMethod r.method)) := by
  simp only [methods, List.mem_cons, List.not_mem_nil, not_or, or_false] at h
  unfold Request.carryOut
  simp [h]

/-- What a call of a tool gives, from the work that the tool asks for. -/
theorem callTool_run {params arguments : List (String × Json)} {t : Tool} {q : ToolRequest}
    (hcall : IsCall params t.name arguments) (htakes : t.Takes arguments q) :
    ((callTool o params).run w).1 = match ((q.run o).runOn (calling t.name w)).1 with
      | .error e => .error (.work e)
      | .ok text => .ok (textResult text) := by
  unfold callTool
  rw [callOf_eq_ok.2 hcall]
  dsimp only
  rw [ofName?_eq_some.2 rfl]
  dsimp only
  rw [request_eq_ok.2 htakes]
  cases hrun : (q.run o).runOn (calling t.name w) with | mk result w₁ =>
  have hnote : (do note .info ("Calling tool " ++ t.name); (q.run o).run : StateM Workspace _).run w =
      (result, w₁) := hrun
  rw [← bind_assoc, StateT.run_bind, hnote]
  cases result <;> rfl

theorem callTool_unknown {params arguments : List (String × Json)} {name : String} (hcall : IsCall params name arguments)
    (hname : ∀ t : Tool, t.name ≠ name) : ((callTool o params).run w).1 = .error (.unknownTool name) := by
  unfold callTool
  rw [callOf_eq_ok.2 hcall]
  dsimp only
  rw [ofName?_eq_none.2 hname]
  rfl

theorem callTool_noCall {params : List (String × Json)} {faults : List FieldFault}
    (h : callOf params = .error faults) : ((callTool o params).run w).1 = .error (.parameters faults) := by
  unfold callTool
  rw [h]
  rfl

theorem callTool_untaken {params arguments : List (String × Json)} {t : Tool} {faults : List FieldFault}
    (hcall : IsCall params t.name arguments) (h : t.request arguments = .error faults) :
    ((callTool o params).run w).1 = .error (.parameters faults) := by
  unfold callTool
  rw [callOf_eq_ok.2 hcall]
  dsimp only
  rw [ofName?_eq_some.2 rfl]
  dsimp only
  rw [h]
  rfl

/-- A request that runs into an error fails with one of this kind. -/
theorem Request.FailsWith.carryOut (h : r.FailsWith o w code) :
    ∃ e, ((r.carryOut o).run w).1 = .error e ∧ e.code = code := by
  cases h with
  | method hmethod => exact ⟨.unknownMethod r.method, by rw [carryOut_unknown hmethod]; rfl, rfl⟩
  | @tool name arguments hmethod hcall hname =>
    exact ⟨.unknownTool name, by rw [carryOut_call hmethod, callTool_unknown hcall hname], rfl⟩
  | call hmethod hcall =>
    obtain ⟨faults, hfaults⟩ := callOf_eq_error.2 hcall
    exact ⟨.parameters faults, by rw [carryOut_call hmethod, callTool_noCall hfaults], rfl⟩
  | arguments hmethod hcall htakes =>
    obtain ⟨faults, hfaults⟩ := request_eq_error.2 htakes
    exact ⟨.parameters faults, by rw [carryOut_call hmethod, callTool_untaken hcall hfaults], rfl⟩
  | @work t arguments q e hmethod hcall htakes hraises =>
    refine ⟨.work e, ?_, rfl⟩
    rw [carryOut_call hmethod, callTool_run hcall htakes, run_error.2 hraises]

/-- A call that fails fails with an error of the kind that is due. -/
theorem failsWith_of_callTool {e : CallFailure} (hmethod : r.method = "tools/call")
    (h : ((callTool o r.params).run w).1 = .error e) : r.FailsWith o w e.code := by
  cases hcall : callOf r.params with
  | error faults =>
    rw [callTool_noCall hcall] at h
    cases h
    exact .call hmethod (callOf_eq_error.1 ⟨faults, hcall⟩)
  | ok call =>
    obtain ⟨name, arguments⟩ := call
    rw [callOf_eq_ok] at hcall
    cases htool : Tool.ofName? name with
    | none =>
      rw [ofName?_eq_none] at htool
      rw [callTool_unknown hcall htool] at h
      cases h
      exact .tool hmethod hcall htool
    | some t =>
      obtain rfl := ofName?_eq_some.1 htool
      cases htakes : t.request arguments with
      | error faults =>
        rw [callTool_untaken hcall htakes] at h
        cases h
        exact .arguments hmethod hcall (request_eq_error.1 ⟨faults, htakes⟩)
      | ok q =>
        rw [request_eq_ok] at htakes
        rw [callTool_run hcall htakes] at h
        cases hrun : ((q.run o).runOn (calling t.name w)).1 with
        | ok text =>
          rw [hrun] at h
          cases h
        | error e' =>
          rw [hrun] at h
          cases h
          exact .work hmethod hcall htakes (run_error.1 hrun)

theorem failsWith_of_carryOut {e : CallFailure} (h : ((r.carryOut o).run w).1 = .error e) :
    r.FailsWith o w e.code := by
  by_cases hknown : r.method ∈ methods
  · -- the first three methods always give something
    simp only [methods, List.mem_cons, List.not_mem_nil, or_false] at hknown
    rcases hknown with hmethod | hmethod | hmethod | hmethod
    · unfold Request.carryOut at h
      rw [hmethod] at h
      cases h
    · unfold Request.carryOut at h
      rw [hmethod] at h
      cases h
    · unfold Request.carryOut at h
      rw [hmethod] at h
      cases h
    · rw [carryOut_call hmethod] at h
      exact failsWith_of_callTool hmethod h
  · rw [carryOut_unknown hknown] at h
    cases h
    exact .method hknown

/-! ## Replies -/

/-- The number of the error that a message tells, if it tells one. -/
def errorNumber? (v : Json) : Option Int :=
  match (v.get? "error").bind (·.get? "code") with
  | some (.int n) => some n
  | _ => none

/-- The names that are given back as they stand. -/
inductive IsPlainName : Json → Prop
  | integer (n : Int) : IsPlainName (.int n)
  | text (s : String) : IsPlainName (.str s)

/-- An object with a name that is not null. -/
def IsNamed (v : Json) : Prop := ∃ x, v.get? "id" = some x ∧ x ≠ .null

theorem reply_run (id : Id) : ((r.reply o id).run w).1 = match ((r.carryOut o).run w).1 with
    | .ok fs => { id := some id, answer := .result fs }
    | .error e => { id := some id, answer := .error e.code e.message } := by
  unfold Request.reply
  rw [StateT.run_bind]
  obtain ⟨result, w₁⟩ := (r.carryOut o).run w
  cases result with
  | ok fs => rfl
  | error e => cases e <;> rfl

theorem get?_id (reply : Reply) : reply.toJson.get? "id" = some ((reply.id.map Id.toJson).getD .null) := rfl

theorem errorNumber?_error (id : Option Id) (code : ErrorCode) (message : String) :
    errorNumber? (Reply.toJson ⟨id, .error code message⟩) = some code.number := rfl

theorem ErrorCode.number_inj {c c' : ErrorCode} (h : c.number = c'.number) : c = c' := by
  cases c <;> cases c' <;> first | rfl | cases h

theorem echo?_plain {x : Json} (h : IsPlainName x) : (Id.echo? x).map Id.toJson = some x := by
  cases h <;> rfl

theorem echo?_other {x : Json} (h : ¬ IsPlainName x) : Id.echo? x = none := by
  cases x with
  | int n => exact absurd (.integer n) h
  | str s => exact absurd (.text s) h
  | _ => rfl

theorem names_plain {x : Json} {id : Id} (h : IsPlainName x) (hnames : id.Names x) : id.toJson = x := by
  cases h <;> cases hnames <;> rfl

theorem refusal?_eq_none {v : Json} : refusal? v = none ↔ ¬ IsNamed v := by
  unfold refusal? IsNamed
  split
  · next h => simp [h]
  · next h => simp [h]
  · next x hnull h => simp [h, show x ≠ .null from hnull]

theorem refusal?_eq_some {v : Json} {reply : Reply} (h : refusal? v = some reply) : ∃ x, v.get? "id" = some x ∧
    reply = { id := Id.echo? x, answer := .error .invalidRequest "Invalid request" } := by
  unfold refusal? at h
  split at h
  · cases h
  · cases h
  · next x _ hx => exact ⟨x, hx, (Option.some.inj h).symm⟩

section
variable {v : Json}

theorem answerBy_refused (h : ∀ r, ¬ IsRequest v r) : ((answerBy o v).run w).1 = refusal? v := by
  obtain ⟨fault, hfault⟩ := ofJson_eq_error.2 h
  unfold answerBy
  rw [hfault]
  rfl

theorem answerBy_notice (h : IsRequest v r) (hid : r.id = none) : ((answerBy o v).run w).1 = none := by
  unfold answerBy
  rw [ofJson_eq_ok.2 h]
  dsimp only
  rw [hid]
  rfl

theorem answerBy_request {id : Id} (h : IsRequest v r) (hid : r.id = some id) :
    ((answerBy o v).run w).1 = some ((r.reply o id).run w).1 := by
  unfold answerBy
  rw [ofJson_eq_ok.2 h]
  dsimp only
  rw [hid]
  rfl

theorem IsRequest.unique {r' : Request} (h : IsRequest v r) (h' : IsRequest v r') : r = r' :=
  Except.ok.inj ((ofJson_eq_ok.2 h).symm.trans (ofJson_eq_ok.2 h'))

/-- There is no reply to notices, and to values without a name that are no requests. -/
theorem answerBy_eq_none : ((answerBy o v).run w).1 = none ↔
    (∃ r, IsRequest v r ∧ r.id = none) ∨ (∀ r, ¬ IsRequest v r) ∧ ¬ IsNamed v := by
  by_cases hv : ∃ r, IsRequest v r
  · obtain ⟨r, hr⟩ := hv
    cases hid : r.id with
    | none =>
      rw [answerBy_notice hr hid]
      exact ⟨fun _ => .inl ⟨r, hr, hid⟩, fun _ => rfl⟩
    | some id =>
      rw [answerBy_request hr hid]
      refine ⟨fun h => (nomatch h), ?_⟩
      rintro (⟨r', hr', hid'⟩ | ⟨hnone, -⟩)
      · rw [hr.unique hr', hid'] at hid
        cases hid
      · exact absurd hr (hnone r)
  · have hv : ∀ r, ¬ IsRequest v r := fun r hr => hv ⟨r, hr⟩
    rw [answerBy_refused hv, refusal?_eq_none]
    refine ⟨fun h => .inr ⟨hv, h⟩, ?_⟩
    rintro (⟨r, hr, -⟩ | ⟨-, h⟩)
    · exact absurd hr (hv r)
    · exact h

/-- Any reply is one to a request with a name, or the refusal of another value that gives a name. -/
theorem answerBy_cases {reply : Reply} (h : ((answerBy o v).run w).1 = some reply) :
    (∃ r id, IsRequest v r ∧ r.id = some id ∧ reply = ((r.reply o id).run w).1) ∨
      (∀ r, ¬ IsRequest v r) ∧ ∃ x, v.get? "id" = some x ∧
        reply = { id := Id.echo? x, answer := .error .invalidRequest "Invalid request" } := by
  by_cases hv : ∃ r, IsRequest v r
  · obtain ⟨r, hr⟩ := hv
    cases hid : r.id with
    | none =>
      rw [answerBy_notice hr hid] at h
      cases h
    | some id =>
      rw [answerBy_request hr hid] at h
      exact .inl ⟨r, id, hr, hid, (Option.some.inj h).symm⟩
  · have hv : ∀ r, ¬ IsRequest v r := fun r hr => hv ⟨r, hr⟩
    rw [answerBy_refused hv] at h
    exact .inr ⟨hv, refusal?_eq_some h⟩

theorem toJson_shape (reply : Reply) : ∃ id entry, reply.toJson = .obj [("jsonrpc", .str "2.0"), ("id", id), entry] ∧
    (entry.1 = "result" ∨ entry.1 = "error") := by
  obtain ⟨id, answer⟩ := reply
  cases answer with
  | result fs => exact ⟨_, _, rfl, .inl rfl⟩
  | error code message => exact ⟨_, _, rfl, .inr rfl⟩

/-- The name of a request is what the value gives, if this is an integer or a text. -/
theorem IsRequest.name_plain {id : Id} {x : Json} (h : IsRequest v r) (hid : r.id = some id)
    (hx : v.get? "id" = some x) (hplain : IsPlainName x) : id.toJson = x := by
  rcases h.id with ⟨-, hnone⟩ | ⟨x', id', hx', hnames, hid'⟩
  · rw [hnone] at hid
    cases hid
  · obtain rfl : x' = x := Option.some.inj (hx'.symm.trans hx)
    obtain rfl : id' = id := Option.some.inj (hid'.symm.trans hid)
    exact names_plain hplain hnames

/-- A reply to a request goes under its name, and tells the error that the request runs into. -/
theorem reply_spec (id : Id) :
    ((r.reply o id).run w).1.id = some id ∧
      ∀ code : ErrorCode, errorNumber? ((r.reply o id).run w).1.toJson = some code.number ↔ r.FailsWith o w code := by
  rw [reply_run]
  cases hresult : ((r.carryOut o).run w).1 with
  | ok fs =>
    refine ⟨rfl, fun code => ⟨fun h => (nomatch h), fun h => ?_⟩⟩
    obtain ⟨e, he, -⟩ := h.carryOut
    rw [hresult] at he
    cases he
  | error e =>
    refine ⟨rfl, fun code => ?_⟩
    show errorNumber? (Reply.toJson ⟨some id, .error e.code e.message⟩) = _ ↔ _
    rw [errorNumber?_error]
    constructor
    · intro h
      rw [← ErrorCode.number_inj (Option.some.inj h)]
      exact failsWith_of_carryOut hresult
    · intro h
      obtain ⟨e', he', rfl⟩ := h.carryOut
      rw [hresult] at he'
      rw [Except.error.inj he']

/-- To a value there is no reply just when it is a notice, or it is no request and has no name. Any other reply is an
object with a version, a name and a result or an error. It goes under the name that the value gives, if this is an
integer or a text, and under none if a value that is no request gives another one. It tells an error of a kind just
when this is due: to a value that is no request, or to a request that runs into it. The work behind the tools may do
whatever it likes. -/
theorem answerBy_replies (o : Orchestrator) (v : Json) (w : Workspace) :
    (((answerBy o v).run w).1 = none ↔
      (∃ r, IsRequest v r ∧ r.id = none) ∨ (∀ r, ¬ IsRequest v r) ∧ ¬ IsNamed v) ∧
    ∀ reply, ((answerBy o v).run w).1 = some reply →
      (∃ id entry, reply.toJson = .obj [("jsonrpc", .str "2.0"), ("id", id), entry] ∧
        (entry.1 = "result" ∨ entry.1 = "error")) ∧
      (∀ x, v.get? "id" = some x → IsPlainName x → reply.toJson.get? "id" = some x) ∧
      ((∀ r, ¬ IsRequest v r) → ∀ x, v.get? "id" = some x → ¬ IsPlainName x →
        reply.toJson.get? "id" = some .null) ∧
      ∀ code : ErrorCode, errorNumber? reply.toJson = some code.number ↔
        ((∀ r, ¬ IsRequest v r) ∧ code = .invalidRequest) ∨ ∃ r, IsRequest v r ∧ r.FailsWith o w code := by
  refine ⟨answerBy_eq_none, fun reply hreply => ⟨toJson_shape reply, ?_⟩⟩
  obtain ⟨r, id, hr, hid, rfl⟩ | ⟨hv, y, hy, rfl⟩ := answerBy_cases hreply
  · obtain ⟨hname, herror⟩ := reply_spec (o := o) (w := w) (r := r) id
    refine ⟨fun x hx hplain => ?_, fun hnone => absurd hr (hnone r), fun code => (herror code).trans ⟨?_, ?_⟩⟩
    · rw [get?_id, hname]
      exact congrArg some (hr.name_plain hid hx hplain)
    · intro h
      exact .inr ⟨r, hr, h⟩
    · rintro (⟨hnone, -⟩ | ⟨r', hr', h⟩)
      · exact absurd hr (hnone r)
      · exact hr.unique hr' ▸ h
  · refine ⟨fun x hx hplain => ?_, fun _ x hx hother => ?_, fun code => ?_⟩
    · obtain rfl : y = x := Option.some.inj (hy.symm.trans hx)
      rw [get?_id, echo?_plain hplain]
      rfl
    · obtain rfl : y = x := Option.some.inj (hy.symm.trans hx)
      rw [get?_id, echo?_other hother]
      rfl
    · rw [errorNumber?_error]
      constructor
      · intro h
        exact .inl ⟨hv, (ErrorCode.number_inj (Option.some.inj h)).symm⟩
      · rintro (⟨-, rfl⟩ | ⟨r, hr, -⟩)
        · rfl
        · exact absurd hr (hv r)

end

-- a list is no name, so that the request under it is refused and answered under none
example (w : Workspace) : ((answerBy o (.obj [("id", .arr [.int 1]), ("method", .str "ping")])).run w).1.map Reply.toJson =
    some (.obj [("jsonrpc", .str "2.0"), ("id", .null),
      ("error", .obj [("code", .int (-32600)), ("message", .str "Invalid request")])]) := rfl

end Suitewright.Rpc
