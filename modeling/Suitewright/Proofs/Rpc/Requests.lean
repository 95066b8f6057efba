/-
  Which values are requests, calls of tools and arguments.

  * `readField_eq_ok`, `requiredField_eq_ok`, `optionalField_eq_ok`: what a field gives;
  * `Rpc.IsRequest`, `ofJson_eq_ok`: the values that are requests;
  * `Rpc.IsCall`, `callOf_eq_ok`: the parameters that call a tool;
  * `Rpc.Tool.Takes`, `request_eq_ok`: the arguments that a tool takes.
-/
import Suitewright.Proofs.Results
import Suitewright.Rpc.Answer

namespace Suitewright

/-! ## Fields -/

section
variable {α β : Type} {shape : Json → Except Misfit α} {keys : List String} {key : String} {a : α}
  {fs : List (String × Json)}

/-- The value under the first of the keys that is there. -/
def valueOf? (keys : List String) (fs : List (String × Json)) : Option Json := (findField? keys fs).map Prod.snd

@[simp] theorem valueOf?_singleton : valueOf? [key] fs = Fields.get? fs key := by
  cases h : Fields.get? fs key <;> simp [valueOf?, findField?, h]

theorem Checked.pair_eq_ok {x : Checked α} {y : Checked β} {b : β} :
    x.pair y = .ok (a, b) ↔ x = .ok a ∧ y = .ok b := by
  cases x <;> cases y <;> simp [Checked.pair]

theorem readField_eq_ok {absent : Checked α} : readField shape absent keys fs = .ok a ↔
    (valueOf? keys fs = none ∧ absent = .ok a) ∨ ∃ v, valueOf? keys fs = some v ∧ shape v = .ok a := by
  unfold readField valueOf?
  split
  · next k v h =>
    rw [mapError_eq_ok]
    simp [h]
  · next h => simp [h]

theorem requiredField_eq_ok :
    requiredField shape keys fs = .ok a ↔ ∃ v, valueOf? keys fs = some v ∧ shape v = .ok a := by
  rw [requiredField, readField_eq_ok]
  simp

theorem optionalField_eq_ok {default : α} : optionalField shape default keys fs = .ok a ↔
    (valueOf? keys fs = none ∧ default = a) ∨ ∃ v, valueOf? keys fs = some v ∧ shape v = .ok a := by
  rw [optionalField, readField_eq_ok]
  simp

end

namespace Json

variable {v : Json} {keys : List String} {fs : List (String × Json)}

theorem text_eq_ok {s : String} : v.text = .ok s ↔ v = .str s := by
  cases v <;> simp [text]

theorem fields_eq_ok {entries : List (String × Json)} : v.fields = .ok entries ↔ v = .obj entries := by
  cases v <;> simp [fields]

theorem textOrNull_eq_ok {s? : Option String} :
    v.textOrNull = .ok s? ↔ (v = .null ∧ s? = none) ∨ ∃ s, v = .str s ∧ s? = some s := by
  cases v <;> simp [textOrNull, text, Except.map, eq_comm]

theorem requiredText_eq_ok {s : String} : requiredField text keys fs = .ok s ↔ valueOf? keys fs = some (.str s) := by
  simp [requiredField_eq_ok, text_eq_ok]

theorem optionalText_eq_ok {default s : String} : optionalField text default keys fs = .ok s ↔
    (valueOf? keys fs = none ∧ default = s) ∨ valueOf? keys fs = some (.str s) := by
  simp [optionalField_eq_ok, text_eq_ok]

theorem optionalFields_eq_ok {entries : List (String × Json)} : optionalField fields [] keys fs = .ok entries ↔
    (valueOf? keys fs = none ∧ entries = []) ∨ valueOf? keys fs = some (.obj entries) := by
  rw [optionalField_eq_ok, @eq_comm _ [] entries]
  simp [fields_eq_ok]

theorem optionalTextOrNull_eq_ok {s? : Option String} : optionalField textOrNull none keys fs = .ok s? ↔
    (valueOf? keys fs = none ∨ valueOf? keys fs = some .null) ∧ s? = none ∨
      ∃ s, valueOf? keys fs = some (.str s) ∧ s? = some s := by
  rw [optionalField_eq_ok]
  constructor
  · rintro (⟨hnone, rfl⟩ | ⟨v, hv, h⟩)
    · exact .inl ⟨.inl hnone, rfl⟩
    · rcases textOrNull_eq_ok.1 h with ⟨rfl, rfl⟩ | ⟨s, rfl, rfl⟩
      · exact .inl ⟨.inr hv, rfl⟩
      · exact .inr ⟨s, hv, rfl⟩
  · rintro (⟨hnone | hnull, rfl⟩ | ⟨s, hs, rfl⟩)
    · exact .inl ⟨hnone, rfl⟩
    · exact .inr ⟨_, hnull, rfl⟩
    · exact .inr ⟨_, hs, rfl⟩

end Json

namespace Rpc

/-! ## Requests -/

/-- The names that values are: texts, and whole numbers, which may be written as truth values or, below the limit, as
fractions. -/
inductive Id.Names : Id → Json → Prop
  | integer (n : Int) : Names (.number n) (.int n)
  | truth (b : Bool) : Names (.number (if b then 1 else 0)) (.bool b)
  | fraction {x : Binary64} {n : Int} : x.toInt? = some n → n.natAbs < Json.fractionLimit →
      Names (.number n) (.float x)
  | text (s : String) : Names (.text s) (.str s)

theorem wholeNumber_eq_ok {v : Json} {n : Int} : v.wholeNumber = .ok n ↔ Id.Names (.number n) v := by
  constructor
  · intro h
    cases v with
    | bool b =>
      obtain rfl : (if b then 1 else 0) = n := Except.ok.inj h
      exact .truth b
    | int k =>
      obtain rfl : k = n := Except.ok.inj h
      exact .integer k
    | float x =>
      cases x with
      | finite negative m e =>
        dsimp only [Json.wholeNumber] at h
        split at h
        · next k hk =>
          split at h
          · next hlimit =>
            obtain rfl : k = n := Except.ok.inj h
            exact .fraction hk hlimit
          · cases h
        · cases h
      | infinite negative => cases h
      | nan => cases h
    | null => cases h
    | str s => cases h
    | arr items => cases h
    | obj fs => cases h
  · intro h
    cases h with
    | integer => rfl
    | truth => rfl
    | @fraction x _ hx hlimit =>
      cases x with
      | finite negative m e => simp [Json.wholeNumber, hx, hlimit]
      | infinite negative => cases hx
      | nan => cases hx

theorem idOfJson_eq_ok {v : Json} {id? : Option Id} :
    Id.ofJson v = .ok id? ↔ (v = .null ∧ id? = none) ∨ ∃ id : Id, id.Names v ∧ id? = some id := by
  have hwhole : v.wholeNumber.map (fun n => some (Id.number n)) = .ok id? ↔
      ∃ n, v.wholeNumber = .ok n ∧ some (Id.number n) = id? := map_eq_ok
  cases v with
  | null =>
    constructor
    · intro h
      exact .inl ⟨rfl, (Except.ok.inj h).symm⟩
    · rintro (⟨-, rfl⟩ | ⟨id, h, -⟩)
      · rfl
      · cases h
  | str s =>
    constructor
    · intro h
      exact .inr ⟨_, .text s, (Except.ok.inj h).symm⟩
    · rintro (⟨h, -⟩ | ⟨id, h, rfl⟩)
      · cases h
      · cases h
        rfl
  | _ =>
    refine hwhole.trans ⟨?_, ?_⟩
    · rintro ⟨n, h, rfl⟩
      exact .inr ⟨_, wholeNumber_eq_ok.1 h, rfl⟩
    · rintro (⟨h, -⟩ | ⟨id, h, rfl⟩)
      · cases h
      · cases id with
        | number n => exact ⟨n, wholeNumber_eq_ok.2 h, rfl⟩
        | text s => cases h

/-- The values that are requests. Other entries do not count. -/
structure IsRequest (v : Json) (r : Request) : Prop where
  /-- The version is a text, if it is there. -/
  version : ∀ x, v.get? "jsonrpc" = some x → ∃ s, x = .str s
  /-- The name is absent or null, or it names the request. -/
  id : (v.get? "id" = none ∨ v.get? "id" = some .null) ∧ r.id = none ∨
    ∃ x id, v.get? "id" = some x ∧ id.Names x ∧ r.id = some id
  /-- The method is a text. -/
  method : v.get? "method" = some (.str r.method)
  /-- The parameters are an object, if they are there. -/
  params : v.get? "params" = none ∧ r.params = [] ∨ v.get? "params" = some (.obj r.params)

theorem optionalId_eq_ok {fs : List (String × Json)} {id? : Option Id} :
    optionalField Id.ofJson none ["id"] fs = .ok id? ↔
    (Fields.get? fs "id" = none ∨ Fields.get? fs "id" = some .null) ∧ id? = none ∨
      ∃ x id, Fields.get? fs "id" = some x ∧ id.Names x ∧ id? = some id := by
  rw [optionalField_eq_ok, valueOf?_singleton]
  constructor
  · rintro (⟨hnone, rfl⟩ | ⟨v, hv, h⟩)
    · exact .inl ⟨.inl hnone, rfl⟩
    · rcases idOfJson_eq_ok.1 h with ⟨rfl, rfl⟩ | ⟨id, hnames, rfl⟩
      · exact .inl ⟨.inr hv, rfl⟩
      · exact .inr ⟨v, id, hv, hnames, rfl⟩
  · rintro (⟨hnone | hnull, rfl⟩ | ⟨x, id, hx, hnames, rfl⟩)
    · exact .inl ⟨hnone, rfl⟩
    · exact .inr ⟨_, hnull, rfl⟩
    · exact .inr ⟨x, hx, idOfJson_eq_ok.2 (.inr ⟨id, hnames, rfl⟩)⟩

theorem optionalVersion_isOk {fs : List (String × Json)} : (∃ s, optionalField Json.text version ["jsonrpc"] fs = .ok s) ↔
    ∀ x, Fields.get? fs "jsonrpc" = some x → ∃ s, x = .str s := by
  simp only [Json.optionalText_eq_ok, valueOf?_singleton]
  constructor
  · rintro ⟨s, ⟨hnone, -⟩ | hs⟩ x hx
    · rw [hnone] at hx
      cases hx
    · rw [hs] at hx
      exact ⟨s, (Option.some.inj hx).symm⟩
  · intro h
    cases hx : Fields.get? fs "jsonrpc" with
    | none => exact ⟨_, .inl ⟨rfl, rfl⟩⟩
    | some x =>
      obtain ⟨s, rfl⟩ := h x hx
      exact ⟨s, .inr rfl⟩

theorem ofFields_eq_ok {fs : List (String × Json)} {r : Request} :
    Request.ofFields fs = .ok r ↔ IsRequest (.obj fs) r := by
  unfold Request.ofFields
  rw [map_eq_ok]
  constructor
  · rintro ⟨⟨⟨s, id⟩, m, ps⟩, h, rfl⟩
    obtain ⟨henvelope, hcall⟩ := Checked.pair_eq_ok.1 h
    obtain ⟨hversion, hid⟩ := Checked.pair_eq_ok.1 henvelope
    obtain ⟨hmethod, hparams⟩ := Checked.pair_eq_ok.1 hcall
    rw [Json.requiredText_eq_ok, valueOf?_singleton] at hmethod
    rw [Json.optionalFields_eq_ok, valueOf?_singleton] at hparams
    exact ⟨optionalVersion_isOk.1 ⟨s, hversion⟩, optionalId_eq_ok.1 hid, hmethod, hparams⟩
  · rintro ⟨hversion, hid, hmethod, hparams⟩
    obtain ⟨s, hversion⟩ := optionalVersion_isOk.2 hversion
    have hmethod : requiredField Json.text ["method"] fs = .ok r.method := by
      rw [Json.requiredText_eq_ok, valueOf?_singleton]
      exact hmethod
    have hparams : optionalField Json.fields [] ["params"] fs = .ok r.params := by
      rw [Json.optionalFields_eq_ok, valueOf?_singleton]
      exact hparams
    exact ⟨((s, r.id), r.method, r.params), Checked.pair_eq_ok.2
      ⟨Checked.pair_eq_ok.2 ⟨hversion, optionalId_eq_ok.2 hid⟩, Checked.pair_eq_ok.2 ⟨hmethod, hparams⟩⟩, rfl⟩

theorem ofJson_eq_ok {v : Json} {r : Request} : Request.ofJson v = .ok r ↔ IsRequest v r := by
  cases v with
  | obj fs =>
    rw [← ofFields_eq_ok, Request.ofJson]
    split
    · next h => simp [h]
    · next h => simp [h]
    · next h => simp [h]
  | _ =>
    constructor
    · intro h
      cases h
    · intro h
      cases h.method

theorem ofJson_eq_error {v : Json} : (∃ fault, Request.ofJson v = .error fault) ↔ ∀ r, ¬ IsRequest v r := by
  simp only [← ofJson_eq_ok]
  cases Request.ofJson v <;> simp

/-! ## Calls of tools -/

/-- The parameters that call a tool by a name. -/
structure IsCall (params : List (String × Json)) (name : String) (arguments : List (String × Json)) : Prop where
  /-- The name is a text. -/
  name : Fields.get? params "name" = some (.str name)
  /-- The arguments are an object, if they are there. -/
  arguments : Fields.get? params "arguments" = none ∧ arguments = [] ∨
    Fields.get? params "arguments" = some (.obj arguments)

theorem callOf_eq_ok {params arguments : List (String × Json)} {name : String} :
    callOf params = .ok (name, arguments) ↔ IsCall params name arguments := by
  rw [callOf, Checked.pair_eq_ok, Json.requiredText_eq_ok, Json.optionalFields_eq_ok]
  simp only [valueOf?_singleton]
  exact ⟨fun h => ⟨h.1, h.2⟩, fun h => ⟨h.1, h.2⟩⟩

theorem callOf_eq_error {params : List (String × Json)} :
    (∃ faults, callOf params = .error faults) ↔ ∀ name arguments, ¬ IsCall params name arguments := by
  simp only [← callOf_eq_ok]
  cases callOf params with
  | ok call =>
    obtain ⟨name, arguments⟩ := call
    simp
  | error faults => simp

/-! ## Tools -/

theorem ofName?_eq_some {name : String} {t : Tool} : Tool.ofName? name = some t ↔ t.name = name := by
  constructor
  · intro h
    simpa using List.find?_some h
  · rintro rfl
    cases t <;> rfl

theorem ofName?_eq_none {name : String} : Tool.ofName? name = none ↔ ∀ t : Tool, t.name ≠ name := by
  simp only [Option.eq_none_iff_forall_ne_some, ne_eq, ofName?_eq_some]

/-- The paths of a component and its project among arguments. -/
structure HasPaths (fs : List (String × Json)) (file root : String) : Prop where
  /-- The path of the component is a text. -/
  file : valueOf? fileKeys fs = some (.str file)
  /-- The root of the project is a text. -/
  root : valueOf? rootKeys fs = some (.str root)

/-- The arguments that a tool takes, and what is asked of it by them. -/
inductive Tool.Takes (fs : List (String × Json)) : Tool → ToolRequest → Prop
  | analyze {file root : String} : HasPaths fs file root → Takes fs .analyze (.analyze file root)
  | generate {file root : String} {output : Option String} : HasPaths fs file root →
      (valueOf? outputKeys fs = none ∨ valueOf? outputKeys fs = some .null) ∧ output = none ∨
        (∃ path, valueOf? outputKeys fs = some (.str path) ∧ output = some path) →
      Takes fs .generate (.generate { file, root, output })
  | read {file root : String} : HasPaths fs file root → Takes fs .read (.read file root)

theorem componentArguments_eq_ok {fs : List (String × Json)} {file root : String} :
    componentArguments fs = .ok (file, root) ↔ HasPaths fs file root := by
  rw [componentArguments, Checked.pair_eq_ok, Json.requiredText_eq_ok, Json.requiredText_eq_ok]
  exact ⟨fun h => ⟨h.1, h.2⟩, fun h => ⟨h.1, h.2⟩⟩

theorem request_eq_ok {fs : List (String × Json)} {t : Tool} {q : ToolRequest} :
    t.request fs = .ok q ↔ t.Takes fs q := by
  cases t with
  | analyze =>
    rw [Tool.request, map_eq_ok]
    constructor
    · rintro ⟨⟨file, root⟩, h, rfl⟩
      exact .analyze (componentArguments_eq_ok.1 h)
    · rintro ⟨h⟩
      exact ⟨_, componentArguments_eq_ok.2 h, rfl⟩
  | generate =>
    rw [Tool.request, map_eq_ok]
    constructor
    · rintro ⟨⟨⟨file, root⟩, output⟩, h, rfl⟩
      obtain ⟨hpaths, houtput⟩ := Checked.pair_eq_ok.1 h
      exact .generate (componentArguments_eq_ok.1 hpaths) (Json.optionalTextOrNull_eq_ok.1 houtput)
    · rintro (_ | ⟨hpaths, houtput⟩)
      exact ⟨_, Checked.pair_eq_ok.2
        ⟨componentArguments_eq_ok.2 hpaths, Json.optionalTextOrNull_eq_ok.2 houtput⟩, rfl⟩
  | read =>
    rw [Tool.request, map_eq_ok]
    constructor
    · rintro ⟨⟨file, root⟩, h, rfl⟩
      exact .read (componentArguments_eq_ok.1 h)
    · rintro (_ | _ | ⟨h⟩)
      exact ⟨_, componentArguments_eq_ok.2 h, rfl⟩

theorem request_eq_error {fs : List (String × Json)} {t : Tool} :
    (∃ faults, t.request fs = .error faults) ↔ ∀ q, ¬ t.Takes fs q := by
  simp only [← request_eq_ok]
  cases t.request fs <;> simp

end Rpc

end Suitewright
