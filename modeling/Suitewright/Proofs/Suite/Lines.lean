/-
  The lines of a suite.

  * `Calm`: texts without a mark and without a line break, whatever stands before them;
  * `Drawn`: texts that a formed line stands for;
  * one lemma for each kind of line in the body of a case.
-/
import Suitewright.Proofs.Suite.Plain

namespace Suitewright

open Text

/-! ## Calm texts -/

/-- Texts that hold no mark and no line break, whatever stands before them. -/
structure Calm (u : List Char) : Prop where
  line : IsLine u
  safe : ∀ mark : Mark, mark.Safe u

/-- The same of texts at the end of a line. -/
structure CalmEnd (u : List Char) : Prop where
  line : IsLine u
  safe : ∀ mark : Mark, mark.Safe (u ++ ['\n'])

section
variable {u v : List Char}

theorem Calm.append (hu : Calm u) (hv : Calm v) : Calm (u ++ v) :=
  ⟨hu.line.append hv.line, fun mark => (hu.safe mark).append (hv.safe mark)⟩

theorem Calm.close (hu : Calm u) (hv : CalmEnd v) : CalmEnd (u ++ v) := by
  refine ⟨hu.line.append hv.line, fun mark => ?_⟩
  rw [List.append_assoc]
  exact (hu.safe mark).append (hv.safe mark)

theorem Calm.of_tame (h : u.all isTame = true) : Calm u := ⟨.of_tame h, fun _ => .of_tame h⟩

theorem Calm.of_nameChar (h : u.all isNameChar = true) : Calm u := .of_tame (Line.all_tame_of_nameChar h)

theorem Calm.of_chars (hline : IsLine u) (h : u.all Mark.isSafe = true) : Calm u := ⟨hline, fun _ => .of_chars h⟩

theorem Calm.quoted (h : u.all isTame = true) : Calm ('"' :: (u ++ ['"'])) := by
  have hquote : Calm ['"'] := .of_chars (by decide) (by decide)
  exact hquote.append ((Calm.of_tame h).append hquote)

end

/-! ## Drawn texts -/

/-- Texts that a line of a suite stands for. -/
def Drawn (component text : List Char) : Prop := ∃ l : Line, l.Formed component ∧ l.chars component = text

/-- What is drawn line by line are the lines of a suite. -/
theorem Drawn.all {component : List Char} {texts : List (List Char)} (h : ∀ t ∈ texts, Drawn component t) :
    ∃ d : List Line, (∀ l ∈ d, l.Formed component) ∧ d.map (Line.chars component) = texts := by
  induction texts with
  | nil => exact ⟨[], by simp, rfl⟩
  | cons t texts ih =>
    obtain ⟨l, hl, rfl⟩ := h t (by simp)
    obtain ⟨d, hd, rfl⟩ := ih fun t ht => h t (by simp [ht])
    refine ⟨l :: d, fun l' hl' => ?_, rfl⟩
    rcases List.mem_cons.1 hl' with rfl | hl'
    · exact hl
    · exact hd l' hl'

section
variable {component text : List Char}

theorem Drawn.fixed (hline : IsLine text) (h : ∀ mark : Mark, mark.Absent text) (hstart : text.head? ≠ some 'i') :
    Drawn component text :=
  ⟨.fixed text, ⟨hline, h, Or.inl hstart⟩, rfl⟩

theorem Drawn.calm (h : CalmEnd text) (hstart : text.head? ≠ some 'i') : Drawn component text :=
  .fixed h.line (fun mark => (h.safe mark).absent) hstart

theorem Drawn.empty : Drawn component [] := .fixed (by decide) (fun mark => by cases mark <;> rfl) (by decide)

/-! ## Lines of bodies -/

/-- The text of a line of a case's body. -/
def DrawnBody (component : List Char) (line : String) : Prop := Drawn component (TestCase.bodyLine line).toList

theorem bodyLine_toList {line : String} (h : line.toList ≠ []) :
    (TestCase.bodyLine line).toList = bodyIndent ++ line.toList := by
  have hempty : ¬ line.isEmpty = true := by
    intro hempty
    rw [String.isEmpty_iff] at hempty
    exact h (by rw [hempty]; rfl)
  have hindent : bodyIndent = indent.toList ++ indent.toList := by decide
  rw [TestCase.bodyLine, if_neg hempty, String.toList_append, String.toList_append, hindent]

theorem bodyIndent_calm : Calm bodyIndent := .of_chars (by decide) (by decide)

/-- A line of a body that rules leave alone. -/
theorem DrawnBody.calm {line : String} (hline : line.toList = text) (hne : text ≠ []) (h : CalmEnd text) :
    DrawnBody component line := by
  subst hline
  rw [DrawnBody, bodyLine_toList hne]
  exact .calm (bodyIndent_calm.close h) (by rw [show bodyIndent = ' ' :: "       ".toList from rfl]; simp)

theorem DrawnBody.empty : DrawnBody component "" := Drawn.empty

/-- A line of a body with a query. -/
theorem DrawnBody.query {line : String} (frame : Frame) {q : Query} (hq : q.Formed)
    (hline : bodyIndent ++ line.toList = frame.before ++ (q.chars ++ frame.after)) : DrawnBody component line := by
  have hne : line.toList ≠ [] := by
    intro he
    have hlen := congrArg List.length hline
    have hbefore : bodyIndent.length < frame.before.length := by cases frame <;> decide
    rw [he, List.append_nil, List.length_append] at hlen
    omega
  refine ⟨.query frame q, hq, ?_⟩
  rw [bodyLine_toList hne, hline]
  rfl

/-- A line of a body that renders the component. -/
theorem DrawnBody.render {line : String} (spread : Bool) {attributes : List Attribute} (h : ∀ a ∈ attributes, a.Formed)
    (hline : line.toList = "render(".toList ++ ("<".toList ++ (component ++
      (attributesText spread attributes ++ " />);".toList)))) : DrawnBody component line := by
  have hopen : "        render(<".toList = bodyIndent ++ ("render(".toList ++ "<".toList) := by decide
  refine ⟨.render spread attributes, h, ?_⟩
  rw [bodyLine_toList (by rw [hline]; exact List.cons_ne_nil _ _), hline, Line.chars_render, hopen]
  simp only [List.append_assoc]

/-- Rendering with the required properties spread. -/
theorem drawn_renderLine {m : Component} {extra : String} {attributes : List Attribute} (h : ∀ a ∈ attributes, a.Formed)
    (hextra : (if extra.isEmpty then "" else " " ++ extra).toList = attributes.flatMap fun a => ' ' :: a.chars) :
    DrawnBody m.displayName.toList (m.renderLine extra) := by
  have htext : attributesText true attributes = " ".toList ++ ((braced "...requiredProps").toList ++
      attributes.flatMap fun a => ' ' :: a.chars) := rfl
  have hclose : " />);".toList = " />".toList ++ ");".toList := by decide
  refine .render true h ?_
  show ("render(" ++ ("<" ++ m.displayName ++ " " ++ braced "...requiredProps" ++
    (if extra.isEmpty then "" else " " ++ extra) ++ " />") ++ ");").toList = _
  rw [htext, hclose]
  simp only [String.toList_append, hextra, List.append_assoc]

/-! ### Roles -/

theorem expectedRole_mem (name : String) : expectedRole name ∈ defaultRole :: roleKeywords.map (·.2) := by
  rw [expectedRole]
  cases hfind : roleKeywords.find? _ with
  | none => exact List.mem_cons_self
  | some k => exact List.mem_cons_of_mem _ (List.mem_map.2 ⟨k, List.mem_of_find?_eq_some hfind, rfl⟩)

theorem expectedRole_alphanum (name : String) :
    (expectedRole name).toList.all Char.isAlphanum = true ∧
      quoteBody (expectedRole name).toList = (expectedRole name).toList := by
  have htable : ∀ r ∈ defaultRole :: roleKeywords.map (·.2),
      r.toList.all Char.isAlphanum = true ∧ quoteBody r.toList = r.toList := by decide
  exact htable _ (expectedRole_mem name)

theorem roleQuery_toList (m : Component) :
    m.roleQuery.toList = (Query.role (expectedRole m.displayName).toList).chars := by
  have hclose : "\")".toList = ['"'] ++ ")".toList := by decide
  have hopen : "screen.getByRole(\"".toList = "screen.getByRole(".toList ++ ['"'] := by decide
  show ("screen.getByRole(" ++ Json.quote (expectedRole m.displayName) ++ ")").toList = _
  rw [String.toList_append, String.toList_append, quote_toList, (expectedRole_alphanum _).2, Query.chars_role, hclose,
    hopen]
  simp only [List.append_assoc, List.cons_append, List.nil_append]

theorem drawn_roleLine (m : Component) {component : List Char} : DrawnBody component m.roleLine := by
  have hbefore : Frame.element.before = bodyIndent ++ "const element = ".toList := by decide
  refine .query .element (q := .role (expectedRole m.displayName).toList) (expectedRole_alphanum _).1 ?_
  show bodyIndent ++ ("const element = " ++ m.roleQuery ++ ";").toList = _
  rw [String.toList_append, String.toList_append, roleQuery_toList, hbefore]
  simp only [List.append_assoc]
  rfl

/-- An assertion that the element of a query is there. -/
theorem drawn_asserted {query : String} {q : Query} (hq : q.Formed) (hquery : query.toList = q.chars) :
    DrawnBody component ("expect(" ++ query ++ ").toBeInTheDocument();") := by
  have hbefore : Frame.asserted.before = bodyIndent ++ "expect(".toList := by decide
  refine .query .asserted hq ?_
  rw [String.toList_append, String.toList_append, hquery, hbefore]
  simp only [List.append_assoc]
  rfl

/-! ### Assertions -/

theorem drawn_classAssertion {name : String} (h : name.toList.all isTame = true) :
    DrawnBody component (Component.classAssertion name) := by
  have hopen : "        expect(element).toHaveClass(\"".toList = bodyIndent ++ ("expect(element).toHaveClass(".toList ++ ['"']) := by
    decide
  have hclose : "\");".toList = ['"'] ++ ");".toList := by decide
  have hline : (Component.classAssertion name).toList = "expect(element).toHaveClass(".toList ++
      ('"' :: (quoteBody (className name).toList ++ ['"']) ++ ");".toList) := by
    show ("expect(element).toHaveClass(" ++ Json.quote (className name) ++ ");").toList = _
    rw [String.toList_append, String.toList_append, quote_toList, List.append_assoc]
  have hmild : name.toList.all isMild = true :=
    List.all_eq_true.2 fun c hc => isMild_of_isTame (List.all_eq_true.1 h c hc)
  refine ⟨.classed (quoteBody (className name).toList), className_tame hmild, ?_⟩
  rw [bodyLine_toList (by rw [hline]; exact List.cons_ne_nil _ _), hline, Line.chars_classed, hopen, hclose]
  simp only [List.append_assoc, List.cons_append, List.nil_append]

/-! ### Required properties -/

/-- Texts that are calm with a comma after them, and with the end of an object. -/
structure CalmEntry (u : List Char) : Prop where
  comma : Calm (u ++ [','])
  brace : Calm (u ++ [' ', '\x7d'])

theorem Calm.entry {u v : List Char} (hu : Calm u) (hv : CalmEntry v) : CalmEntry (u ++ v) := by
  constructor
  · rw [List.append_assoc]
    exact hu.append hv.comma
  · rw [List.append_assoc]
    exact hu.append hv.brace

theorem entry_noop : CalmEntry (": ".toList ++ noopClosure.toList) :=
  ⟨⟨by decide, fun mark before => by cases mark <;> rfl⟩, ⟨by decide, fun mark before => by cases mark <;> rfl⟩⟩

theorem entry_true : CalmEntry (": ".toList ++ "true".toList) :=
  ⟨⟨by decide, fun mark before => by cases mark <;> rfl⟩, ⟨by decide, fun mark before => by cases mark <;> rfl⟩⟩

theorem entry_zero : CalmEntry (": ".toList ++ "0".toList) :=
  ⟨⟨by decide, fun mark before => by cases mark <;> rfl⟩, ⟨by decide, fun mark before => by cases mark <;> rfl⟩⟩

theorem entry_quoted {s : String} (h : s.toList.all isTame = true) : CalmEntry (": ".toList ++ (Json.quote s).toList) := by
  have hopen : Calm (": ".toList ++ ['"']) := .of_chars (by decide) (by decide)
  have hbody : Calm (quoteBody s.toList) := .of_tame (quoteBody_tame_of_tame h)
  have hclose : CalmEntry ['"'] :=
    ⟨⟨by decide, fun mark before => by cases mark <;> rfl⟩, ⟨by decide, fun mark before => by cases mark <;> rfl⟩⟩
  have hparts : ": ".toList ++ (Json.quote s).toList = (": ".toList ++ ['"']) ++ (quoteBody s.toList ++ ['"']) := by
    rw [quote_toList]
    simp only [List.append_assoc, List.cons_append, List.nil_append]
  rw [hparts]
  exact hopen.entry (hbody.entry hclose)

theorem entry_word {v : List Char} (hne : v ≠ []) (h : v.all isNameChar = true) : CalmEntry (": ".toList ++ v) := by
  have hopen : Calm ": ".toList := .of_chars (by decide) (by decide)
  have hline : ∀ w, IsLine w → IsLine (v ++ w) := fun w hw => (Calm.of_nameChar h).line.append hw
  refine hopen.entry ⟨⟨hline _ (by decide), fun mark => ?_⟩, ⟨hline _ (by decide), fun mark => ?_⟩⟩
  · exact .word hne h (Or.inl rfl) (Or.inl rfl)
  · exact .word hne h (Or.inr rfl) (Or.inr rfl)

/-- The default of a plain property is an entry. -/
theorem entry_default {m : Component} (hm : m.IsPlain) {p : PropSpec} (hp : p ∈ m.props) :
    CalmEntry (": ".toList ++ p.defaultExpression.toList) := by
  rw [PropSpec.defaultExpression]
  split
  · exact entry_noop
  · split
    · exact entry_true
    · split
      · exact entry_zero
      · exact entry_quoted (all_tame_of_value (defaultText_value hm hp))

theorem requiredEntry_calm {m : Component} (hm : m.IsPlain) {given : List (String × String)}
    (hgiven : ∀ g ∈ given, g.2.toList ≠ [] ∧ g.2.toList.all isNameChar = true) {p : PropSpec} (hp : p ∈ m.props) :
    CalmEntry (requiredEntry given p).toList := by
  have hname : Calm p.name.toList := .of_nameChar (hm.propName p hp).2
  rw [requiredEntry]
  cases hlookup : given.lookup p.name with
  | some value =>
    obtain ⟨hne, hvalue⟩ := hgiven _ (mem_of_lookup hlookup)
    dsimp only
    rw [String.toList_append, String.toList_append, List.append_assoc]
    exact hname.entry (entry_word hne hvalue)
  | none =>
    dsimp only
    rw [PropSpec.objectDefault, String.toList_append, String.toList_append, List.append_assoc]
    refine Calm.entry ?_ (entry_default hm hp)
    split
    · exact hname
    · rw [quote_toList]
      exact .quoted (quoteBody_tame_of_tame (Line.all_tame_of_nameChar (hm.propName p hp).2))

theorem entries_calm {es : List String} (hne : es ≠ []) (h : ∀ e ∈ es, CalmEntry e.toList) :
    Calm ((", ".intercalate es).toList ++ [' ', '\x7d']) := by
  induction es with
  | nil => exact absurd rfl hne
  | cons e es ih =>
    cases es with
    | nil =>
      rw [String.intercalate_singleton]
      exact (h e (by simp)).brace
    | cons e' es =>
      have hrest := ih (List.cons_ne_nil _ _) fun e'' he => h e'' (by simp [he])
      have hspace : Calm [' '] := .of_chars (by decide) (by decide)
      have hparts : (", ".intercalate (e :: e' :: es)).toList ++ [' ', '\x7d'] =
          (e.toList ++ [',']) ++ ([' '] ++ ((", ".intercalate (e' :: es)).toList ++ [' ', '\x7d'])) := by
        have hcomma : ", ".toList = [','] ++ [' '] := by decide
        rw [String.intercalate_cons_cons, String.toList_append, String.toList_append, hcomma]
        simp only [List.append_assoc]
      rw [hparts]
      exact (h e (by simp)).comma.append (hspace.append hrest)

theorem requiredObject_nil {m : Component} (h : m.requiredProps = []) (given : List (String × String)) :
    m.requiredObject given = braced "" := by
  rw [Component.requiredObject, h]

theorem requiredObject_cons {m : Component} (h : m.requiredProps ≠ []) (given : List (String × String)) :
    m.requiredObject given = braced (" " ++ ", ".intercalate (m.requiredProps.map (requiredEntry given)) ++ " ") := by
  rw [Component.requiredObject]
  split
  · next hnil => exact absurd hnil h
  · rfl

/-- The text before the object of the required properties. -/
def requiredStart : List Char := "const requiredProps = ".toList

theorem requiredLine_toList (m : Component) (given : List (String × String)) :
    (m.requiredLine given).toList = requiredStart ++ ((m.requiredObject given).toList ++ [';']) := by
  show ("const requiredProps = " ++ m.requiredObject given ++ ";").toList = _
  rw [String.toList_append, String.toList_append, List.append_assoc]
  rfl

/-- The declaration of the required properties. -/
theorem drawn_requiredLine {m : Component} (hm : m.IsPlain) {given : List (String × String)}
    (hgiven : ∀ g ∈ given, g.2.toList ≠ [] ∧ g.2.toList.all isNameChar = true) :
    DrawnBody component (m.requiredLine given) := by
  have hne : ∀ v, requiredStart ++ v ≠ [] := fun v => List.cons_ne_nil _ _
  by_cases hnil : m.requiredProps = []
  · have hline : (m.requiredLine given).toList = requiredStart ++ ['\x7b', '\x7d', ';'] := by
      rw [requiredLine_toList, requiredObject_nil hnil]
      decide
    exact .calm hline (hne _) ⟨by decide, fun mark before => by cases mark <;> rfl⟩
  · have hsemicolon : CalmEnd [';'] := ⟨by decide, fun mark before => by cases mark <;> rfl⟩
    have hmap : m.requiredProps.map (requiredEntry given) ≠ [] := by simpa using hnil
    have hentries := entries_calm hmap (List.forall_mem_map.2 fun p hp =>
      requiredEntry_calm hm hgiven (List.mem_filter.1 hp).1)
    have hopen : Calm (requiredStart ++ ['\x7b', ' ']) := ⟨by decide, fun mark before => by cases mark <;> rfl⟩
    have hspace : " ".toList = [' '] := by decide
    have hline : (m.requiredLine given).toList = requiredStart ++ (['\x7b', ' '] ++
        (((", ".intercalate (m.requiredProps.map (requiredEntry given))).toList ++ [' ', '\x7d']) ++ [';'])) := by
      rw [requiredLine_toList, requiredObject_cons hnil, braced_toList, String.toList_append, String.toList_append,
        hspace]
      simp only [List.append_assoc, List.cons_append, List.nil_append]
    have hcalm := hopen.close (hentries.close hsemicolon)
    rw [List.append_assoc] at hcalm
    exact .calm hline (hne _) hcalm

/-! ### Variables and events -/

theorem testVariable_alphanum (name : String) : (textVariable name).toList.all Char.isAlphanum = true := by
  have htest : "test".toList.all Char.isAlphanum = true := by decide
  rw [textVariable, append_ofList, List.all_append, htest, joinCapitalized_alphanum]
  rfl

theorem handlerVariable_alphanum (name : String) :
    (handlerVariable name).toList ≠ [] ∧ (handlerVariable name).toList.all Char.isAlphanum = true := by
  have hhandle : "handle".toList.all Char.isAlphanum = true := by decide
  rw [handlerVariable, append_ofList, List.all_append, hhandle, joinCapitalized_alphanum]
  exact ⟨List.cons_ne_nil _ _, rfl⟩

theorem calm_alphanum {u : List Char} (h : u.all Char.isAlphanum = true) : Calm u :=
  .of_tame (Line.all_tame_of_alphanum h)

/-- The declaration of a text. -/
theorem drawn_textDeclaration {text : String} (h : text.toList.all isTame = true) (prop : String) :
    DrawnBody component ("const " ++ textVariable prop ++ " = " ++ Json.quote text ++ ";") := by
  have hconst : Calm "const ".toList := .of_chars (by decide) (by decide)
  have hequals : Calm " = ".toList := .of_chars (by decide) (by decide)
  have hsemicolon : CalmEnd ";".toList := ⟨by decide, fun mark before => by cases mark <;> rfl⟩
  have hline : ("const " ++ textVariable prop ++ " = " ++ Json.quote text ++ ";").toList = "const ".toList ++
      ((textVariable prop).toList ++ (" = ".toList ++ ('"' :: (quoteBody text.toList ++ ['"']) ++ ";".toList))) := by
    rw [String.toList_append, String.toList_append, String.toList_append, String.toList_append, quote_toList]
    simp only [List.append_assoc]
  exact .calm hline (List.cons_ne_nil _ _) (hconst.close ((calm_alphanum (testVariable_alphanum prop)).close
    (hequals.close ((Calm.quoted (quoteBody_tame_of_tame h)).close hsemicolon))))

/-- The declaration of a handler. -/
theorem drawn_handlerDeclaration (prop : String) :
    DrawnBody component ("const " ++ handlerVariable prop ++ " = jest.fn();") := by
  have hconst : Calm "const ".toList := .of_chars (by decide) (by decide)
  have hend : CalmEnd " = jest.fn();".toList := ⟨by decide, fun mark before => by cases mark <;> rfl⟩
  have hline : ("const " ++ handlerVariable prop ++ " = jest.fn();").toList =
      "const ".toList ++ ((handlerVariable prop).toList ++ " = jest.fn();".toList) := by
    rw [String.toList_append, String.toList_append, List.append_assoc]
  exact .calm hline (List.cons_ne_nil _ _) (hconst.close ((calm_alphanum (handlerVariable_alphanum prop).2).close hend))

/-- An assertion on a handler. -/
theorem drawn_handlerAssertion (prop : String) {assertion : String} (h : CalmEnd assertion.toList) :
    DrawnBody component ("expect(" ++ handlerVariable prop ++ assertion) := by
  have hexpect : Calm "expect(".toList := ⟨by decide, fun mark before => by cases mark <;> rfl⟩
  have hline : ("expect(" ++ handlerVariable prop ++ assertion).toList =
      "expect(".toList ++ ((handlerVariable prop).toList ++ assertion.toList) := by
    rw [String.toList_append, String.toList_append, List.append_assoc]
  exact .calm hline (List.cons_ne_nil _ _) (hexpect.close ((calm_alphanum (handlerVariable_alphanum prop).2).close h))

theorem triggerFor_mem (prop : String) : triggerFor prop ∈ clickTrigger :: eventTriggers.map (·.2) := by
  rw [triggerFor]
  split
  · cases hlookup : eventTriggers.lookup (lower (.ofList (prop.toList.drop 2))) with
    | none => exact List.mem_cons_self
    | some t => exact List.mem_cons_of_mem _ (List.mem_map.2 ⟨_, mem_of_lookup hlookup, rfl⟩)
  · exact List.mem_cons_self

/-- The line that fires an event. -/
theorem drawn_call (prop : String) : DrawnBody component (triggerFor prop).call := by
  have htable : ((clickTrigger :: eventTriggers.map (·.2)).all fun t => decide (t.call.toList ≠ []) &&
      decide (IsLine (bodyIndent ++ t.call.toList)) && [Mark.quote, .roleQuery, .textQuery, .classAssertion, .rendering,
        .closure, .imports].all fun mark => mark.free [] ((bodyIndent ++ t.call.toList) ++ ['\n'])) = true := by
    decide +kernel
  have hrow := List.all_eq_true.1 htable _ (triggerFor_mem prop)
  simp only [Bool.and_eq_true, decide_eq_true_eq] at hrow
  obtain ⟨⟨hne, hline⟩, hmarks⟩ := hrow
  rw [DrawnBody, bodyLine_toList hne]
  refine .fixed hline (fun mark => List.all_eq_true.1 hmarks mark (by cases mark <;> simp)) ?_
  rw [show bodyIndent = ' ' :: "       ".toList from rfl]
  simp

end

end Suitewright
