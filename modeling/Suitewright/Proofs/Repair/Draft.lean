/-
  Suites as the rules of repair see them.

  * `Attribute`, `Query`, `Frame`, `Line`: the lines of a suite, taken apart where rules change them;
  * `Line.Formed`: what is asked of their texts;
  * `Line.absent`: which marks a line does not hold; `Line.isLine`;
  * `Line.textOf`: the text of the suite that a list of lines stands for.
-/
import Suitewright.Proofs.Text.Mark
import Suitewright.Repair.Rule
import Suitewright.Suite.Render

namespace Suitewright

open Text

/-! ## Parts of lines -/

/-- An attribute of an element. -/
inductive Attribute where
  /-- A name alone. -/
  | flag (name : List Char)
  /-- A name with a text between quotes. -/
  | text (name value : List Char)
  /-- A name with an expression between braces. -/
  | expr (name value : List Char)
  deriving DecidableEq

namespace Attribute

/-- The name of an attribute. -/
def name : Attribute → List Char
  | flag n | text n _ | expr n _ => n

/-- The text of an attribute. -/
def chars : Attribute → List Char
  | flag n => n
  | text n v => n ++ ('=' :: '"' :: (v ++ ['"']))
  | expr n v => n ++ ('=' :: '\x7b' :: (v ++ ['\x7d']))

theorem chars_name (a : Attribute) : ∃ r, a.chars = a.name ++ r ∧ (r = [] ∨ r.head? = some '=') := by
  cases a with
  | flag n => exact ⟨[], (List.append_nil n).symm, Or.inl rfl⟩
  | text n v => exact ⟨_, rfl, Or.inr rfl⟩
  | expr n v => exact ⟨_, rfl, Or.inr rfl⟩

/-- The expressions that attributes have, variables apart. -/
def constants : List (List Char) :=
  [noopClosure.toList, ['0'], "false".toList, '"' :: (childrenText.toList ++ ['"'])]

/-- Names are words with hyphens, texts are tame, and expressions are constants or variables. -/
def Formed (a : Attribute) : Prop :=
  a.name ≠ [] ∧ a.name.all isNameChar = true ∧
    match a with
    | flag _ => True
    | text _ v => v.all isTame = true
    | expr _ v => v ∈ constants ∨ v ≠ [] ∧ v.all Char.isAlphanum = true

end Attribute

/-- A query of a suite. -/
inductive Query where
  /-- By a role. -/
  | role (role : List Char)
  /-- By the role of a status. -/
  | status
  /-- By the role of an image. -/
  | image
  /-- By the text of a variable. -/
  | text (variable_ : List Char)
  /-- By a test identifier. -/
  | testId (id : List Char)
  deriving DecidableEq

namespace Query

/-- The text of a query. -/
def chars : Query → List Char
  | role r => "screen.getByRole(\"".toList ++ (r ++ "\")".toList)
  | status => statusQuery.toList
  | image => iconQuery.toList
  | text v => "screen.getByText(".toList ++ (v ++ [')'])
  | testId b => "screen.getByTestId(\"".toList ++ (b ++ "\")".toList)

theorem chars_role (r : List Char) :
    (role r).chars = "screen.getByRole(\"".toList ++ (r ++ "\")".toList) := rfl

theorem chars_text (v : List Char) : (text v).chars = "screen.getByText(".toList ++ (v ++ [')']) := rfl

theorem chars_testId (b : List Char) :
    (testId b).chars = "screen.getByTestId(\"".toList ++ (b ++ "\")".toList) := rfl

/-- What follows the role in the query for a hidden element. -/
def hiddenEnd : List Char := ", \x7b hidden: true \x7d)".toList

/-- The second query for an icon. -/
def iconEnd : List Char := " || screen.getByTestId(\"icon\")".toList

theorem chars_status :
    status.chars = "screen.getByRole(\"".toList ++ ("status".toList ++ ('"' :: hiddenEnd)) := by
  decide

theorem chars_image :
    image.chars = "screen.getByRole(\"".toList ++ ("img".toList ++ ('"' :: (hiddenEnd ++ iconEnd))) := by
  decide

/-- The marks that a query holds. -/
def marks : Query → List Mark
  | role _ | status | image => [.roleQuery]
  | text _ => [.textQuery]
  | testId _ => []

/-- Roles, variables and test identifiers are tame. -/
def Formed : Query → Prop
  | role r => r.all Char.isAlphanum = true
  | text v => v.all Char.isAlphanum = true
  | testId b => b.all isTame = true
  | _ => True

end Query

/-- What stands around a query. -/
inductive Frame where
  /-- An assertion that the element is there. -/
  | asserted
  /-- The declaration of the element. -/
  | element
  /-- The declaration of the icon. -/
  | icon
  deriving DecidableEq

namespace Frame

/-- The text before the query. -/
def before : Frame → List Char
  | asserted => "        expect(".toList
  | element => "        const element = ".toList
  | icon => "        const iconElement = ".toList

/-- The text after the query. -/
def after : Frame → List Char
  | asserted => ").toBeInTheDocument();".toList
  | _ => ";".toList

end Frame

/-! ## Lines -/

/-- The indentation of a body. -/
def bodyIndent : List Char := "        ".toList

/-- A line of a suite. -/
inductive Line where
  /-- A line that no rule changes. -/
  | fixed (text : List Char)
  /-- An import of the names between braces. -/
  | named (content module : List Char)
  /-- An import of a default export. -/
  | default (name module : List Char)
  /-- The rendering of the component, with the required properties spread or not, and more attributes. -/
  | render (spread : Bool) (attributes : List Attribute)
  /-- A line with a query. -/
  | query (frame : Frame) (q : Query)
  /-- The assertion of a style class. -/
  | classed (name : List Char)
  deriving DecidableEq

/-- The attribute that spreads the required properties. -/
def spreadAttribute : List Char := " \x7b...requiredProps\x7d".toList

/-- Words, such as the names of components and of imported symbols. -/
def IsWord (cs : List Char) : Prop := cs ≠ [] ∧ cs.all isWordChar = true

theorem IsWord.nameChars {cs : List Char} (h : IsWord cs) : cs.all isNameChar = true :=
  List.all_eq_true.2 fun c hmem => by simp [isNameChar, List.all_eq_true.1 h.2 c hmem]

/-- The text of the attributes of an element. -/
def attributesText (spread : Bool) (attributes : List Attribute) : List Char :=
  (if spread then spreadAttribute else []) ++ attributes.flatMap fun a => ' ' :: a.chars

namespace Line

/-- The text of a line, in a suite for a component. -/
def chars (component : List Char) : Line → List Char
  | fixed t => t
  | named content module =>
    "import \x7b".toList ++ (content ++ ('\x7d' :: (" from \"".toList ++ (module ++ "\";".toList))))
  | default name module => "import ".toList ++ (name ++ (" from \"".toList ++ (module ++ "\";".toList)))
  | render spread attributes =>
    "        render(<".toList ++ (component ++ (attributesText spread attributes ++ " />);".toList))
  | query frame q => frame.before ++ (q.chars ++ frame.after)
  | classed name => "        expect(element).toHaveClass(\"".toList ++ (name ++ "\");".toList)

theorem chars_named (component content module : List Char) : (named content module).chars component =
    "import \x7b".toList ++ (content ++ ('\x7d' :: (" from \"".toList ++ (module ++ "\";".toList)))) := rfl

theorem chars_default (component name module : List Char) : (default name module).chars component =
    "import ".toList ++ (name ++ (" from \"".toList ++ (module ++ "\";".toList))) := rfl

theorem chars_render (component : List Char) (spread : Bool) (attributes : List Attribute) :
    (render spread attributes).chars component =
      "        render(<".toList ++ (component ++ (attributesText spread attributes ++ " />);".toList)) := rfl

theorem chars_query (component : List Char) (frame : Frame) (q : Query) :
    (query frame q).chars component = frame.before ++ (q.chars ++ frame.after) := rfl

theorem chars_classed (component name : List Char) : (classed name).chars component =
    "        expect(element).toHaveClass(\"".toList ++ (name ++ "\");".toList) := rfl

/-- Characters of modules. -/
def isModuleChar (c : Char) : Bool := isTame c || c == '/' || c == '@'

/-- What a suite imports of its testing library, between the braces. -/
def libraryNames : List Char := " render, screen, fireEvent ".toList

/-- A name between the braces of an import. -/
def spaced (name : List Char) : List Char := ' ' :: (name ++ [' '])

/-- A line that begins as no import does, or one of the imports that no rule changes. -/
def StartsFixed (text : List Char) : Prop :=
  text.head? ≠ some 'i' ∨ text = "import React from \"react\";".toList ∨
    text = "import \"@testing-library/jest-dom\";".toList

/-- The texts of a line are those of a suite for a component. -/
def Formed (component : List Char) : Line → Prop
  | fixed t => IsLine t ∧ (∀ mark : Mark, mark.Absent t) ∧ StartsFixed t
  | named content module =>
    (content = libraryNames ∨ content = spaced component) ∧ module.all isModuleChar = true
  | default name module => name.all isNameChar = true ∧ module.all isModuleChar = true
  | render _ attributes => ∀ a ∈ attributes, a.Formed
  | query _ q => q.Formed
  | classed name => name.all isTame = true

/-- The text of a suite for a component, from its lines. -/
def textOf (component : List Char) (d : List Line) : List Char := joinLines (d.map (chars component))

/-- The marks that a line may hold. -/
def marks : Line → List Mark
  | fixed _ | default _ _ => []
  | named _ _ => [.imports]
  | render spread _ => .rendering :: if spread then [.imports] else []
  | query _ q => q.marks
  | classed _ => [.classAssertion]

/-- No line is marked for the rules for quotes and closures. -/
theorem marks_ne (l : Line) : ∀ m ∈ l.marks, m ≠ .quote ∧ m ≠ .closure := by
  rcases l with t | ⟨c, m⟩ | ⟨n, m⟩ | ⟨spread, as⟩ | ⟨frame, q⟩ | n
  case render => cases spread <;> simp [marks]
  case query => cases q <;> simp [marks, Query.marks]
  all_goals simp [marks]

/-! ## Marks of lines -/

section
variable {mark : Mark}

theorem isTame_of_isAlphanum {c : Char} (h : c.isAlphanum = true) : isTame c = true :=
  isTame_of_isNameChar (isNameChar_of_isAlphanum h)

theorem all_tame_of_alphanum {cs : List Char} (h : cs.all Char.isAlphanum = true) : cs.all isTame = true :=
  List.all_eq_true.2 fun c hc => isTame_of_isAlphanum (List.all_eq_true.1 h c hc)

theorem all_tame_of_nameChar {cs : List Char} (h : cs.all isNameChar = true) : cs.all isTame = true :=
  List.all_eq_true.2 fun c hc => isTame_of_isNameChar (List.all_eq_true.1 h c hc)

theorem safe_module {cs : List Char} (h : cs.all isModuleChar = true) : mark.Safe cs := by
  refine .of_chars (List.all_eq_true.2 fun c hc => ?_)
  have := List.all_eq_true.1 h c hc
  simp only [isModuleChar, Bool.or_eq_true, beq_iff_eq] at this
  rcases this with (hc | rfl) | rfl
  · exact Mark.isSafe_of_isTame hc
  · decide
  · decide

/-- The text of an attribute completes no mark. -/
theorem safe_attribute {a : Attribute} (h : a.Formed) : mark.Safe (' ' :: a.chars) := by
  have hspace : mark.Safe [' '] := .of_chars (by decide)
  refine hspace.append ?_
  obtain ⟨-, hname, hvalue⟩ := h
  have hname : mark.Safe a.name := .of_tame (all_tame_of_nameChar hname)
  cases a with
  | flag n => exact hname
  | text n v =>
    have hopen : mark.Safe ['=', '"'] := .of_chars (by decide)
    have hclose : mark.Safe ['"'] := .of_chars (by decide)
    exact hname.append (hopen.append ((Mark.Safe.of_tame hvalue).append hclose))
  | expr n v =>
    refine hname.append ?_
    rcases hvalue with hconst | ⟨hne, hv⟩
    · intro before
      simp only [Attribute.constants, List.mem_cons, List.not_mem_nil, or_false] at hconst
      rcases hconst with rfl | rfl | rfl | rfl <;> cases mark <;> rfl
    · have hopen : mark.Safe ['=', '\x7b'] := fun before => by cases mark <;> rfl
      refine hopen.append (.word hne (List.all_eq_true.2 fun c hc => ?_) (Or.inl rfl) (Or.inr rfl))
      exact isNameChar_of_isAlphanum (List.all_eq_true.1 hv c hc)

theorem safe_attributes {attributes : List Attribute} (h : ∀ a ∈ attributes, a.Formed) :
    mark.Safe (attributes.flatMap fun a => ' ' :: a.chars) := by
  induction attributes with
  | nil => exact fun _ => rfl
  | cons a attributes ih =>
    rw [List.flatMap_cons]
    exact (safe_attribute (h a (by simp))).append (ih fun b hb => h b (by simp [hb]))

/-- A line with a query holds no marks but those of the query. -/
theorem safe_query {frame : Frame} {q : Query} (h : q.Formed) (hm : mark ∉ q.marks) :
    mark.Safe (frame.before ++ (q.chars ++ (frame.after ++ ['\n']))) := by
  have hbefore : mark.Safe frame.before := fun before => by cases frame <;> cases mark <;> rfl
  have hclose : mark.Safe ("\")".toList ++ (frame.after ++ ['\n'])) := fun before => by
    cases frame <;> cases mark <;> rfl
  refine hbefore.append ?_
  cases q with
  | role r =>
    have hrole : mark ≠ .roleQuery := fun e => hm (by simp [Query.marks, e])
    have hopen : mark.Safe "screen.getByRole(\"".toList := fun before => by
      cases mark <;> first | exact (hrole rfl).elim | rfl
    rw [Query.chars_role, List.append_assoc, List.append_assoc]
    exact hopen.append ((Mark.Safe.of_tame (all_tame_of_alphanum h)).append hclose)
  | text v =>
    have htext : mark ≠ .textQuery := fun e => hm (by simp [Query.marks, e])
    have hopen : mark.Safe "screen.getByText(".toList := fun before => by
      cases mark <;> first | exact (htext rfl).elim | rfl
    have hbracket : mark.Safe ([')'] ++ (frame.after ++ ['\n'])) := fun before => by
      cases frame <;> cases mark <;> rfl
    rw [Query.chars_text, List.append_assoc, List.append_assoc]
    exact hopen.append ((Mark.Safe.of_tame (all_tame_of_alphanum h)).append hbracket)
  | testId b =>
    have hopen : mark.Safe "screen.getByTestId(\"".toList := fun before => by cases mark <;> rfl
    rw [Query.chars_testId, List.append_assoc, List.append_assoc]
    exact hopen.append ((Mark.Safe.of_tame h).append hclose)
  | status =>
    have hrole : mark ≠ .roleQuery := fun e => hm (by simp [Query.marks, e])
    intro before
    cases frame <;> cases mark <;> first | exact (hrole rfl).elim | rfl
  | image =>
    have hrole : mark ≠ .roleQuery := fun e => hm (by simp [Query.marks, e])
    intro before
    cases frame <;> cases mark <;> first | exact (hrole rfl).elim | rfl

/-- A query without its first letter holds no mark at all. -/
theorem absent_queryTail {frame : Frame} {q : Query} (h : q.Formed) :
    mark.Absent (q.chars.tail ++ frame.after) := by
  have hclose : mark.Safe ("\")".toList ++ (frame.after ++ ['\n'])) := fun before => by
    cases frame <;> cases mark <;> rfl
  have hparts : ∀ u v, mark.free [] u = true → mark.Safe v → mark.free [] (u ++ v) = true := by
    intro u v hu hv
    rw [Mark.free_append, hu, hv]
    rfl
  unfold Mark.Absent
  rw [List.append_assoc]
  cases q with
  | role r =>
    show mark.free [] ("creen.getByRole(\"".toList ++ (r ++ "\")".toList) ++ _) = true
    rw [List.append_assoc, List.append_assoc]
    refine hparts _ _ (by cases mark <;> rfl) ?_
    exact (Mark.Safe.of_tame (all_tame_of_alphanum h)).append hclose
  | text v =>
    have hbracket : mark.Safe ([')'] ++ (frame.after ++ ['\n'])) := fun before => by
      cases frame <;> cases mark <;> rfl
    show mark.free [] ("creen.getByText(".toList ++ (v ++ [')']) ++ _) = true
    rw [List.append_assoc, List.append_assoc]
    refine hparts _ _ (by cases mark <;> rfl) ?_
    exact (Mark.Safe.of_tame (all_tame_of_alphanum h)).append hbracket
  | testId b =>
    show mark.free [] ("creen.getByTestId(\"".toList ++ (b ++ "\")".toList) ++ _) = true
    rw [List.append_assoc, List.append_assoc]
    exact hparts _ _ (by cases mark <;> rfl) ((Mark.Safe.of_tame h).append hclose)
  | status => cases frame <;> cases mark <;> rfl
  | image => cases frame <;> cases mark <;> rfl

theorem safe_content {component content : List Char} (hc : IsWord component)
    (h : content = libraryNames ∨ content = spaced component) : mark.Safe (content ++ ['\x7d']) := by
  rcases h with rfl | rfl
  · intro before
    cases mark <;> rfl
  · have hspace : mark.Safe [' '] := .of_chars (by decide)
    have hword : mark.Safe (component ++ ([' '] ++ ['\x7d'])) := .word hc.1 hc.nameChars (Or.inr rfl) (Or.inr rfl)
    simpa [spaced] using hspace.append hword

/-- A line holds no marks but those that are told. -/
theorem absent {component : List Char} {l : Line} (hc : IsWord component) (h : l.Formed component)
    (hm : mark ∉ l.marks) : mark.Absent (l.chars component) := by
  have hcomponent : mark.Safe component := .of_tame (all_tame_of_nameChar hc.nameChars)
  have hend : mark.Safe ("\";".toList ++ ['\n']) := fun before => by cases mark <;> rfl
  have hfrom : mark.Safe " from \"".toList := .of_chars (by decide)
  cases l with
  | fixed t => exact h.2.1 mark
  | named content module =>
    have himports : mark ≠ .imports := fun e => hm (by simp [marks, e])
    have hopen : mark.Safe "import \x7b".toList := fun before => by
      cases mark <;> first | exact (himports rfl).elim | rfl
    have hall := hopen.append ((safe_content hc h.1).append
      (hfrom.append ((safe_module h.2).append hend)))
    refine Mark.Safe.absent ?_
    rw [chars_named]
    simpa only [List.append_assoc, List.cons_append, List.nil_append] using hall
  | default name module =>
    have hopen : mark.Safe "import ".toList := .of_chars (by decide)
    have hall := hopen.append ((Mark.Safe.of_tame (all_tame_of_nameChar h.1)).append
      (hfrom.append ((safe_module h.2).append hend)))
    refine Mark.Safe.absent ?_
    rw [chars_default]
    simpa only [List.append_assoc] using hall
  | render spread attributes =>
    have hrendering : mark ≠ .rendering := fun e => hm (by simp [marks, e])
    have hopen : mark.Safe "        render(<".toList := fun before => by
      cases mark <;> first | exact (hrendering rfl).elim | rfl
    have hspread : mark.Safe (if spread then spreadAttribute else []) := by
      intro before
      cases spread with
      | false => rfl
      | true =>
        have himports : mark ≠ .imports := fun e => hm (by simp [marks, e])
        cases mark <;> first | exact (himports rfl).elim | rfl
    have hclose : mark.Safe (" />);".toList ++ ['\n']) := fun before => by cases mark <;> rfl
    have hall := hopen.append (hcomponent.append (hspread.append ((safe_attributes h).append hclose)))
    refine Mark.Safe.absent ?_
    rw [chars_render, attributesText]
    simpa only [List.append_assoc] using hall
  | query frame q =>
    refine Mark.Safe.absent ?_
    rw [chars_query, List.append_assoc, List.append_assoc]
    exact safe_query h hm
  | classed name =>
    have hclassed : mark ≠ .classAssertion := fun e => hm (by simp [marks, e])
    have hopen : mark.Safe "        expect(element).toHaveClass(\"".toList := fun before => by
      cases mark <;> first | exact (hclassed rfl).elim | rfl
    have hclose : mark.Safe ("\");".toList ++ ['\n']) := fun before => by cases mark <;> rfl
    have hall := hopen.append ((Mark.Safe.of_tame h).append hclose)
    refine Mark.Safe.absent ?_
    rw [chars_classed]
    simpa only [List.append_assoc] using hall

end

/-! ## Line breaks -/

theorem isLine_module {cs : List Char} (h : cs.all isModuleChar = true) : IsLine cs := by
  intro c hc
  have := List.all_eq_true.1 h c hc
  simp only [isModuleChar, Bool.or_eq_true, beq_iff_eq] at this
  rcases this with (hc | rfl) | rfl
  · exact isLineBreak_of_isTame hc
  · rfl
  · rfl

theorem isLine_attribute {a : Attribute} (h : a.Formed) : IsLine (' ' :: a.chars) := by
  obtain ⟨-, hname, hvalue⟩ := h
  have hname : IsLine a.name := .of_tame (all_tame_of_nameChar hname)
  have hspace : IsLine [' '] := by decide
  refine hspace.append ?_
  cases a with
  | flag n => exact hname
  | text n v =>
    have hopen : IsLine ['=', '"'] := by decide
    have hclose : IsLine ['"'] := by decide
    exact hname.append (hopen.append ((IsLine.of_tame hvalue).append hclose))
  | expr n v =>
    have hopen : IsLine ['=', '\x7b'] := by decide
    have hclose : IsLine ['\x7d'] := by decide
    refine hname.append (hopen.append (IsLine.append ?_ hclose))
    rcases hvalue with hconst | ⟨-, hv⟩
    · have htable : ∀ v ∈ Attribute.constants, IsLine v := by decide
      exact htable v hconst
    · exact .of_tame (all_tame_of_alphanum hv)

theorem isLine_query {q : Query} (h : q.Formed) : IsLine q.chars := by
  have hclose : IsLine "\")".toList := by decide
  cases q with
  | role r =>
    have hopen : IsLine "screen.getByRole(\"".toList := by decide
    exact hopen.append ((IsLine.of_tame (all_tame_of_alphanum h)).append hclose)
  | text v =>
    have hopen : IsLine "screen.getByText(".toList := by decide
    have hbracket : IsLine [')'] := by decide
    exact hopen.append ((IsLine.of_tame (all_tame_of_alphanum h)).append hbracket)
  | testId b =>
    have hopen : IsLine "screen.getByTestId(\"".toList := by decide
    exact hopen.append ((IsLine.of_tame h).append hclose)
  | status => decide
  | image => decide

/-- The text of a line is one line. -/
theorem isLine {component : List Char} {l : Line} (hc : IsWord component) (h : l.Formed component) :
    IsLine (l.chars component) := by
  have hcomponent : IsLine component := .of_tame (all_tame_of_nameChar hc.nameChars)
  have hfrom : IsLine " from \"".toList := by decide
  have hend : IsLine "\";".toList := by decide
  cases l with
  | fixed t => exact h.1
  | named content module =>
    have hopen : IsLine "import \x7b".toList := by decide
    have hbrace : IsLine ['\x7d'] := by decide
    have hspace : IsLine [' '] := by decide
    have hcontent : IsLine content := by
      rcases h.1 with rfl | rfl
      · decide
      · exact hspace.append (hcomponent.append hspace)
    exact hopen.append (hcontent.append (hbrace.append (hfrom.append ((isLine_module h.2).append hend))))
  | default name module =>
    have hopen : IsLine "import ".toList := by decide
    have hname : IsLine name := .of_tame (all_tame_of_nameChar h.1)
    exact hopen.append (hname.append (hfrom.append ((isLine_module h.2).append hend)))
  | render spread attributes =>
    have hopen : IsLine "        render(<".toList := by decide
    have hclose : IsLine " />);".toList := by decide
    have hspread : IsLine (if spread then spreadAttribute else []) := by cases spread <;> decide
    have hattributes : IsLine (attributes.flatMap fun a => ' ' :: a.chars) := by
      intro c hmem
      obtain ⟨a, ha, hmem⟩ := List.mem_flatMap.1 hmem
      exact isLine_attribute (h a ha) c hmem
    exact hopen.append (hcomponent.append ((hspread.append hattributes).append hclose))
  | query frame q =>
    have hbefore : IsLine frame.before := by cases frame <;> decide
    have hafter : IsLine frame.after := by cases frame <;> decide
    exact hbefore.append ((isLine_query h).append hafter)
  | classed name =>
    have hopen : IsLine "        expect(element).toHaveClass(\"".toList := by decide
    have hclose : IsLine "\");".toList := by decide
    exact hopen.append ((IsLine.of_tame h).append hclose)

end Line

end Suitewright
