/-
  The names of components that declare none.

  * `head?_joinCapitalized`: joined words begin with the first letter or digit, as a capital if it is a letter;
  * `Component.nameSource`: the part of a path that such a name is made from; `displayName_toList`;
  * `IsComponentName`: letters and digits with a capital in front; `displayName_component`: when the name is such;
  * `readNamedImport?`, `readRendering?`: readers of the lines that hold the name;
  * `displayName_usable`: the lines are read back unless the first letter or digit of the path's part is a digit.
-/
import Suitewright.Proofs.Project.Importing
import Suitewright.Proofs.Suite.Literals
import Suitewright.Proofs.Suite.Renderings

namespace Suitewright

open Text

/-! ## Joined words -/

theorem toUpper_cases {c : Char} (hc : c.isAlphanum = true) :
    upperChars c = [c.toUpper] ∧ (c.toUpper.isUpper = true ↔ c.isDigit = false) ∧
      (isIdentifierStart c.toUpper = true ↔ c.isDigit = false) := by
  have hlt := toNat_of_isAlphanum hc
  have htable := forall_ascii (p := fun c => !c.isAlphanum ||
    (c.toUpper.isUpper == !c.isDigit && isIdentifierStart c.toUpper == !c.isDigit)) (by decide) hlt
  rw [hc, Bool.not_true, Bool.false_or, Bool.and_eq_true, beq_iff_eq, beq_iff_eq] at htable
  rw [upperChars, if_pos hlt, htable.1, htable.2]
  simp

/-- Joined words begin with the first letter or digit. -/
theorem head?_joinCapitalized (cs : List Char) :
    (joinCapitalized cs).head? = (cs.find? Char.isAlphanum).map Char.toUpper := by
  have hwhole : ∀ u : List Char, u.all Char.isAlphanum = true →
      (joinCapitalized u).head? = (u.find? Char.isAlphanum).map Char.toUpper := by
    intro u hu
    cases u with
    | nil => rfl
    | cons c u =>
      obtain ⟨hc, -⟩ := Bool.and_eq_true_iff.1 (List.all_cons.symm.trans hu)
      rw [joinCapitalized, runsOf_all_eq hu, if_neg (List.cons_ne_nil c u), List.flatMap_singleton, capitalizeChars,
        (toUpper_cases hc).1, List.find?_cons_of_pos hc]
      rfl
  induction cs using runs_induction Char.isAlphanum with
  | whole u hu => exact hwhole u hu
  | parted u c v hu hc ih =>
    have hjoin : joinCapitalized (u ++ c :: v) = joinCapitalized u ++ joinCapitalized v := by
      rw [joinCapitalized, runsOf_append hc, List.flatMap_append]
      rfl
    rw [hjoin, List.head?_append, hwhole u hu, ih, List.find?_append, List.find?_cons_of_neg (by simp [hc])]
    cases u.find? Char.isAlphanum <;> rfl

/-! ## Names from paths -/

/-- The part of a path that a name is made from: the file's name without its extension, or for an index the directory's. -/
def Component.nameSource (m : Component) : List Char :=
  let path := Path.ofSource m.sourcePath
  let stem := dropSourceExtension path.name.toList
  if stem == "index".toList && !path.parent.name.isEmpty then path.parent.name.toList else stem

/-- Whether the first letter or digit of a text is a digit. -/
def leadsWithDigit (cs : List Char) : Bool := (cs.find? Char.isAlphanum).any Char.isDigit

/-- Names of components: letters and digits of ASCII with a capital in front. -/
def IsComponentName (name : List Char) : Prop := name.head?.any Char.isUpper = true ∧ name.all Char.isAlphanum = true

section
variable {m : Component}

theorem displayName_toList (h : m.name = "") : m.displayName.toList =
    if joinCapitalized m.nameSource = [] then "Component".toList else joinCapitalized m.nameSource := by
  have hname : m.name.isEmpty = true := String.isEmpty_iff.2 h
  rw [Component.displayName, if_pos hname]
  show (if (joinCapitalized m.nameSource).isEmpty = true then _ else String.ofList (joinCapitalized m.nameSource)).toList = _
  simp only [List.isEmpty_iff]
  split
  · rfl
  · exact String.toList_ofList

theorem displayName_alphanum (h : m.name = "") : m.displayName.toList.all Char.isAlphanum = true := by
  rw [displayName_toList h]
  split
  · decide
  · exact joinCapitalized_alphanum _

/-- The first character of a name is that of its joined words, if there are any. -/
theorem displayName_head (h : m.name = "") :
    ∃ c, m.displayName.toList.head? = some c ∧ (c.isUpper = true ↔ leadsWithDigit m.nameSource = false) ∧
      (isIdentifierStart c = true ↔ leadsWithDigit m.nameSource = false) := by
  have hhead := head?_joinCapitalized m.nameSource
  rw [displayName_toList h, leadsWithDigit]
  cases hfirst : m.nameSource.find? Char.isAlphanum with
  | none =>
    rw [hfirst, Option.map_none, List.head?_eq_none_iff] at hhead
    rw [if_pos hhead]
    exact ⟨'C', by decide, by decide, by decide⟩
  | some c =>
    obtain ⟨-, hupper, hstart⟩ := toUpper_cases (List.find?_some hfirst)
    rw [hfirst, Option.map_some] at hhead
    have hne : joinCapitalized m.nameSource ≠ [] := fun hnil => by
      rw [hnil] at hhead
      cases hhead
    rw [if_neg hne]
    exact ⟨c.toUpper, hhead, hupper, hstart⟩

theorem displayName_component (h : m.name = "") :
    IsComponentName m.displayName.toList ↔ leadsWithDigit m.nameSource = false := by
  obtain ⟨c, hhead, hupper, -⟩ := displayName_head h
  rw [IsComponentName, hhead, Option.any_some, hupper]
  exact and_iff_left (displayName_alphanum h)

/-! ## Lines with the name -/

/-- Reads a line that imports a name: the name and the module. -/
def readNamedImport? (line : List Char) : Option (String × String) := do
  let rest ← after? "import \x7b ".toList line
  let (name, rest) ← readIdentifier? rest
  let rest ← after? " \x7d from \"".toList rest
  let (module, rest) ← (Json.readText rest).toOption
  if rest = [';'] then some (name, module) else none

/-- Reads the name of the element that a line renders, and what is left. -/
def readRendering? (line : List Char) : Option (String × List Char) := do
  let rest ← after? "render(<".toList line
  readIdentifier? rest

/-- A name that is made from a path is read back in front of a blank, unless it begins with a digit. -/
theorem readIdentifier?_displayName (h : m.name = "") (cs : List Char) :
    readIdentifier? (m.displayName.toList ++ ' ' :: cs) =
      if leadsWithDigit m.nameSource then none else some (m.displayName, ' ' :: cs) := by
  obtain ⟨c, hhead, -, hstart⟩ := displayName_head h
  cases hdigit : leadsWithDigit m.nameSource with
  | true =>
    obtain ⟨rest, hchars⟩ := List.head?_eq_some_iff.1 hhead
    have hc : isIdentifierStart c = false := by
      rw [Bool.eq_false_iff, Ne, hstart, hdigit]
      decide
    rw [hchars, List.cons_append, readIdentifier?_none hc]
    rfl
  | false =>
    have hname : IsIdentifier m.displayName.toList := by
      refine ⟨?_, List.all_eq_true.2 fun d hd => ?_⟩
      · rw [hhead, Option.any_some]
        exact hstart.2 hdigit
      · exact isIdentifierPart_of_isAlphanum (List.all_eq_true.1 (displayName_alphanum h) d hd)
    have hspace : ∀ d ∈ (' ' :: cs).head?, isIdentifierPart d = false := by
      rintro d ⟨⟩
      decide
    rw [readIdentifier?_append hname hspace, String.ofList_toList]
    rfl

theorem importLine_chars (m : Component) : m.importLine.toList = "import \x7b ".toList ++
    (m.displayName.toList ++ (" \x7d from \"".toList ++ (quoteBody (importPath m.sourcePath).toList ++ ['"', ';']))) := by
  have hopen : "import \x7b ".toList = "import ".toList ++ ['\x7b', ' '] := by decide
  have hfrom : " \x7d from \"".toList = ' ' :: '\x7d' :: (" from ".toList ++ ['"']) := by decide
  have hspace : " ".toList = [' '] := by decide
  have hend : ";".toList = [';'] := by decide
  rw [Component.importLine, hopen, hfrom]
  simp only [String.toList_append, braced_toList, quote_toList, hspace, hend, List.append_assoc, List.cons_append,
    List.nil_append]

/-- The line that imports the component is read back, unless its name begins with a digit. -/
theorem readNamedImport?_importLine (h : m.name = "") : readNamedImport? m.importLine.toList =
    if leadsWithDigit m.nameSource then none else some (m.displayName, importPath m.sourcePath) := by
  have hfrom : " \x7d from \"".toList = ' ' :: "\x7d from \"".toList := by decide
  have hname := readIdentifier?_displayName h ("\x7d from \"".toList ++ (quoteBody (importPath m.sourcePath).toList ++ ['"', ';']))
  rw [← List.cons_append, ← hfrom] at hname
  simp only [readNamedImport?, Option.bind_eq_bind]
  rw [importLine_chars, after?_append, Option.bind_some, hname]
  split
  · rfl
  · rw [Option.bind_some]
    dsimp only
    rw [after?_append, Option.bind_some, Json.readText_quote]
    rfl

/-- A blank follows the name of a rendered component. -/
theorem exists_rendered (m : Component) (t : Topic) : ∃ cs, (m.rendered t ++ " />);").toList = ' ' :: cs := by
  have hspread (extra : String) : ∃ cs, (" " ++ braced "...requiredProps" ++ extra ++ " />);").toList = ' ' :: cs := by
    simp only [String.append_assoc, String.toList_append]
    exact ⟨_, rfl⟩
  by_cases ht : t = .rendering
  · subst ht
    rw [Component.rendered]
    split
    · exact ⟨"/>);".toList, by decide⟩
    · simp only [String.append_assoc, String.toList_append]
      exact ⟨_, rfl⟩
  · rw [Component.rendered_eq ht]
    exact hspread _

/-- So is the name in the line of a case that renders the component. -/
theorem readRendering?_elementLine (h : m.name = "") (t : Topic) : readRendering? (m.elementLine t).toList =
    if leadsWithDigit m.nameSource then none else some (m.displayName, (m.rendered t ++ " />);").toList) := by
  obtain ⟨cs, hcs⟩ := exists_rendered m t
  simp only [readRendering?, Option.bind_eq_bind]
  rw [Component.elementLine, String.append_assoc, String.append_assoc, String.toList_append, after?_append, Option.bind_some,
    String.toList_append, hcs]
  exact readIdentifier?_displayName h cs

/-- Without a declared name a component is named by letters and digits of ASCII, at least one. The name has a capital in
front, and is read back from the line that imports it and from every line that renders it, unless the first letter or digit of
the path's part that it is made from is a digit; then it begins with the digit, and none of these lines is read. -/
theorem displayName_usable {m : Component} (h : m.name = "") :
    m.displayName.toList ≠ [] ∧ m.displayName.toList.all Char.isAlphanum = true ∧
      (IsComponentName m.displayName.toList ↔ leadsWithDigit m.nameSource = false) ∧
      readNamedImport? m.importLine.toList =
        (if leadsWithDigit m.nameSource then none else some (m.displayName, importPath m.sourcePath)) ∧
      ∀ t, readRendering? (m.elementLine t).toList =
        if leadsWithDigit m.nameSource then none else some (m.displayName, (m.rendered t ++ " />);").toList) := by
  obtain ⟨c, hhead, -⟩ := displayName_head h
  refine ⟨fun hnil => ?_, displayName_alphanum h, displayName_component h, readNamedImport?_importLine h,
    readRendering?_elementLine h⟩
  rw [hnil] at hhead
  cases hhead

end

/-- A digit in front is kept. -/
example : Component.displayName { sourcePath := "src/3d-view.tsx" } = "3dView" := by decide

/-- A component that is named by its directory. -/
def pickerComponent : Component := { sourcePath := "src\\components\\date-picker/index.tsx" }

theorem displayName_usable_picker : pickerComponent.name = "" ∧ IsComponentName "DatePicker".toList ∧
    readNamedImport? "import \x7b DatePicker \x7d from \"../index\";".toList = some ("DatePicker", "../index") ∧
    readRendering? "render(<DatePicker />);".toList = some ("DatePicker", " />);".toList) := by
  have hname : pickerComponent.displayName = "DatePicker" := by decide
  have hdigit : leadsWithDigit pickerComponent.nameSource = false := by decide
  have himport : pickerComponent.importLine = "import \x7b DatePicker \x7d from \"../index\";" := by decide
  have hline : pickerComponent.elementLine .rendering = "render(<DatePicker />);" := by decide
  have hpath : importPath pickerComponent.sourcePath = "../index" := by decide
  obtain ⟨-, -, hcomponent, hread, hrendering⟩ := displayName_usable (m := pickerComponent) rfl
  have hbasic := hrendering .rendering
  rw [himport, hname, hpath, hdigit] at hread
  rw [hline, hname, hdigit] at hbasic
  rw [hname] at hcomponent
  exact ⟨rfl, hcomponent.2 hdigit, hread, hbasic⟩

end Suitewright
