/-
  A suite as a list of lines.

  * `joinLines_intercalate`: joined lines, as the text of a suite writes them;
  * `opensCase`: whether a line opens a case;
  * `suite_drawn`: the suite of a plain component consists of lines of a suite, and those that open a case are the
    openings of its cases.
-/
import Suitewright.Proofs.Suite.Cases

namespace Suitewright

open Text

/-! ## Joined lines -/

theorem joinLines_intercalate {ls : List (List Char)} (h : ls ≠ []) :
    ['\n'].intercalate ls ++ ['\n'] = joinLines ls := by
  induction ls with
  | nil => exact absurd rfl h
  | cons l ls ih =>
    cases ls with
    | nil => simp [joinLines]
    | cons l' ls =>
      rw [List.intercalate_cons_cons, List.append_assoc, ih (List.cons_ne_nil _ _), joinLines_cons]
      simp

theorem intercalate_toList {ls : List String} (h : ls ≠ []) :
    ("\n".intercalate ls).toList ++ ['\n'] = joinLines (ls.map String.toList) := by
  rw [String.toList_intercalate]
  exact joinLines_intercalate (by simpa using h)

/-- A text of several lines among joined lines. -/
theorem joinLines_text {text : List Char} {ls : List (List Char)} (h : text ++ ['\n'] = joinLines ls)
    (rest : List (List Char)) : joinLines (text :: rest) = joinLines (ls ++ rest) := by
  rw [joinLines_cons, joinLines_append, ← h]
  simp

/-! ## Openings -/

/-- Whether a line opens a case. -/
def opensCase (line : List Char) : Bool := "    it(".toList.isPrefixOf line && ", () => \x7b".toList.isSuffixOf line

theorem opensCase_indented (t : List Char) : opensCase (bodyIndent ++ t) = false := rfl

theorem opensCase_bodyLine (line : String) : opensCase (TestCase.bodyLine line).toList = false := by
  rw [TestCase.bodyLine]
  split
  · rfl
  · have hindent : bodyIndent = indent.toList ++ indent.toList := by decide
    rw [String.toList_append, String.toList_append, ← hindent]
    exact opensCase_indented _

theorem opening_toList (title : String) : (TestCase.opening title).toList =
    "    it(".toList ++ ('"' :: (quoteBody title.toList ++ ['"']) ++ ", () => \x7b".toList) := by
  have hopen : "    it(".toList = indent.toList ++ "it(".toList := by decide
  show (indent ++ "it(" ++ Json.quote title ++ ", () => \x7b").toList = _
  rw [String.toList_append, String.toList_append, String.toList_append, quote_toList, hopen]
  simp only [List.append_assoc]

theorem opensCase_opening (title : String) : opensCase (TestCase.opening title).toList = true := by
  rw [opening_toList, opensCase, Bool.and_eq_true, List.isPrefixOf_iff_prefix, List.isSuffixOf_iff_suffix]
  exact ⟨⟨_, rfl⟩, ⟨"    it(".toList ++ '"' :: (quoteBody title.toList ++ ['"']), by simp only [List.append_assoc]⟩⟩

section
variable {component : List Char}

theorem drawn_opening {title : String} (h : IsTameText title) : Drawn component (TestCase.opening title).toList := by
  have hopen : Calm ("    it(".toList ++ ['"']) := ⟨by decide, fun mark before => by cases mark <;> rfl⟩
  have hend : CalmEnd (['"'] ++ ", () => \x7b".toList) := ⟨by decide, fun mark before => by cases mark <;> rfl⟩
  have hbody : Calm (quoteBody title.toList) := .of_tame (quoteBody_tame_of_tame h)
  have hparts : (TestCase.opening title).toList =
      ("    it(".toList ++ ['"']) ++ (quoteBody title.toList ++ (['"'] ++ ", () => \x7b".toList)) := by
    rw [opening_toList]
    simp only [List.append_assoc, List.cons_append, List.nil_append]
  rw [hparts]
  exact .calm (hopen.close (hbody.close hend)) (by rw [← hparts, opening_toList]; exact fun h => by cases h)

theorem drawn_closing : Drawn component TestCase.closing.toList :=
  .fixed (by decide) (fun mark => by cases mark <;> decide) (by decide)

/-- The lines of a case. -/
def caseLines (title : String) (body : List String) : List (List Char) :=
  (TestCase.opening title).toList :: (body.map fun line => (TestCase.bodyLine line).toList) ++ [TestCase.closing.toList]

theorem make_lines (title description : String) (body : List String) :
    (TestCase.make title description body).fragment.toList ++ ['\n'] = joinLines (caseLines title body) := by
  show ("\n".intercalate (TestCase.opening title :: (body.map TestCase.bodyLine ++ [TestCase.closing]))).toList ++ _ = _
  rw [intercalate_toList (List.cons_ne_nil _ _)]
  simp [caseLines, Function.comp_def]

theorem caseLines_drawn {title : String} {body : List String} (h : IsTameText title)
    (hbody : ∀ line ∈ body, DrawnBody component line) : ∀ t ∈ caseLines title body, Drawn component t := by
  rw [caseLines, List.cons_append, List.forall_mem_cons, List.forall_mem_append, List.forall_mem_singleton]
  exact ⟨drawn_opening h, List.forall_mem_map.2 hbody, drawn_closing⟩

theorem caseLines_openings (title : String) (body : List String) :
    (caseLines title body).filter opensCase = [(TestCase.opening title).toList] := by
  have hclosing : opensCase TestCase.closing.toList = false := by decide
  have hbody : (body.map fun line => (TestCase.bodyLine line).toList).filter opensCase = [] := by
    rw [List.filter_eq_nil_iff]
    intro t ht
    obtain ⟨line, -, rfl⟩ := List.mem_map.1 ht
    rw [opensCase_bodyLine]
    simp
  rw [caseLines, List.cons_append, List.filter_cons, opensCase_opening, if_pos rfl, List.filter_append, hbody,
    List.filter_cons, hclosing]
  rfl

/-- What holds of the lines of each case holds of the lines of all of them, with empty lines in between; those that open a
case are their openings. -/
theorem fragments_lines {P : List Char → Prop} (hempty : P []) {cases : List TestCase} (hne : cases ≠ [])
    (h : ∀ c ∈ cases, ∃ title description body, c = .make title description body ∧ ∀ t ∈ caseLines title body, P t) :
    ∃ ls : List (List Char), ("\n\n".intercalate (cases.map TestCase.fragment)).toList ++ ['\n'] = joinLines ls ∧
      (∀ t ∈ ls, P t) ∧ ls.filter opensCase = cases.map fun c => (TestCase.opening c.name).toList := by
  induction cases with
  | nil => exact absurd rfl hne
  | cons c cases ih =>
    obtain ⟨title, description, body, rfl, hlines⟩ := h c (by simp)
    cases cases with
    | nil =>
      refine ⟨caseLines title body, ?_, hlines, caseLines_openings title body⟩
      rw [List.map_cons, List.map_nil, String.intercalate_singleton, make_lines]
    | cons c cases =>
      obtain ⟨ls, hls, hrest, hopenings⟩ := ih (List.cons_ne_nil _ _) fun c' hc' => h c' (by simp [hc'])
      refine ⟨caseLines title body ++ [] :: ls, ?_, ?_, ?_⟩
      · have hsep : "\n\n".toList = ['\n', '\n'] := by decide
        have hparts : ∀ u v : List Char, u ++ ['\n', '\n'] ++ v ++ ['\n'] = (u ++ ['\n']) ++ '\n' :: (v ++ ['\n']) := by
          simp
        rw [List.map_cons, List.map_cons, String.intercalate_cons_cons, String.toList_append, String.toList_append,
          ← List.map_cons, hsep, hparts, hls, make_lines, joinLines_append, joinLines_cons, List.nil_append]
      · rw [List.forall_mem_append, List.forall_mem_cons]
        exact ⟨hlines, hempty, hrest⟩
      · rw [List.filter_append, caseLines_openings, List.filter_cons, hopenings]
        rfl

/-! ## Suites -/

/-- The line that opens the block of the cases. -/
def Component.blockOpening (m : Component) : String :=
  "describe(" ++ Json.quote (m.displayName ++ " Component") ++ ", () => \x7b"

theorem blockOpening_toList (m : Component) : m.blockOpening.toList = "describe(".toList ++
    ('"' :: (quoteBody (m.displayName ++ " Component").toList ++ ['"']) ++ ", () => \x7b".toList) := by
  rw [Component.blockOpening, String.toList_append, String.toList_append, quote_toList, List.append_assoc]

/-- The lines before the cases of a suite. -/
def headLines (m : Component) : List (List Char) :=
  ["import React from \"react\";".toList,
    "import \x7b render, screen, fireEvent \x7d from \"@testing-library/react\";".toList,
    "import \"@testing-library/jest-dom\";".toList, m.importLine.toList, [], "/**".toList,
    " * Test suite for the ".toList ++ (m.displayName.toList ++ " component.".toList), " */".toList,
    m.blockOpening.toList]

theorem importLine_toList {m : Component} (hm : m.IsPlain) : m.importLine.toList =
    (Line.named (Line.spaced m.displayName.toList) (importPath m.sourcePath).toList).chars m.displayName.toList := by
  have hopen : "import \x7b".toList = "import ".toList ++ ['\x7b'] := by decide
  have hfrom : " from \"".toList = " from ".toList ++ ['"'] := by decide
  have hclose : "\";".toList = ['"'] ++ ";".toList := by decide
  have hspace : " ".toList = [' '] := by decide
  show ("import " ++ braced (" " ++ m.displayName ++ " ") ++ " from " ++ Json.quote (importPath m.sourcePath) ++
    ";").toList = _
  rw [String.toList_append, String.toList_append, String.toList_append, String.toList_append, braced_toList,
    String.toList_append, String.toList_append, quote_toList, quoteBody_plain (importPath_plain hm.path).1, hspace,
    Line.chars_named, hopen, hfrom, hclose]
  simp only [Line.spaced, List.append_assoc, List.cons_append, List.nil_append]

theorem headLines_drawn {m : Component} (hm : m.IsPlain) : ∀ t ∈ headLines m, Drawn m.displayName.toList t := by
  have hname : Calm m.displayName.toList := .of_nameChar hm.name.nameChars
  have htitle : IsTameText (m.displayName ++ " Component") :=
    IsTameText.append (Line.all_tame_of_nameChar hm.name.nameChars) (by unfold IsTameText; decide)
  simp only [headLines, List.forall_mem_cons]
  refine ⟨?_, ?_, ?_, ?_, .empty, ?_, ?_, ?_, ?_, by simp⟩
  · exact ⟨.fixed _, ⟨by decide, fun mark => by cases mark <;> decide, Or.inr (Or.inl rfl)⟩, rfl⟩
  · exact ⟨.named Line.libraryNames "@testing-library/react".toList, ⟨Or.inl rfl, by decide⟩,
      by rw [Line.chars_named]; decide⟩
  · exact ⟨.fixed _, ⟨by decide, fun mark => by cases mark <;> decide, Or.inr (Or.inr rfl)⟩, rfl⟩
  · exact ⟨.named (Line.spaced m.displayName.toList) (importPath m.sourcePath).toList,
      ⟨Or.inr rfl, (importPath_plain hm.path).2⟩, (importLine_toList hm).symm⟩
  · exact .fixed (by decide) (fun mark => by cases mark <;> decide) (by decide)
  · have hopen : Calm " * Test suite for the ".toList := .of_chars (by decide) (by decide)
    have hend : CalmEnd " component.".toList := ⟨by decide, fun mark before => by cases mark <;> rfl⟩
    exact .calm (hopen.close (hname.close hend)) (fun h => by cases h)
  · exact .fixed (by decide) (fun mark => by cases mark <;> decide) (by decide)
  · have hopen : Calm ("describe(".toList ++ ['"']) := ⟨by decide, fun mark before => by cases mark <;> rfl⟩
    have hend : CalmEnd (['"'] ++ ", () => \x7b".toList) := ⟨by decide, fun mark before => by cases mark <;> rfl⟩
    have hbody : Calm (quoteBody (m.displayName ++ " Component").toList) := .of_tame (quoteBody_tame_of_tame htitle)
    have hparts : m.blockOpening.toList = ("describe(".toList ++ ['"']) ++
        (quoteBody (m.displayName ++ " Component").toList ++ (['"'] ++ ", () => \x7b".toList)) := by
      rw [blockOpening_toList]
      simp only [List.append_assoc, List.cons_append, List.nil_append]
    rw [hparts]
    exact .calm (hopen.close (hbody.close hend)) (fun h => by cases h)

theorem headLines_openings {m : Component} (hm : m.IsPlain) : (headLines m).filter opensCase = [] := by
  rw [List.filter_eq_nil_iff]
  have hopens : ∀ t ∈ headLines m, opensCase t = false := by
    simp only [headLines, List.forall_mem_cons]
    exact ⟨by decide, by decide, by decide, by rw [importLine_toList hm]; rfl, by decide, by decide, rfl, by decide,
      by rw [blockOpening_toList]; rfl, by simp⟩
  intro t ht
  simp [hopens t ht]

theorem importHeader_lines : importHeader.toList ++ ['\n'] = joinLines ["import React from \"react\";".toList,
    "import \x7b render, screen, fireEvent \x7d from \"@testing-library/react\";".toList,
    "import \"@testing-library/jest-dom\";".toList] := by
  decide +kernel

theorem suite_lines {m : Component} {ls : List (List Char)}
    (h : ("\n\n".intercalate (m.buildCases.map TestCase.fragment)).toList ++ ['\n'] = joinLines ls) :
    m.suite.toList = joinLines (headLines m ++ (ls ++ ["\x7d);".toList])) := by
  have hcomment : (" * Test suite for the " ++ m.displayName ++ " component.").toList =
      " * Test suite for the ".toList ++ (m.displayName.toList ++ " component.".toList) := by
    rw [String.toList_append, String.toList_append, List.append_assoc]
  have hbreak : "\n".toList = ['\n'] := by decide
  show ("\n".intercalate [importHeader, m.importLine, "", "/**", " * Test suite for the " ++ m.displayName ++ " component.",
    " */", m.blockOpening, "\n\n".intercalate (m.buildCases.map TestCase.fragment), "\x7d);"] ++ "\n").toList = _
  rw [String.toList_append, hbreak, intercalate_toList (List.cons_ne_nil _ _)]
  simp only [List.map_cons, List.map_nil, hcomment]
  rw [joinLines_text importHeader_lines, joinLines_append (headLines m), ← joinLines_text h, ← joinLines_append]
  rfl

/-- The suite of a plain component consists of lines of a suite, and those that open a case are the openings of its
cases. -/
theorem suite_drawn {m : Component} (hm : m.IsPlain) :
    ∃ d : List Line, (∀ l ∈ d, l.Formed m.displayName.toList) ∧ m.suite.toList = Line.textOf m.displayName.toList d ∧
      (d.map (Line.chars m.displayName.toList)).filter opensCase =
        m.buildCases.map fun c => (TestCase.opening c.name).toList := by
  have hne : m.buildCases ≠ [] := List.cons_ne_nil _ _
  have hlines : ∀ c ∈ m.buildCases, ∃ title description body, c = .make title description body ∧
      ∀ t ∈ caseLines title body, Drawn m.displayName.toList t := by
    intro c hc
    obtain ⟨title, description, body, rfl, htitle, hbody⟩ := buildCases_drawn hm c hc
    exact ⟨title, description, body, rfl, caseLines_drawn htitle hbody⟩
  obtain ⟨ls, hls, hdrawn, hopenings⟩ := fragments_lines .empty hne hlines
  have hend : Drawn m.displayName.toList "\x7d);".toList :=
    .fixed (by decide) (fun mark => by cases mark <;> decide) (by decide)
  have hall : ∀ t ∈ headLines m ++ (ls ++ ["\x7d);".toList]), Drawn m.displayName.toList t := by
    rw [List.forall_mem_append, List.forall_mem_append, List.forall_mem_singleton]
    exact ⟨headLines_drawn hm, hdrawn, hend⟩
  obtain ⟨d, hd, hchars⟩ := Drawn.all hall
  refine ⟨d, hd, ?_, ?_⟩
  · rw [suite_lines hls, Line.textOf, hchars]
  · have hlast : ["\x7d);".toList].filter opensCase = [] := by decide
    rw [hchars, List.filter_append, List.filter_append, headLines_openings hm, hopenings, hlast, List.nil_append,
      List.append_nil]

end

end Suitewright
