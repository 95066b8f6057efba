/-
  What the rule for names that are not exported makes of a line.

  * `namesSymbol`: whether a symbol stands as a whole word between braces;
  * `namedImportOf?_brace`: the braces follow `import` at once;
  * `Line.byDefault`, `defaultImport_textOf`: what the rule makes of a line and of a suite.

  The rule does not ask whether `import` is a word of its own: it takes the spread of the required properties for the
  names of an import, when the component's name ends with these letters and an attribute that begins with `from`
  comes next.
-/
import Suitewright.Proofs.Repair.Patterns

namespace Suitewright

open Text

/-! ## Templates -/

theorem readFrom_plain (whole : String) {cs : List Char} (h : '\\' ∉ cs) {fuel : Nat} (hfuel : cs.length < fuel) :
    Template.readFrom whole fuel cs = .ok (cs.map .char) := by
  induction cs generalizing fuel with
  | nil =>
    obtain ⟨fuel, rfl⟩ := Nat.exists_eq_add_of_lt hfuel
    rfl
  | cons c cs ih =>
    obtain ⟨n, rfl⟩ : ∃ n, fuel = n + 1 := ⟨fuel - 1, by simp at hfuel; omega⟩
    have hc : c ≠ '\\' := fun e => h (by simp [e])
    rw [Template.readFrom.eq_7 _ _ _ _ fun _ _ e _ => hc e, ih (fun hmem => h (by simp [hmem])) (by simpa using hfuel)]
    rfl

theorem fill_plain (cs whole : List Char) : Template.fill (cs.map .char) whole = cs := by
  induction cs with
  | nil => rfl
  | cons c cs ih => simpa [Template.fill] using ih

/-- What the rule puts in the place of an import of names. -/
def toDefault (text symbol cs : List Char) : Option (List Char × List Char) :=
  (namedImportOf? symbol cs).map (text, ·)

/-- The text that the rule puts in this place. -/
def defaultText (symbol : List Char) : List Char := "import ".toList ++ (symbol ++ " from".toList)

theorem defaultImport_eq {symbol : String} (h : '\\' ∉ symbol.toList) (source : List Char) :
    defaultImport symbol source =
      .ok (replaceAll (toDefault (defaultText symbol.toList) symbol.toList) source) := by
  have htext : ("import " ++ symbol ++ " from").toList = defaultText symbol.toList := by
    show _ = "import ".toList ++ (symbol.toList ++ " from".toList)
    rw [String.toList_append, String.toList_append, List.append_assoc]
  have hplain : '\\' ∉ defaultText symbol.toList := by
    have hfixed : '\\' ∉ "import ".toList ∧ '\\' ∉ " from".toList := by decide
    intro hmem
    rcases List.mem_append.1 hmem with hmem | hmem
    · exact hfixed.1 hmem
    · rcases List.mem_append.1 hmem with hmem | hmem
      · exact h hmem
      · exact hfixed.2 hmem
  have hread : Template.read ("import " ++ symbol ++ " from") =
      .ok ((defaultText symbol.toList).map .char) := by
    rw [Template.read, htext]
    exact readFrom_plain _ hplain (Nat.lt_succ_self _)
  rw [defaultImport, hread]
  show Except.ok (replaceAll (fun cs => (namedImportOf? symbol.toList cs).map fun rest =>
    (Template.fill ((defaultText symbol.toList).map .char) (cs.take (cs.length - rest.length)), rest)) source) = _
  simp only [fill_plain]
  rfl

/-! ## Symbols between braces -/

/-- Whether a symbol stands as a whole word in the text between braces. -/
def namesSymbol (symbol content : List Char) : Bool :=
  (symbolInBraces? symbol (some '\x7b') (content ++ "\x7d from".toList)).isSome

section
variable {symbol content : List Char} {before : Option Char}

theorem importEnd?_append (hcontent : '\x7d' ∉ content) (t : List Char) :
    importEnd? (content ++ '\x7d' :: t) = after? "from".toList (skipBlanks t) := by
  have hall : ∀ c ∈ content, (c != '\x7d') = true := fun c hc => bne_iff_ne.2 fun e => hcontent (e ▸ hc)
  have hdrop : (content ++ '\x7d' :: t).dropWhile (· != '\x7d') = '\x7d' :: t := by
    rw [List.dropWhile_append_of_pos hall]
    rfl
  rw [importEnd?, hdrop]
  rfl

/-- What follows the braces decides only whether the import ends there. -/
theorem symbolHere?_append (hsymbol : '\x7d' ∉ symbol) (hcontent : '\x7d' ∉ content) (t : List Char) :
    symbolHere? symbol before (content ++ '\x7d' :: t) =
      if (symbolHere? symbol before (content ++ "\x7d from".toList)).isSome then
        after? "from".toList (skipBlanks t) else none := by
  have hhead : ∀ u : List Char, (u ++ '\x7d' :: t).head? = (u ++ "\x7d from".toList).head? := by
    intro u
    cases u <;> rfl
  rw [symbolHere?, symbolHere?, hhead]
  split
  · cases hafter : after? symbol content with
    | none =>
      have hnone : ∀ v, after? symbol (content ++ '\x7d' :: v) = none := fun v =>
        after?_eq_none.2 fun hp => after?_eq_none.1 hafter (prefix_of_stop hsymbol hp)
      rw [hnone t, show content ++ "\x7d from".toList = content ++ '\x7d' :: " from".toList from rfl, hnone]
      rfl
    | some r =>
      obtain rfl := after?_eq_some.1 hafter
      have hr : '\x7d' ∉ r := fun hmem => hcontent (List.mem_append_right _ hmem)
      rw [List.append_assoc, List.append_assoc, after?_append, after?_append]
      dsimp only
      rw [hhead]
      split
      · rw [importEnd?_append hr, show r ++ "\x7d from".toList = r ++ '\x7d' :: " from".toList from rfl,
          importEnd?_append hr]
        rfl
      · rfl
  · rfl

theorem symbolInBraces?_append (hsymbol : '\x7d' ∉ symbol) (hcontent : '\x7d' ∉ content) (t : List Char) :
    symbolInBraces? symbol before (content ++ '\x7d' :: t) =
      if (symbolInBraces? symbol before (content ++ "\x7d from".toList)).isSome then
        after? "from".toList (skipBlanks t) else none := by
  induction content generalizing before with
  | nil =>
    rw [List.nil_append, symbolInBraces?, if_pos (by rfl), Option.none_or]
    exact symbolHere?_append hsymbol hcontent t
  | cons c content ih =>
    have hc : ¬ (c == '\x7d') = true := by
      rw [beq_iff_eq]
      rintro rfl
      exact hcontent (by simp)
    have hhere : symbolHere? symbol before (c :: content ++ '\x7d' :: t) = _ :=
      symbolHere?_append hsymbol hcontent t
    rw [List.cons_append] at hhere ⊢
    rw [symbolInBraces?, if_neg hc, ih fun hmem => hcontent (List.mem_cons_of_mem c hmem), hhere, List.cons_append,
      symbolInBraces?, if_neg hc]
    cases symbolInBraces? symbol (some c) (content ++ "\x7d from".toList) <;>
      cases symbolHere? symbol before (c :: (content ++ "\x7d from".toList)) <;>
        cases after? "from".toList (skipBlanks t) <;> rfl

theorem symbolInBraces?_content (hsymbol : '\x7d' ∉ symbol) (hcontent : '\x7d' ∉ content) (t : List Char) :
    symbolInBraces? symbol (some '\x7b') (content ++ '\x7d' :: t) =
      if namesSymbol symbol content then after? "from".toList (skipBlanks t) else none :=
  symbolInBraces?_append hsymbol hcontent t

end

/-! ## Imports of names -/

section
variable {symbol text u v w rest : List Char}

theorem namedImportOf?_eq_some {cs r : List Char} (h : namedImportOf? symbol cs = some r) :
    ∃ blanks v, blanks.all isBlank = true ∧ cs = "import".toList ++ (blanks ++ '\x7b' :: v) ∧
      symbolInBraces? symbol (some '\x7b') v = some r := by
  simp only [namedImportOf?, Option.bind_eq_bind, Option.bind_eq_some_iff] at h
  obtain ⟨cs', himport, v, hbrace, hsymbol⟩ := h
  have hparts := List.takeWhile_append_dropWhile (p := isBlank) (l := cs')
  rw [show cs'.dropWhile isBlank = '\x7b' :: v from after?_eq_some.1 hbrace] at hparts
  refine ⟨cs'.takeWhile isBlank, v, List.all_takeWhile, ?_, hsymbol⟩
  rw [after?_eq_some.1 himport]
  exact congrArg ("import".toList ++ ·) hparts.symm

/-- The first brace follows `import`, and only blanks stand between them. -/
theorem namedImportOf?_brace {r : List Char} (hu : '\x7b' ∉ u) (h : namedImportOf? symbol (u ++ '\x7b' :: v) = some r) :
    ∃ blanks, blanks.all isBlank = true ∧ u = "import".toList ++ blanks ∧
      symbolInBraces? symbol (some '\x7b') v = some r := by
  obtain ⟨blanks, v', hblanks, heq, hsymbol⟩ := namedImportOf?_eq_some h
  rw [← List.append_assoc] at heq
  have himport : '\x7b' ∉ "import".toList ++ blanks := by
    intro hmem
    rcases List.mem_append.1 hmem with hmem | hmem
    · exact absurd hmem (by decide)
    · exact not_mem_of_class hblanks (by decide) hmem
  obtain ⟨rfl, rfl⟩ := eq_of_append_first hu himport heq
  exact ⟨blanks, hblanks, rfl, hsymbol⟩

theorem namedImportOf?_append {blanks : List Char} (hblanks : blanks.all isBlank = true) :
    namedImportOf? symbol ("import".toList ++ (blanks ++ '\x7b' :: v)) =
      symbolInBraces? symbol (some '\x7b') v := by
  have hskip : skipBlanks (blanks ++ '\x7b' :: v) = '\x7b' :: v := by
    rw [skipBlanks, List.dropWhile_append_of_pos fun c hc => List.all_eq_true.1 hblanks c hc]
    rfl
  rw [namedImportOf?, after?_append]
  simp only [Option.bind_eq_bind, Option.bind_some, hskip]
  rfl

theorem namedImportOf?_head {cs : List Char} (h : cs.head? ≠ some 'i') : namedImportOf? symbol cs = none := by
  cases hr : namedImportOf? symbol cs with
  | none => rfl
  | some r =>
    obtain ⟨blanks, v, -, rfl, -⟩ := namedImportOf?_eq_some hr
    exact absurd rfl h

/-- A line on which no import of names begins. -/
def NoImport (symbol l : List Char) : Prop :=
  ∀ w, w <:+ l → ∀ rest, namedImportOf? symbol (w ++ '\n' :: rest) = none

theorem NoImport.of_suffix {l : List Char} (h : NoImport symbol l) (hw : w <:+ l) : NoImport symbol w :=
  fun w' hw' => h w' (hw'.trans hw)

theorem NoImport.of_absent {l : List Char} (h : Mark.imports.Absent l) : NoImport symbol l := by
  intro w hw rest
  cases hr : namedImportOf? symbol (w ++ '\n' :: rest) with
  | none => rfl
  | some r =>
    obtain ⟨blanks, v, hblanks, heq, -⟩ := namedImportOf?_eq_some hr
    have hline : '\n' ∉ "import".toList := by decide
    obtain ⟨u, rfl⟩ := prefix_of_stop hline ⟨blanks ++ '\x7b' :: v, heq.symm⟩
    obtain ⟨_, d, u', -, hskip, -, hd⟩ := h.next (· ∈ ['\x7b', '\n']) (by simp) hw rest
      fun before blanks' d hblanks' hd => by
        rw [Mark.ends, dropWhile_reverse_blanks hblanks']
        simp only [List.mem_cons, List.not_mem_nil, or_false] at hd
        rcases hd with rfl | rfl <;> rfl
    rw [List.append_assoc] at heq
    have hbrace : skipBlanks (u ++ '\n' :: rest) = '\x7b' :: v := by
      rw [List.append_cancel_left heq, skipBlanks,
        List.dropWhile_append_of_pos fun c hc => List.all_eq_true.1 hblanks c hc]
      rfl
    rw [hskip] at hbrace
    exact absurd (by simp [(List.cons.inj hbrace).1]) hd

theorem replaceAll_noImport {l : List Char} (h : NoImport symbol l) :
    replaceAll (toDefault text symbol) (l ++ '\n' :: rest) = l ++ '\n' :: replaceAll (toDefault text symbol) rest :=
  replaceAll_line fun w hw => by rw [toDefault, h w hw]; rfl

/-- Where the braces do not belong to an import that holds the symbol, the line stays as it is. -/
theorem NoImport.brace (hu : '\x7b' ∉ u) (hv : NoImport symbol v)
    (h : ∀ pre blanks, blanks.all isBlank = true → u = pre ++ ("import".toList ++ blanks) →
      ∀ rest, symbolInBraces? symbol (some '\x7b') (v ++ '\n' :: rest) = none) :
    NoImport symbol (u ++ '\x7b' :: v) := by
  intro w hw rest
  rcases suffix_append_cases hw with hw | ⟨w', ⟨pre, rfl⟩, -, rfl⟩
  · rcases List.suffix_cons_iff.1 hw with rfl | hw
    · exact namedImportOf?_head (by simp)
    · exact hv w hw rest
  · rw [List.append_assoc, List.cons_append]
    cases hr : namedImportOf? symbol (w' ++ '\x7b' :: (v ++ '\n' :: rest)) with
    | none => rfl
    | some r =>
      obtain ⟨blanks, hblanks, rfl, hsymbol⟩ :=
        namedImportOf?_brace (fun hmem => hu (List.mem_append_right _ hmem)) hr
      rw [h pre blanks hblanks rfl rest] at hsymbol
      cases hsymbol

/-- No `import` with blanks after it begins before the last one. -/
theorem no_earlier_import {blanks blanks' : List Char} (hw : w ≠ []) (hblanks : blanks.all isBlank = true)
    (hblanks' : blanks'.all isBlank = true) : w ++ ("import".toList ++ blanks) ≠ "import".toList ++ blanks' := by
  intro h
  have hdrop := congrArg (fun t => t.reverse.dropWhile isBlank) h
  simp only [List.reverse_append, List.append_assoc] at hdrop
  rw [dropWhile_reverse_blanks hblanks, ← List.append_nil "import".toList.reverse,
    dropWhile_reverse_blanks hblanks', List.append_assoc] at hdrop
  have hstart : ∀ t, ("import".toList.reverse ++ t).dropWhile isBlank = "import".toList.reverse ++ t := fun _ => rfl
  rw [hstart, hstart, List.nil_append] at hdrop
  exact hw (List.reverse_eq_nil_iff.1 (List.append_cancel_left hdrop))

/-- Where the braces belong to an import that holds the symbol, it becomes the import of the default. -/
theorem replaceAll_brace {pre blanks names t : List Char} (hpre : '\x7b' ∉ pre) (hblanks : blanks.all isBlank = true)
    (ht : NoImport symbol t)
    (h : symbolInBraces? symbol (some '\x7b') (names ++ (t ++ '\n' :: rest)) = some (t ++ '\n' :: rest)) :
    replaceAll (toDefault text symbol)
        (pre ++ (("import".toList ++ (blanks ++ '\x7b' :: names)) ++ (t ++ '\n' :: rest))) =
      pre ++ (text ++ (t ++ '\n' :: replaceAll (toDefault text symbol) rest)) := by
  have hparts : "import".toList ++ (blanks ++ '\x7b' :: names) ++ (t ++ '\n' :: rest) =
      "import".toList ++ (blanks ++ '\x7b' :: (names ++ (t ++ '\n' :: rest))) := by simp
  have hmatch : toDefault text symbol ("import".toList ++ (blanks ++ '\x7b' :: names) ++ (t ++ '\n' :: rest)) =
      some (text, t ++ '\n' :: rest) := by
    rw [toDefault, hparts, namedImportOf?_append hblanks, h]
    rfl
  rw [replaceAll_pass, replaceAll_match hmatch (List.cons_ne_nil _ _), replaceAll_noImport ht]
  intro w hw hne
  have hbrace : '\x7b' ∉ w ++ ("import".toList ++ blanks) := by
    intro hmem
    rcases List.mem_append.1 hmem with hmem | hmem
    · exact hpre (hw.subset hmem)
    · rcases List.mem_append.1 hmem with hmem | hmem
      · exact absurd hmem (by decide)
      · exact not_mem_of_class hblanks (by decide) hmem
  have hparts' : w ++ ("import".toList ++ (blanks ++ '\x7b' :: (names ++ (t ++ '\n' :: rest)))) =
      (w ++ ("import".toList ++ blanks)) ++ '\x7b' :: (names ++ (t ++ '\n' :: rest)) := by simp
  rw [toDefault, hparts, hparts']
  cases hr : namedImportOf? symbol ((w ++ ("import".toList ++ blanks)) ++ '\x7b' :: (names ++ (t ++ '\n' :: rest))) with
  | none => rfl
  | some r =>
    obtain ⟨blanks', hblanks', heq, -⟩ := namedImportOf?_brace hbrace hr
    exact absurd heq (no_earlier_import hne hblanks hblanks')

end

/-! ## Lines -/

/-- Whether the first attribute begins as the end of an import does. -/
def startsFrom : List Attribute → Bool
  | a :: _ => "from".toList.isPrefixOf a.name
  | [] => false

/-- A line with an import of names that holds a symbol replaced; the spread of the required properties is taken for
one. -/
def Line.byDefault (component symbol : List Char) : Line → Line
  | named content module => if namesSymbol symbol content then default symbol module else named content module
  | render true attributes =>
    if "import".toList.isSuffixOf component && namesSymbol symbol "...requiredProps".toList && startsFrom attributes
    then render false (.flag symbol :: attributes)
    else render true attributes
  | l => l

section
variable {component symbol : List Char}

theorem Line.byDefault_formed {l : Line} (h : l.Formed component) (hs : IsWord symbol) :
    (l.byDefault component symbol).Formed component := by
  cases l with
  | named content module =>
    rw [byDefault]
    split
    · exact ⟨hs.nameChars, h.2⟩
    · exact h
  | render spread attributes =>
    cases spread with
    | false => exact h
    | true =>
      rw [byDefault]
      split
      · intro a ha
        rcases List.mem_cons.1 ha with rfl | ha
        · exact ⟨hs.1, hs.nameChars, trivial⟩
        · exact h a ha
      · exact h
  | _ => exact h

/-- After the spread of the required properties an import can only end at an attribute. -/
theorem after_spread {attributes : List Attribute} (h : ∀ a ∈ attributes, a.Formed) (rest : List Char) :
    after? "from".toList (skipBlanks ((attributes.flatMap fun a => ' ' :: a.chars) ++ (" />);".toList ++ rest))) =
      if startsFrom attributes then
        some (((attributes.flatMap fun a => ' ' :: a.chars).drop 5) ++ (" />);".toList ++ rest))
      else none := by
  cases attributes with
  | nil => rfl
  | cons a attributes =>
    obtain ⟨hne, hname, -⟩ := h a (by simp)
    obtain ⟨c, n, hn⟩ := List.exists_cons_of_ne_nil hne
    obtain ⟨r, hchars, hr⟩ := a.chars_name
    have hblank : isBlank c = false := isBlank_of_isNameChar (List.all_eq_true.1 hname c (by simp [hn]))
    have hskip : ∀ v, skipBlanks (' ' :: (a.name ++ v)) = a.name ++ v := by
      intro v
      rw [hn, skipBlanks, List.dropWhile_cons, if_pos (by decide), List.cons_append, List.dropWhile_cons, hblank]
      rfl
    rw [List.flatMap_cons, hchars, List.append_assoc, List.cons_append, List.append_assoc, hskip, startsFrom]
    split
    · next hfrom =>
      obtain ⟨n', hn'⟩ := List.isPrefixOf_iff_prefix.1 hfrom
      have hdrop : ∀ t, (' ' :: ("from".toList ++ t)).drop 5 = t := fun _ => rfl
      rw [← hn', List.append_assoc, after?_append, List.cons_append, List.append_assoc, List.append_assoc, hdrop,
        List.append_assoc, List.append_assoc]
    · next hfrom =>
      refine after?_eq_none.2 fun hp => hfrom (List.isPrefixOf_iff_prefix.2 ?_)
      rcases hr with rfl | hr
      · -- the next attribute or the end of the element comes next
        have hnext : ∃ t, [] ++ ((attributes.flatMap fun a => ' ' :: a.chars) ++ (" />);".toList ++ rest)) = ' ' :: t := by
          cases attributes with
          | nil => exact ⟨_, rfl⟩
          | cons b attributes => exact ⟨_, rfl⟩
        obtain ⟨t, ht⟩ := hnext
        rw [ht] at hp
        exact prefix_of_stop (by decide) hp
      · obtain ⟨r, rfl⟩ : ∃ r', r = '=' :: r' := by
          cases r with
          | nil => cases hr
          | cons d r => exact ⟨r, by rw [Option.some.inj hr]⟩
        exact prefix_of_stop (by decide) hp

/-- The end of a component's name, when `import` and blanks end the text before a brace. -/
theorem import_suffix (hc : IsWord component) {pre blanks : List Char} (hblanks : blanks.all isBlank = true)
    (h : "        render(<".toList ++ (component ++ [' ']) = pre ++ ("import".toList ++ blanks)) :
    "import".toList <:+ component := by
  have hdrop := congrArg (fun t => t.reverse.dropWhile isBlank) h
  have hstart : ∀ t, ("import".toList.reverse ++ t).dropWhile isBlank = "import".toList.reverse ++ t := fun _ => rfl
  have hcomponent : ∀ t, (component.reverse ++ t).dropWhile isBlank = component.reverse ++ t := by
    intro t
    cases hr : component.reverse with
    | nil => exact absurd (List.reverse_eq_nil_iff.1 hr) hc.1
    | cons c r =>
      have hword : isNameChar c = true :=
        List.all_eq_true.1 hc.nameChars c (List.mem_reverse.1 (by simp [hr]))
      rw [List.cons_append, List.dropWhile_cons, isBlank_of_isNameChar hword]
      rfl
  simp only [List.reverse_append, List.append_assoc] at hdrop
  have hspace : [' '].all isBlank = true := rfl
  rw [dropWhile_reverse_blanks hblanks, hstart, dropWhile_reverse_blanks hspace, hcomponent] at hdrop
  have hsuffix : "import".toList <:+ "        render(<".toList ++ component := by
    refine ⟨pre, ?_⟩
    have := congrArg List.reverse hdrop
    simpa using this.symm
  rcases suffix_append_cases hsuffix with hsuffix | ⟨w, hw, hne, heq⟩
  · exact hsuffix
  · -- the bracket would stand in `import`
    have hlast : '<' ∈ w := by
      have hend : w <:+ "        render(".toList ++ ['<'] := hw
      rcases suffix_append_cases hend with hw | ⟨w', -, -, rfl⟩
      · rw [List.suffix_cons_iff, List.suffix_nil] at hw
        rcases hw with rfl | rfl
        · simp
        · exact absurd rfl hne
      · simp
    have hmem : '<' ∈ "import".toList := by
      rw [heq]
      exact List.mem_append_left _ hlast
    exact absurd hmem (by decide)

theorem byDefault_named (hc : IsWord component) (hs : IsWord symbol) {content module : List Char}
    (h : (Line.named content module).Formed component) (rest : List Char) :
    replaceAll (toDefault (defaultText symbol) symbol) ((Line.named content module).chars component ++ '\n' :: rest) =
      ((Line.named content module).byDefault component symbol).chars component ++
        '\n' :: replaceAll (toDefault (defaultText symbol) symbol) rest := by
  have hopen : "import \x7b".toList = "import".toList ++ ([' '] ++ ['\x7b']) := rfl
  have hfrom : " from \"".toList = " from".toList ++ " \"".toList := rfl
  have hend : Mark.imports.Safe (" \"".toList ++ (module ++ ("\";".toList ++ ['\n']))) := by
    have hquote : Mark.imports.Safe " \"".toList := .of_chars (by decide)
    have hclose : Mark.imports.Safe ("\";".toList ++ ['\n']) := fun _ => rfl
    exact hquote.append ((Line.safe_module h.2).append hclose)
  have hbrace : '\x7d' ∉ content := by
    rcases h.1 with rfl | rfl
    · decide
    · have hcomponent : '\x7d' ∉ component := not_mem_of_class hc.2 (by decide)
      simp [Line.spaced, hcomponent]
  have hsymbol := symbolInBraces?_content (not_mem_of_class hs.2 (by decide)) hbrace
  rw [Line.byDefault, Line.chars_named, hopen, hfrom]
  split
  · next hnames =>
    have hparts : "import".toList ++ ([' '] ++ ['\x7b']) ++ (content ++ '\x7d' :: (" from".toList ++ " \"".toList ++
        (module ++ "\";".toList))) ++ '\n' :: rest = [] ++ (("import".toList ++ ([' '] ++ '\x7b' ::
          (content ++ '\x7d' :: " from".toList))) ++ ((" \"".toList ++ (module ++ "\";".toList)) ++ '\n' :: rest)) := by
      simp only [List.append_assoc, List.cons_append, List.nil_append]
    have hfound : symbolInBraces? symbol (some '\x7b') (content ++ '\x7d' :: " from".toList ++
        (" \"".toList ++ (module ++ "\";".toList) ++ '\n' :: rest)) =
          some (" \"".toList ++ (module ++ "\";".toList) ++ '\n' :: rest) := by
      rw [List.append_assoc, List.cons_append, hsymbol, if_pos hnames]
      rfl
    have ht : NoImport symbol (" \"".toList ++ (module ++ "\";".toList)) :=
      .of_absent (Mark.Safe.absent (by simpa only [List.append_assoc] using hend))
    have htext : defaultText symbol = "import ".toList ++ (symbol ++ " from".toList) := rfl
    rw [hparts, replaceAll_brace (by simp) rfl ht hfound, Line.chars_default, hfrom, htext]
    simp only [List.append_assoc, List.nil_append]
  · next hnames =>
    have hv : NoImport symbol (content ++ '\x7d' :: (" from".toList ++ " \"".toList ++ (module ++ "\";".toList))) := by
      have hword : Mark.imports.Safe " from".toList := .of_chars (by decide)
      have := (Line.safe_content hc h.1).append (hword.append hend)
      exact .of_absent (Mark.Safe.absent (by
        simpa only [List.append_assoc, List.cons_append, List.nil_append] using this))
    have hline : NoImport symbol ("import ".toList ++ '\x7b' ::
        (content ++ '\x7d' :: (" from".toList ++ " \"".toList ++ (module ++ "\";".toList)))) := by
      refine .brace (by decide) hv fun pre blanks _ _ rest => ?_
      rw [List.append_assoc, List.cons_append, hsymbol, if_neg hnames]
    have hparts : "import".toList ++ ([' '] ++ ['\x7b']) ++ (content ++ '\x7d' :: (" from".toList ++ " \"".toList ++
        (module ++ "\";".toList))) = "import ".toList ++ '\x7b' ::
          (content ++ '\x7d' :: (" from".toList ++ " \"".toList ++ (module ++ "\";".toList))) := rfl
    rw [Line.chars_named, hopen, hfrom, hparts, replaceAll_noImport hline]

theorem startsFrom_flatMap {attributes : List Attribute} (h : startsFrom attributes = true) :
    ∃ t, (attributes.flatMap fun a => ' ' :: a.chars) = " from".toList ++ t := by
  cases attributes with
  | nil => cases h
  | cons a attributes =>
    obtain ⟨n, hn⟩ := List.isPrefixOf_iff_prefix.1 h
    obtain ⟨r, hchars, -⟩ := a.chars_name
    refine ⟨n ++ (r ++ attributes.flatMap fun a => ' ' :: a.chars), ?_⟩
    rw [List.flatMap_cons, hchars, ← hn, List.cons_append, List.append_assoc, List.append_assoc]
    rfl

theorem attributesText_spread (attributes : List Attribute) : attributesText true attributes = [' '] ++ '\x7b' ::
    ("...requiredProps".toList ++ '\x7d' :: attributes.flatMap fun a => ' ' :: a.chars) := rfl

section
variable {attributes : List Attribute} (h : ∀ a ∈ attributes, a.Formed)
include h

/-- No import begins behind the brace of the spread. -/
theorem spread_noImport : NoImport symbol ("...requiredProps".toList ++ '\x7d' ::
    ((attributes.flatMap fun a => ' ' :: a.chars) ++ " />);".toList)) := by
  have hnames : Mark.imports.Safe ("...requiredProps".toList ++ ['\x7d']) := fun _ => rfl
  have hclose : Mark.imports.Safe (" />);".toList ++ ['\n']) := fun _ => rfl
  have := hnames.append ((Line.safe_attributes h).append hclose)
  exact .of_absent (Mark.Safe.absent (by
    simpa only [List.append_assoc, List.cons_append, List.nil_append] using this))

/-- What an import that begins before the brace of the spread finds between the braces and behind them. -/
theorem symbolInBraces?_spread (hs : IsWord symbol) (rest : List Char) :
    symbolInBraces? symbol (some '\x7b') ("...requiredProps".toList ++ '\x7d' ::
      ((attributes.flatMap fun a => ' ' :: a.chars) ++ (" />);".toList ++ rest))) =
      if namesSymbol symbol "...requiredProps".toList then
        if startsFrom attributes then
          some (((attributes.flatMap fun a => ' ' :: a.chars).drop 5) ++ (" />);".toList ++ rest))
        else none
      else none := by
  have hspaced : '\x7d' ∉ "...requiredProps".toList := by decide
  rw [symbolInBraces?_content (not_mem_of_class hs.2 (by decide)) hspaced, after_spread h]

/-- A component is rendered as before, unless its name ends with `import` and the spread and the attributes complete
this to an import of the symbol. -/
theorem render_noImport (hc : IsWord component) (hs : IsWord symbol)
    (hall : ¬ ("import".toList.isSuffixOf component && namesSymbol symbol "...requiredProps".toList &&
      startsFrom attributes) = true) :
    NoImport symbol ((Line.render true attributes).chars component) := by
  have hparts : (Line.render true attributes).chars component =
      ("        render(<".toList ++ (component ++ [' '])) ++ '\x7b' :: ("...requiredProps".toList ++ '\x7d' ::
        ((attributes.flatMap fun a => ' ' :: a.chars) ++ " />);".toList)) := by
    rw [Line.chars_render, attributesText_spread]
    simp only [List.append_assoc, List.cons_append, List.nil_append]
  have hbrace : '\x7b' ∉ "        render(<".toList ++ (component ++ [' ']) := by
    have hcomponent : '\x7b' ∉ component := not_mem_of_class hc.2 (by decide)
    simp [hcomponent]
  rw [hparts]
  refine .brace hbrace (spread_noImport h) fun pre blanks hblanks heq rest => ?_
  have hsuffix := List.isSuffixOf_iff_suffix.2 (import_suffix hc hblanks heq)
  simp only [hsuffix, Bool.true_and, Bool.and_eq_true, not_and] at hall
  rw [List.append_assoc, List.cons_append, List.append_assoc, symbolInBraces?_spread h hs]
  split
  · next hnames => rw [if_neg (hall hnames)]
  · rfl

/-- The end of the name of a component, the spread and the first attribute are taken for an import of the symbol. -/
theorem render_imported {pre : List Char} (hc : IsWord (pre ++ "import".toList)) (hs : IsWord symbol)
    (hnames : namesSymbol symbol "...requiredProps".toList = true) (hfrom : startsFrom attributes = true) (rest : List Char) :
    replaceAll (toDefault (defaultText symbol) symbol)
        ((Line.render true attributes).chars (pre ++ "import".toList) ++ '\n' :: rest) =
      (Line.render false (.flag symbol :: attributes)).chars (pre ++ "import".toList) ++
        '\n' :: replaceAll (toDefault (defaultText symbol) symbol) rest := by
  obtain ⟨t, ht⟩ := startsFrom_flatMap hfrom
  have hparts : (Line.render true attributes).chars (pre ++ "import".toList) ++ '\n' :: rest =
      ("        render(<".toList ++ pre) ++ (("import".toList ++ ([' '] ++ '\x7b' ::
        ("...requiredProps".toList ++ '\x7d' :: " from".toList))) ++ ((t ++ " />);".toList) ++ '\n' :: rest)) := by
    rw [Line.chars_render, attributesText_spread, ht]
    simp only [List.append_assoc, List.cons_append]
  have hbrace : '\x7b' ∉ "        render(<".toList ++ pre := by
    have hcomponent : '\x7b' ∉ pre ++ "import".toList := not_mem_of_class hc.2 (by decide)
    have hpre : '\x7b' ∉ pre := fun hmem => hcomponent (List.mem_append_left _ hmem)
    simp [hpre]
  have htail : NoImport symbol (t ++ " />);".toList) := by
    have hspread : NoImport symbol _ := spread_noImport h
    rw [ht] at hspread
    refine hspread.of_suffix ⟨"...requiredProps".toList ++ '\x7d' :: " from".toList, ?_⟩
    simp only [List.append_assoc, List.cons_append]
  have hfound : symbolInBraces? symbol (some '\x7b') ("...requiredProps".toList ++ '\x7d' :: " from".toList ++
      (t ++ " />);".toList ++ '\n' :: rest)) = some (t ++ " />);".toList ++ '\n' :: rest) := by
    have hdrop : (" from".toList ++ t).drop 5 = t := rfl
    have := symbolInBraces?_spread h hs ('\n' :: rest)
    rw [if_pos hnames, if_pos hfrom, ht, hdrop] at this
    simpa only [List.append_assoc, List.cons_append] using this
  have htext : defaultText symbol = "import ".toList ++ (symbol ++ " from".toList) := rfl
  have hflag : attributesText false (.flag symbol :: attributes) = ' ' :: (symbol ++ (" from".toList ++ t)) := by
    rw [← ht]
    rfl
  have hopen : "import ".toList = "import".toList ++ [' '] := rfl
  rw [hparts, replaceAll_brace hbrace rfl htail hfound, Line.chars_render, htext, hflag, hopen]
  simp only [List.append_assoc, List.cons_append, List.nil_append]

theorem byDefault_render (hc : IsWord component) (hs : IsWord symbol) (rest : List Char) :
    replaceAll (toDefault (defaultText symbol) symbol) ((Line.render true attributes).chars component ++ '\n' :: rest) =
      ((Line.render true attributes).byDefault component symbol).chars component ++
        '\n' :: replaceAll (toDefault (defaultText symbol) symbol) rest := by
  rw [Line.byDefault]
  split
  · next hall =>
    simp only [Bool.and_eq_true] at hall
    obtain ⟨⟨hsuffix, hnames⟩, hfrom⟩ := hall
    obtain ⟨pre, rfl⟩ := List.isSuffixOf_iff_suffix.1 hsuffix
    exact render_imported h hc hs hnames hfrom rest
  · next hall => exact replaceAll_noImport (render_noImport h hc hs hall)

end

/-- What the rule for names that are not exported makes of a line. -/
theorem byDefault_actsOn (hc : IsWord component) (hs : IsWord symbol) :
    ActsOn (toDefault (defaultText symbol) symbol) component (Line.byDefault component symbol) := by
  intro l h rest
  have habsent : Mark.imports ∉ l.marks → l.byDefault component symbol = l →
      replaceAll (toDefault (defaultText symbol) symbol) (l.chars component ++ '\n' :: rest) =
        (l.byDefault component symbol).chars component ++
          '\n' :: replaceAll (toDefault (defaultText symbol) symbol) rest := by
    intro hm hsame
    rw [hsame, replaceAll_noImport (.of_absent (Line.absent hc h hm))]
  cases l with
  | named content module => exact byDefault_named hc hs h rest
  | render spread attributes =>
    cases spread with
    | true => exact byDefault_render h hc hs rest
    | false => exact habsent (by simp [Line.marks]) rfl
  | query frame q => exact habsent (by cases q <;> simp [Line.marks, Query.marks]) rfl
  | fixed | default | classed => exact habsent (by simp [Line.marks]) rfl

/-- What the rule for names that are not exported makes of a suite. -/
theorem defaultImport_textOf {symbol : String} (hc : IsWord component) (hs : IsWord symbol.toList) {d : List Line}
    (hd : ∀ l ∈ d, l.Formed component) :
    defaultImport symbol (Line.textOf component d) =
      .ok (Line.textOf component (d.map (Line.byDefault component symbol.toList))) := by
  rw [defaultImport_eq (not_mem_of_class hs.2 (by decide)), (byDefault_actsOn hc hs).textOf hd]

end

end Suitewright
