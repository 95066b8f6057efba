/-
  What the rule for modules that are not found makes of a line.

  * `fromModule?_quote`: a module after `from` stands at the first quote;
  * `importOf?_line`: an import is redirected when its module is the one that is not found;
  * `Line.redirect`, `redirectImport_textOf`: what the rule makes of a line and of a suite.
-/
import Suitewright.Proofs.Repair.Draft

namespace Suitewright

open Text

/-! ## Modules after `from` -/

/-- Texts without quotes. -/
def Unquoted (u : List Char) : Prop := ∀ c ∈ u, (c == '"' || c == '\'') = false

instance (u : List Char) : Decidable (Unquoted u) := List.decidableBAll _ u

theorem Unquoted.not_mem {u : List Char} (hu : Unquoted u) : '"' ∉ u := fun hmem => by
  have := hu _ hmem
  cases this

theorem Unquoted.append {u v : List Char} (hu : Unquoted u) (hv : Unquoted v) : Unquoted (u ++ v) := by
  intro c hc
  rcases List.mem_append.1 hc with hc | hc
  · exact hu c hc
  · exact hv c hc

theorem Unquoted.of_tame {u : List Char} (h : u.all isTame = true) : Unquoted u := by
  intro c hc
  have hc := List.all_eq_true.1 h c hc
  simp [isTame_ne hc (show isTame '"' = false from rfl), isTame_ne hc (show isTame '\'' = false from rfl)]

theorem Unquoted.of_blanks {u : List Char} (h : u.all isBlank = true) : Unquoted u := by
  intro c hc
  have hne : ∀ d, isBlank d = false → (c == d) = false := fun d hd =>
    beq_eq_false_iff_ne.2 fun e => by
      rw [← e, List.all_eq_true.1 h c hc] at hd
      cases hd
  rw [hne '"' rfl, hne '\'' rfl]
  rfl

theorem isModuleChar_cases {c : Char} (h : Line.isModuleChar c = true) : isTame c = true ∨ c = '/' ∨ c = '@' := by
  simp only [Line.isModuleChar, Bool.or_eq_true, beq_iff_eq] at h
  rcases h with (h | h) | h
  · exact Or.inl h
  · exact Or.inr (Or.inl h)
  · exact Or.inr (Or.inr h)

theorem Unquoted.of_module {u : List Char} (h : u.all Line.isModuleChar = true) : Unquoted u := by
  intro c hc
  rcases isModuleChar_cases (List.all_eq_true.1 h c hc) with hc | rfl | rfl
  · exact Unquoted.of_tame (u := [c]) (by simp [hc]) c (by simp)
  · rfl
  · rfl

theorem fromModule?_eq_some {module cs : List Char} {found : List Char × List Char}
    (h : fromModule? module cs = some found) :
    ∃ blanks q rest, blanks.all isBlank = true ∧ (q == '"' || q == '\'') = true ∧
      cs = "from".toList ++ (blanks ++ q :: (module ++ q :: rest)) ∧ found = ("from".toList ++ blanks, rest) := by
  simp only [fromModule?, Option.bind_eq_bind, Option.bind_eq_some_iff] at h
  obtain ⟨cs', hfrom, h⟩ := h
  have hparts := List.takeWhile_append_dropWhile (p := isBlank) (l := cs')
  split at h
  · next q r hskip =>
    split at h
    · next hq =>
      simp only [Option.bind_eq_some_iff] at h
      obtain ⟨r₁, hmodule, r₂, hclose, hfound⟩ := h
      obtain rfl := after?_eq_some.1 hclose
      obtain rfl := after?_eq_some.1 hmodule
      refine ⟨cs'.takeWhile isBlank, q, r₂, List.all_takeWhile, hq, ?_, (Option.some.inj hfound).symm⟩
      rw [show cs'.dropWhile isBlank = _ from hskip] at hparts
      rw [after?_eq_some.1 hfrom]
      exact congrArg ("from".toList ++ ·) hparts.symm
    · cases h
  · cases h

/-- The module stands at the first quote, and only blanks stand between it and `from`. -/
theorem fromModule?_quote {module u v : List Char} {found : List Char × List Char} (hu : Unquoted u)
    (h : fromModule? module (u ++ '"' :: v) = some found) :
    ∃ blanks rest, blanks.all isBlank = true ∧ u = "from".toList ++ blanks ∧ v = module ++ '"' :: rest ∧
      found = ("from".toList ++ blanks, rest) := by
  obtain ⟨blanks, q, rest, hblanks, hq, heq, hfound⟩ := fromModule?_eq_some h
  rw [← List.append_assoc] at heq
  have hfrom : Unquoted "from".toList := by decide
  obtain ⟨rfl, rfl, rfl⟩ := eq_of_append_stop hu (hfrom.append (.of_blanks hblanks)) rfl hq heq
  exact ⟨blanks, rest, hblanks, rfl, rfl, hfound⟩

theorem fromModule?_append (module rest : List Char) :
    fromModule? module ("from ".toList ++ '"' :: (module ++ '"' :: rest)) = some ("from ".toList, rest) := by
  have hopen : fromModule? module ("from ".toList ++ '"' :: (module ++ '"' :: rest)) =
      (after? module (module ++ '"' :: rest)).bind fun r => (after? ['"'] r).bind fun r =>
        some ("from ".toList, r) := rfl
  rw [hopen, after?_append]
  rfl

/-- Where no `from` begins there is no module after it. -/
theorem fromModule?_head {module cs : List Char} (h : cs.head? ≠ some 'f') : fromModule? module cs = none := by
  cases hf : fromModule? module cs with
  | none => rfl
  | some found =>
    obtain ⟨blanks, q, rest, -, -, rfl, -⟩ := fromModule?_eq_some hf
    exact absurd rfl h

/-! ## Modules on a line -/

section
variable {module u v : List Char} {before : Option Char}

theorem fromOnLine?_pass (hline : '\n' ∉ u)
    (h : ∀ w, w <:+ u → w ≠ [] → fromModule? module (w ++ v) = none) :
    fromOnLine? module before (u ++ v) =
      (fromOnLine? module (u.getLast?.or before) v).map fun (text, rest) => (u ++ text, rest) := by
  induction u generalizing before with
  | nil =>
    show fromOnLine? module before v = (fromOnLine? module before v).map _
    cases fromOnLine? module before v <;> rfl
  | cons c u ih =>
    have hnone : fromModule? module (c :: (u ++ v)) = none := h (c :: u) List.suffix_rfl (by simp)
    have hc : (c == '\n') = false := beq_eq_false_iff_ne.2 fun e => hline (by simp [e])
    rw [List.cons_append, fromOnLine?, hnone, ite_self]
    simp only [hc]
    rw [ih (fun hmem => hline (by simp [hmem])) fun w hw hne => h w (hw.trans (List.suffix_cons c u)) hne]
    have hlast : u.getLast?.or (some c) = (c :: u).getLast?.or before := by
      cases u <;> simp [List.getLast?_cons]
    rw [hlast]
    cases fromOnLine? module ((c :: u).getLast?.or before) v <;> rfl

/-- A line without the module. -/
theorem fromOnLine?_end {rest : List Char} (hline : '\n' ∉ u)
    (h : ∀ w, w <:+ u → w ≠ [] → fromModule? module (w ++ '\n' :: rest) = none) :
    fromOnLine? module before (u ++ '\n' :: rest) = none := by
  have hnone : ∀ before, fromOnLine? module before ('\n' :: rest) = none := by
    intro before
    rw [fromOnLine?, fromModule?_head (by simp), ite_self]
    rfl
  rw [fromOnLine?_pass hline h, hnone]
  rfl

end

/-! ## Imports -/

/-- What stands between `import` and `from` on a line: no quotes, and blanks at both ends. -/
structure IsImported (names : List Char) : Prop where
  unquoted : Unquoted names
  head : names.head? = some ' '
  last : names.getLast? = some ' '
  line : '\n' ∉ names

/-- The line that imports from a module. -/
def importText (names module : List Char) : List Char :=
  "import".toList ++ (names ++ ("from \"".toList ++ (module ++ "\";".toList)))

/-- No `from` with blanks after it begins before the last one. -/
theorem no_earlier_from {w z blanks : List Char} (hw : w ≠ []) (hblanks : blanks.all isBlank = true) :
    w ++ ("from".toList ++ z) ≠ "from".toList ++ blanks := by
  intro h
  obtain ⟨c, w, rfl⟩ := List.exists_cons_of_ne_nil hw
  have hc : c = 'f' := (List.cons.inj h).1
  have hnone : blanks.count 'f' = 0 := List.count_eq_zero.2 (not_mem_of_class hblanks (by decide))
  have hcount := congrArg (List.count 'f') h
  have hfrom : "from".toList.count 'f' = 1 := by decide
  rw [List.count_append, List.count_append, List.count_append, hnone, hfrom, hc, List.count_cons_self] at hcount
  omega

section
variable {module target names m : List Char} {before : Option Char}

/-- On the line of an import the module stands at one place only. -/
theorem fromModule?_import (hm : m.all Line.isModuleChar = true) (hne : m ≠ module) (hquote : '"' ∉ module)
    (hdot : module.head? = some '.') {w : List Char} (hw : w <:+ "from \"".toList ++ (m ++ "\";".toList))
    (rest : List Char) : fromModule? module (w ++ '\n' :: rest) = none := by
  have hclose : ∀ u, Unquoted u → fromModule? module (u ++ '"' :: (';' :: '\n' :: rest)) = none := by
    intro u hu
    cases hf : fromModule? module (u ++ '"' :: (';' :: '\n' :: rest)) with
    | none => rfl
    | some found =>
      obtain ⟨-, r, -, -, hv, -⟩ := fromModule?_quote hu hf
      cases module with
      | nil => cases hdot
      | cons c module =>
        have : '.' = c := by simpa using hdot.symm
        exact absurd ((List.cons.inj hv).1.trans this.symm) (by decide)
  rcases suffix_append_cases hw with hw | ⟨w', hw', hne', rfl⟩
  · -- in the module or after it
    rcases suffix_append_cases hw with hw | ⟨w', hw', -, rfl⟩
    · have hsplit : "\";".toList = ['"', ';'] := rfl
      rw [hsplit, List.suffix_cons_iff, List.suffix_cons_iff, List.suffix_nil] at hw
      rcases hw with rfl | rfl | rfl
      · exact hclose [] (by simp [Unquoted])
      · exact fromModule?_head (by simp)
      · exact fromModule?_head (by simp)
    · have := hclose w' fun c hc => Unquoted.of_module hm c (hw'.subset hc)
      simpa using this
  · -- at `from`, or in it
    have hsplit : "from \"".toList = "from ".toList ++ ['"'] := rfl
    rw [hsplit] at hw'
    rcases suffix_append_cases hw' with hw' | ⟨u, hu, -, rfl⟩
    · rw [List.suffix_cons_iff, List.suffix_nil] at hw'
      rcases hw' with rfl | rfl
      · exact fromModule?_head (by simp)
      · exact absurd rfl hne'
    · have hunquoted : Unquoted u := by
        have hfrom : Unquoted "from ".toList := by decide
        exact fun c hc => hfrom c (hu.subset hc)
      cases hf : fromModule? module (u ++ ['"'] ++ (m ++ "\";".toList) ++ '\n' :: rest) with
      | none => rfl
      | some found =>
        have hparts : u ++ ['"'] ++ (m ++ "\";".toList) ++ '\n' :: rest = u ++ '"' :: (m ++ '"' :: (';' :: '\n' :: rest)) := by
          simp
        rw [hparts] at hf
        obtain ⟨-, r, -, -, hv, -⟩ := fromModule?_quote hunquoted hf
        exact absurd (eq_of_append_first (Unquoted.of_module hm).not_mem hquote hv).1 hne

/-- An import is redirected when its module is the one that is not found. -/
theorem importOf?_line (hbefore : before.any (· != '\n') = false) (hn : IsImported names)
    (hm : m.all Line.isModuleChar = true) (hquote : '"' ∉ module) (hdot : module.head? = some '.')
    (rest : List Char) : importOf? module target before (importText names m ++ '\n' :: rest) =
      if m = module then some ("import".toList ++ (names ++ "from ".toList) ++ target, ';' :: '\n' :: rest)
      else none := by
  have hparts : importText names m ++ '\n' :: rest =
      "import".toList ++ (names ++ ("from ".toList ++ '"' :: (m ++ '"' :: (';' :: '\n' :: rest)))) := by
    simp [importText]
  have hhead : ∀ v, (names ++ v).head? = some ' ' := by
    intro v
    rw [List.head?_append, hn.head]
    rfl
  have hpass : ∀ v, fromOnLine? module (some 't') (names ++ ("from ".toList ++ '"' :: v)) =
      (fromOnLine? module (some ' ') ("from ".toList ++ '"' :: v)).map fun (text, rest) => (names ++ text, rest) := by
    intro v
    rw [fromOnLine?_pass hn.line, hn.last]
    · rfl
    · intro w hw hne
      have hfrom : Unquoted "from ".toList := by decide
      have hunquoted : Unquoted (w ++ "from ".toList) :=
        Unquoted.append (fun c hc => hn.unquoted c (hw.subset hc)) hfrom
      rw [← List.append_assoc]
      cases hf : fromModule? module (w ++ "from ".toList ++ '"' :: v) with
      | none => rfl
      | some found =>
        obtain ⟨blanks, -, hblanks, heq, -⟩ := fromModule?_quote hunquoted hf
        exact absurd heq (no_earlier_from (z := [' ']) hne hblanks)
  rw [hparts, importOf?, hbefore, after?_append]
  simp only [Bool.false_eq_true, if_false, Option.bind_eq_bind, Option.bind_some, hhead]
  rw [if_pos (by decide), hpass]
  split
  · next heq =>
    have hfound : fromOnLine? module (some ' ') ("from ".toList ++ '"' :: (m ++ '"' :: (';' :: '\n' :: rest))) =
        some ("from ".toList, ';' :: '\n' :: rest) := by
      have hmatch := fromModule?_append module (';' :: '\n' :: rest)
      rw [heq]
      have hcons : "from ".toList ++ '"' :: (module ++ '"' :: (';' :: '\n' :: rest)) =
        'f' :: ("rom ".toList ++ '"' :: (module ++ '"' :: (';' :: '\n' :: rest))) := rfl
      rw [hcons] at hmatch ⊢
      rw [fromOnLine?, if_pos (by decide), hmatch]
    rw [hfound]
    rfl
  · next hne =>
    have hnone : fromOnLine? module (some ' ') ("from ".toList ++ '"' :: (m ++ '"' :: (';' :: '\n' :: rest))) =
        none := by
      have hparts : "from ".toList ++ '"' :: (m ++ '"' :: (';' :: '\n' :: rest)) =
          ("from \"".toList ++ (m ++ "\";".toList)) ++ '\n' :: rest := by simp
      have hline : '\n' ∉ "from \"".toList ++ (m ++ "\";".toList) := by
        have hmline : '\n' ∉ m := not_mem_of_class hm (by decide)
        simp [hmline]
      rw [hparts]
      exact fromOnLine?_end hline fun w hw _ => fromModule?_import hm hne hquote hdot hw rest
    rw [hnone]
    rfl

theorem importOf?_head {cs : List Char} (h : cs.head? ≠ some 'i') : importOf? module target before cs = none := by
  have hnone : after? "import".toList cs = none := after?_eq_none.2 fun hp => by
    obtain ⟨v, rfl⟩ := hp
    exact h rfl
  rw [importOf?, hnone]
  exact ite_self none

/-- Imports are looked for at the beginnings of lines. -/
theorem importOf?_inside {c : Char} (hc : c ≠ '\n') (cs : List Char) : importOf? module target (some c) cs = none := by
  have hany : (some c).any (· != '\n') = true := by simpa using hc
  rw [importOf?, if_pos hany]

end

/-! ## Lines -/

namespace Line

/-- Lines of the body of a case that rules change. -/
def isBody : Line → Bool
  | render _ _ | query _ _ | classed _ => true
  | _ => false

/-- A line with another module in its import, if it imports a certain one. -/
def redirect (module target : List Char) : Line → Line
  | named content m => named content (if m = module then target else m)
  | default name m => default name (if m = module then target else m)
  | l => l

theorem chars_named_import (component content m : List Char) :
    (named content m).chars component = importText (" \x7b".toList ++ (content ++ "\x7d ".toList)) m := by
  rw [chars_named, importText]
  simp

theorem chars_default_import (component name m : List Char) :
    (default name m).chars component = importText (' ' :: (name ++ [' '])) m := by
  rw [chars_default, importText]
  simp

section
variable {component module target : List Char}

theorem redirect_formed {l : Line} (h : l.Formed component) (ht : target.all isModuleChar = true) :
    (l.redirect module target).Formed component := by
  cases l with
  | named content m =>
    refine ⟨h.1, ?_⟩
    split
    · exact ht
    · exact h.2
  | default name m =>
    refine ⟨h.1, ?_⟩
    split
    · exact ht
    · exact h.2
  | _ => exact h

theorem not_mem_of_isLine {l : List Char} (h : IsLine l) : '\n' ∉ l := fun hmem => by
  have := h _ hmem
  cases this

/-- What the rule for modules that are not found makes of an import. -/
theorem redirect_importText {names m : List Char} {before : Option Char} (hbefore : before.any (· != '\n') = false)
    (hn : IsImported names) (hm : m.all isModuleChar = true) (hquote : '"' ∉ module)
    (hdot : module.head? = some '.') (rest : List Char) :
    replaceFrom (importOf? module ('"' :: (target ++ ['"']))) 0 before (importText names m ++ '\n' :: rest) =
      importText names (if m = module then target else m) ++
        '\n' :: replaceFrom (importOf? module ('"' :: (target ++ ['"']))) 0 (some '\n') rest := by
  have himport : importOf? module ('"' :: (target ++ ['"'])) before (importText names m ++ '\n' :: rest) = _ :=
    importOf?_line hbefore hn hm hquote hdot rest
  split at himport
  · next heq =>
    have hparts : importText names m ++ '\n' :: rest =
        ("import".toList ++ (names ++ ("from \"".toList ++ (m ++ ['"'])))) ++ ';' :: '\n' :: rest := by
      simp [importText]
    rw [hparts] at himport ⊢
    rw [replaceFrom_match himport (by simp)]
    have hend : ∀ before, before = some '"' →
        replaceFrom (importOf? module ('"' :: (target ++ ['"']))) 0 before (';' :: '\n' :: rest) =
          ';' :: '\n' :: replaceFrom (importOf? module ('"' :: (target ++ ['"']))) 0 (some '\n') rest := by
      rintro before rfl
      exact replaceFrom_lineStart (l := [';']) (fun c hc cs => importOf?_inside hc cs) (by decide)
        (importOf?_inside (by decide) _)
    rw [hend _ (by rw [← List.append_assoc, ← List.append_assoc, ← List.append_assoc, List.getLast?_concat]), if_pos heq]
    simp [importText]
  · next hne =>
    have hline : '\n' ∉ importText names m := by
      have hmline : '\n' ∉ m := not_mem_of_isLine (isLine_module hm)
      simp [importText, hn.line, hmline]
    rw [if_neg hne, replaceFrom_lineStart (fun c hc cs => importOf?_inside hc cs) hline himport]

theorem isImported_named {content : List Char} (hc : IsWord component)
    (h : content = libraryNames ∨ content = spaced component) :
    IsImported (" \x7b".toList ++ (content ++ "\x7d ".toList)) := by
  have hopen : Unquoted " \x7b".toList := by decide
  have hclose : Unquoted "\x7d ".toList := by decide
  have hspace : Unquoted [' '] := by decide
  have hname : Unquoted component := .of_tame (all_tame_of_nameChar hc.nameChars)
  have hline : '\n' ∉ component := not_mem_of_isLine (.of_tame (all_tame_of_nameChar hc.nameChars))
  have hcontent : Unquoted content ∧ '\n' ∉ content := by
    rcases h with rfl | rfl
    · decide
    · exact ⟨hspace.append (hname.append hspace), by simp [spaced, hline]⟩
  refine ⟨hopen.append (hcontent.1.append hclose), rfl, ?_, by simp [hcontent.2]⟩
  have hlast : "\x7d ".toList = ['\x7d'] ++ [' '] := rfl
  rw [hlast, ← List.append_assoc, ← List.append_assoc, List.getLast?_concat]

theorem isImported_default {name : List Char} (h : name.all isNameChar = true) :
    IsImported (' ' :: (name ++ [' '])) := by
  have hspace : Unquoted [' '] := by decide
  have hname : Unquoted name := .of_tame (all_tame_of_nameChar h)
  have hline : '\n' ∉ name := not_mem_of_isLine (.of_tame (all_tame_of_nameChar h))
  refine ⟨hspace.append (hname.append hspace), rfl, ?_, by simp [hline]⟩
  rw [← List.cons_append, List.getLast?_concat]

/-- A line that no rule changes is no import of a module that is not found. -/
theorem importOf?_fixed {text : List Char} {before : Option Char} (hstart : StartsFixed text)
    (hbefore : before.any (· != '\n') = false) (hquote : '"' ∉ module) (hdot : module.head? = some '.')
    (rest : List Char) : importOf? module target before (text ++ '\n' :: rest) = none := by
  rcases hstart with hhead | rfl | rfl
  · refine importOf?_head ?_
    rw [List.head?_append]
    cases text with
    | nil => simp
    | cons c text => simpa using hhead
  · have hnames : IsImported " React ".toList := ⟨by decide, by decide, by decide, by decide⟩
    have himport : importOf? module target before (importText " React ".toList "react".toList ++ '\n' :: rest) = _ :=
      importOf?_line hbefore hnames (by decide) hquote hdot rest
    have hne : "react".toList ≠ module := by
      rintro rfl
      cases hdot
    rw [if_neg hne] at himport
    exact himport
  · have hnone : fromOnLine? module (some 't') (" \"@testing-library/jest-dom\";".toList ++ '\n' :: rest) = none := by
      refine fromOnLine?_end (by decide) fun w hw hne => fromModule?_head ?_
      obtain ⟨c, w, rfl⟩ := List.exists_cons_of_ne_nil hne
      have htable : ∀ c ∈ " \"@testing-library/jest-dom\";".toList, c ≠ 'f' := List.forall_mem_ne'.2 (by decide)
      simpa using htable c (hw.subset (by simp))
    have hparts : "import \"@testing-library/jest-dom\";".toList ++ '\n' :: rest =
        "import".toList ++ (" \"@testing-library/jest-dom\";".toList ++ '\n' :: rest) := rfl
    rw [hparts, importOf?, hbefore, after?_append]
    simp only [Bool.false_eq_true, Option.bind_eq_bind, Option.bind_some, hnone, Option.bind_none, ite_self]

/-- Lines of a body are indented. -/
theorem head?_indented {l : Line} (v : List Char) (h : l.isBody = true) :
    (l.chars component ++ v).head? = some ' ' := by
  cases l with
  | query frame q => cases frame <;> rfl
  | render | classed => rfl
  | fixed | named | default => cases h

/-- What the rule for modules that are not found makes of a line. -/
theorem redirect_line {l : Line} {before : Option Char} (hc : IsWord component) (h : l.Formed component)
    (hbefore : before.any (· != '\n') = false) (hquote : '"' ∉ module) (hdot : module.head? = some '.')
    (rest : List Char) :
    replaceFrom (importOf? module ('"' :: (target ++ ['"']))) 0 before (l.chars component ++ '\n' :: rest) =
      (l.redirect module target).chars component ++
        '\n' :: replaceFrom (importOf? module ('"' :: (target ++ ['"']))) 0 (some '\n') rest := by
  have hpass : l.redirect module target = l →
      importOf? module ('"' :: (target ++ ['"'])) before (l.chars component ++ '\n' :: rest) = none →
      replaceFrom (importOf? module ('"' :: (target ++ ['"']))) 0 before (l.chars component ++ '\n' :: rest) =
        (l.redirect module target).chars component ++
          '\n' :: replaceFrom (importOf? module ('"' :: (target ++ ['"']))) 0 (some '\n') rest := by
    intro hsame hnone
    rw [hsame]
    exact replaceFrom_lineStart (fun c hc cs => importOf?_inside hc cs) (not_mem_of_isLine (isLine hc h)) hnone
  cases l with
  | fixed t => exact hpass rfl (importOf?_fixed h.2.2 hbefore hquote hdot rest)
  | named content m =>
    rw [redirect, chars_named_import, chars_named_import,
      redirect_importText hbefore (isImported_named hc h.1) h.2 hquote hdot]
  | default name m =>
    rw [redirect, chars_default_import, chars_default_import,
      redirect_importText hbefore (isImported_default h.1) h.2 hquote hdot]
  | query | render | classed => exact hpass rfl (importOf?_head (by rw [head?_indented _ rfl]; decide))

/-- What the rule for modules that are not found makes of a suite. -/
theorem redirectImport_textOf {d : List Line} {module target : String} (hc : IsWord component)
    (hd : ∀ l ∈ d, l.Formed component) (hquote : '"' ∉ module.toList) (hdot : module.toList.head? = some '.')
    (ht : target.toList.all isPlain = true) :
    redirectImport module target (textOf component d) =
      textOf component (d.map (redirect module.toList target.toList)) := by
  have hlines : ∀ before : Option Char, before.any (· != '\n') = false →
      replaceFrom (importOf? module.toList ('"' :: (target.toList ++ ['"']))) 0 before (textOf component d) =
        textOf component (d.map (redirect module.toList target.toList)) := by
    induction d with
    | nil => exact fun _ _ => rfl
    | cons l d ih =>
      intro before hbefore
      rw [textOf, List.map_cons, joinLines_cons, redirect_line hc (hd l (by simp)) hbefore hquote hdot,
        ← textOf, ih (fun l' hl' => hd l' (by simp [hl'])) _ rfl, List.map_cons, textOf, textOf, List.map_cons,
        joinLines_cons]
  rw [redirectImport, quote_toList, quoteBody_plain ht]
  exact hlines none rfl

end

end Line

end Suitewright
