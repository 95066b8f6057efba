/-
  Characters that no pattern looks for.

  * `isValueChar`, `isTame`: letters and numbers of every script, hyphens, underscores, spaces and points, and with
    them backslashes;
  * `not_mem_of_class`: a text of characters of a class holds no others;
  * `isTame_ne`, `IsLine.of_tame`: tame characters are no quotes, brackets, commas or line breaks;
  * `escapeChar_tame`, `quoteBody_plain`: what quoting makes of such characters;
  * `className_tame`: a quoted style class is tame;
  * `joinCapitalized_alphanum`: variables of a suite are made of letters and digits.
-/
import Suitewright.Component.Naming
import Suitewright.Json.Printer
import Suitewright.Proofs.Text.Replacing

namespace Suitewright.Text

/-- Letters, numbers, hyphens, underscores, spaces and points. -/
def isValueChar (c : Char) : Bool := isNameChar c || c == ' ' || c == '.'

/-- The same and backslashes. -/
def isTame (c : Char) : Bool := isValueChar c || c == '\\'

/-- What holds of all characters of ASCII can be seen from a table. -/
theorem forall_ascii {p : Char → Bool} (h : ((List.range 128).all fun n => p (Char.ofNat n)) = true) {c : Char}
    (hc : c.toNat < 128) : p c = true := by
  have := List.all_eq_true.1 h c.toNat (List.mem_range.2 hc)
  rwa [Char.ofNat_toNat] at this

/-- Of two characters only one of which is of a class one is not the other. -/
theorem ne_of_class {p : Char → Bool} {c d : Char} (hc : p c = true) (hd : p d = false) : c ≠ d := by
  rintro rfl
  rw [hc] at hd
  cases hd

/-- A text of characters of a class holds no others. -/
theorem not_mem_of_class {p : Char → Bool} {cs : List Char} {c : Char} (h : cs.all p = true) (hc : p c = false) :
    c ∉ cs :=
  fun hmem => ne_of_class (List.all_eq_true.1 h c hmem) hc rfl

theorem isTame_ne {c d : Char} (hc : isTame c = true) (hd : isTame d = false) : c ≠ d := ne_of_class hc hd

theorem isTame_of_isValueChar {c : Char} (h : isValueChar c = true) : isTame c = true := by simp [isTame, h]

theorem isValueChar_of_isNameChar {c : Char} (h : isNameChar c = true) : isValueChar c = true := by
  simp [isValueChar, h]

theorem isTame_of_isNameChar {c : Char} (h : isNameChar c = true) : isTame c = true :=
  isTame_of_isValueChar (isValueChar_of_isNameChar h)

theorem toNat_of_isAlphanum {c : Char} (h : c.isAlphanum = true) : c.toNat < 128 := by
  have hlt : ∀ {d : Char}, c.val ≤ d.val → d.toNat < 128 → c.toNat < 128 := fun h hd =>
    Nat.lt_of_le_of_lt (UInt32.le_iff_toNat_le.1 h) hd
  rcases Bool.or_eq_true_iff.1 h with h | h
  · rcases Bool.or_eq_true_iff.1 h with h | h
    · exact hlt (of_decide_eq_true h).2 (by decide)
    · exact hlt (of_decide_eq_true (Bool.and_eq_true_iff.1 h).2) (by decide)
  · exact hlt (of_decide_eq_true (Bool.and_eq_true_iff.1 h).2) (by decide)

theorem isNameChar_of_isAlphanum {c : Char} (h : c.isAlphanum = true) : isNameChar c = true := by
  simp [isNameChar, isWordChar, isAlphanumeric, toNat_of_isAlphanum h, h]

/-- No blank outside ASCII is a letter or a number. -/
theorem isAlphanumeric_of_isBlank {c : Char} (h : isBlank c = true) : isAlphanumeric c = false := by
  simp only [isBlank] at h
  rw [isAlphanumeric]
  split at h
  · next hc =>
    rw [if_pos hc]
    have := forall_ascii (p := fun c => !isBlank c || !c.isAlphanum) (by decide) hc
    simpa [isBlank, hc, h] using this
  · next hc =>
    rw [if_neg hc]
    have htable : ∀ n ∈ [0x85, 0xA0, 0x1680, 0x2028, 0x2029, 0x202F, 0x205F, 0x3000] ++
        (List.range 11).map (0x2000 + ·), inRanges alphanumericRanges n = false := by decide +kernel
    refine htable _ ?_
    simp only [List.mem_append, List.mem_map, List.mem_range, List.mem_cons, List.not_mem_nil, or_false]
    simp only [Bool.or_eq_true, Bool.and_eq_true, beq_iff_eq, decide_eq_true_eq] at h
    by_cases hr : 0x2000 ≤ c.toNat ∧ c.toNat ≤ 0x200A
    · exact Or.inr ⟨c.toNat - 0x2000, by omega, by omega⟩
    · omega

theorem isBlank_of_isLineBreak {c : Char} (h : isLineBreak c = true) : isBlank c = true := by
  simp only [isLineBreak] at h
  simp only [isBlank]
  simp only [Bool.or_eq_true, Bool.and_eq_true, beq_iff_eq, decide_eq_true_eq] at h
  split <;> simp only [Bool.or_eq_true, Bool.and_eq_true, beq_iff_eq, decide_eq_true_eq] <;> omega

theorem isBlank_of_isNameChar {c : Char} (h : isNameChar c = true) : isBlank c = false := by
  cases hb : isBlank c with
  | false => rfl
  | true =>
    simp only [isNameChar, isWordChar, isAlphanumeric_of_isBlank hb, Bool.or_eq_true, beq_iff_eq] at h
    rcases h with rfl | rfl | h
    · cases hb
    · cases hb
    · cases h

theorem isLineBreak_of_isTame {c : Char} (h : isTame c = true) : isLineBreak c = false := by
  cases hb : isLineBreak c with
  | false => rfl
  | true =>
    have hblank := isBlank_of_isLineBreak hb
    simp only [isTame, isValueChar, Bool.or_eq_true, beq_iff_eq] at h
    rcases h with ((h | rfl) | rfl) | rfl
    · rw [isBlank_of_isNameChar h] at hblank
      cases hblank
    · cases hb
    · cases hb
    · cases hb

theorem IsLine.of_tame {l : List Char} (h : l.all isTame = true) : IsLine l :=
  fun c hc => isLineBreak_of_isTame (List.all_eq_true.1 h c hc)

/-! ## Quoting -/

/-- Characters that escapes are made of. -/
def isEscapeChar (c : Char) : Bool := c == '\\' || c == 'u' || c.isDigit || ('a'.toNat ≤ c.toNat && c.toNat ≤ 'f'.toNat)

theorem unitEscape_escapeChars (n : Nat) : (Json.unitEscape n).all isEscapeChar = true := by
  have hdigit : ∀ k, isEscapeChar (Json.hexDigit k) = true := by
    intro k
    have htable : ∀ d < 16, isEscapeChar (Nat.digitChar d) = true := by decide
    exact htable _ (Nat.mod_lt k (by decide))
  have hu : isEscapeChar 'u' = true := rfl
  have hbackslash : isEscapeChar '\\' = true := rfl
  simp [Json.unitEscape, hdigit, hu, hbackslash]

/-- Outside ASCII escapes are made of the characters of escapes. -/
theorem escapeChar_outside {c : Char} (hc : 128 ≤ c.toNat) : (Json.escapeChar c).all isEscapeChar = true := by
  have hne : ∀ d : Char, d.toNat < 128 → (c == d) = false := by
    intro d hd
    rw [beq_eq_false_iff_ne]
    rintro rfl
    omega
  have h12 : (c.toNat == 12) = false := by rw [beq_eq_false_iff_ne]; omega
  have h8 : (c.toNat == 8) = false := by rw [beq_eq_false_iff_ne]; omega
  have hrange : (decide (32 ≤ c.toNat) && decide (c.toNat < 127)) = false := by
    simp only [Bool.and_eq_false_iff, decide_eq_false_iff_not]
    omega
  rw [Json.escapeChar, hne '"' (by decide), hne '\\' (by decide), hne '\n' (by decide),
    hne '\r' (by decide), hne '\t' (by decide), h12, h8, hrange]
  simp only [Bool.false_eq_true, if_false]
  split
  · exact unitEscape_escapeChars _
  · rw [List.all_append, unitEscape_escapeChars, unitEscape_escapeChars]
    rfl

/-- What holds of the characters of escapes and of the escapes of ASCII holds of all escapes. -/
theorem escapeChar_all {p : Char → Bool} (hescape : ∀ c, isEscapeChar c = true → p c = true) {c : Char}
    (h : c.toNat < 128 → (Json.escapeChar c).all p = true) : (Json.escapeChar c).all p = true := by
  rcases Nat.lt_or_ge c.toNat 128 with hc | hc
  · exact h hc
  · rw [List.all_eq_true]
    intro d hd
    exact hescape d (List.all_eq_true.1 (escapeChar_outside hc) d hd)

/-- What holds of all characters of escapes can be seen from a table. -/
theorem forall_escapeChars {p : Char → Bool}
    (h : ((List.range 128).all fun n => !isEscapeChar (Char.ofNat n) || p (Char.ofNat n)) = true) {c : Char}
    (hc : isEscapeChar c = true) : p c = true := by
  have hlt : c.toNat < 128 := by
    have hescape := hc
    simp only [isEscapeChar, Char.isDigit, Bool.or_eq_true, Bool.and_eq_true, beq_iff_eq, decide_eq_true_eq,
      UInt32.le_iff_toNat_le, ge_iff_le] at hescape
    have hval : c.toNat = c.val.toNat := rfl
    have : '9'.val.toNat = 57 := rfl
    have : 'f'.toNat = 102 := rfl
    rcases hescape with ((rfl | rfl) | hdigit) | hletter
    · decide
    · decide
    · omega
    · omega
  have := forall_ascii (p := fun c => !isEscapeChar c || p c) h hlt
  simpa [hc] using this

theorem isTame_of_isEscapeChar {c : Char} (h : isEscapeChar c = true) : isTame c = true :=
  forall_escapeChars (by decide) h

/-- Tame characters, control characters and all that is not in ASCII. -/
def isMild (c : Char) : Bool := c.toNat < 32 || 127 ≤ c.toNat || isTame c

theorem isMild_of_isTame {c : Char} (h : isTame c = true) : isMild c = true := by simp [isMild, h]

/-- Escapes are tame, and so is a character that stands for itself, if it is mild. -/
theorem escapeChar_tame {c : Char} (h : isMild c = true) : (Json.escapeChar c).all isTame = true := by
  refine escapeChar_all (fun _ => isTame_of_isEscapeChar) fun hc => ?_
  have := forall_ascii (p := fun c => !isMild c || (Json.escapeChar c).all isTame) (by decide) hc
  simpa [h] using this

/-- The text between the quotes of a quoted text. -/
def quoteBody (cs : List Char) : List Char := cs.flatMap Json.escapeChar

theorem quote_toList (s : String) : (Json.quote s).toList = '"' :: (quoteBody s.toList ++ ['"']) := by
  simp [Json.quote, Json.quoteChars, quoteBody]

theorem quoteBody_tame {cs : List Char} (h : cs.all isMild = true) : (quoteBody cs).all isTame = true := by
  rw [quoteBody, List.all_flatMap, List.all_eq_true]
  intro c hc
  exact escapeChar_tame (List.all_eq_true.1 h c hc)

theorem quoteBody_tame_of_tame {cs : List Char} (h : cs.all isTame = true) :
    (quoteBody cs).all isTame = true :=
  quoteBody_tame (List.all_eq_true.2 fun c hc => isMild_of_isTame (List.all_eq_true.1 h c hc))

/-- A quoted text is one line. -/
theorem newline_not_mem_quoteBody (cs : List Char) : '\n' ∉ quoteBody cs := by
  rw [quoteBody, List.mem_flatMap]
  rintro ⟨c, -, hmem⟩
  rcases Nat.lt_or_ge c.toNat 128 with hc | hc
  · have := forall_ascii (p := fun c => !(Json.escapeChar c).contains '\n') (by decide) hc
    simp [hmem] at this
  · have hmild : isMild c = true := by simp [isMild, show 127 ≤ c.toNat by omega]
    exact not_mem_of_class (escapeChar_tame hmild) (by decide) hmem

/-- A character that no escape holds is not between the quotes of a quoted text, unless it is in the text. -/
theorem not_mem_quoteBody {x : Char} (hescape : isEscapeChar x = false)
    (htable : ((List.range 128).all fun n => Char.ofNat n == x || !(Json.escapeChar (Char.ofNat n)).contains x) = true)
    {cs : List Char} (h : x ∉ cs) : x ∉ quoteBody cs := by
  rw [quoteBody, List.mem_flatMap]
  rintro ⟨c, hc, hmem⟩
  rcases Nat.lt_or_ge c.toNat 128 with hlt | hge
  · have := forall_ascii (p := fun c => c == x || !(Json.escapeChar c).contains x) htable hlt
    have hne : c ≠ x := fun e => h (e ▸ hc)
    simp [hmem, hne] at this
  · exact not_mem_of_class (escapeChar_outside hge) hescape hmem

theorem escapeChar_cases (c : Char) :
    (Json.escapeChar c = [c] ∧ c ≠ '"') ∨ ∃ rest, Json.escapeChar c = '\\' :: rest := by
  rw [Json.escapeChar]
  split
  · exact Or.inr ⟨_, rfl⟩
  · next hne =>
    repeat' split
    all_goals first | exact Or.inr ⟨_, rfl⟩ | exact Or.inl ⟨rfl, by simpa using hne⟩

/-- In an escape a quote stands only behind a backslash. -/
theorem escapeChar_behind {c : Char} {u v : List Char} (h : Json.escapeChar c = u ++ '"' :: v) : u = ['\\'] := by
  by_cases hc : c = '"'
  · subst hc
    have hescape : Json.escapeChar '"' = ['\\', '"'] := rfl
    rw [hescape] at h
    obtain - | ⟨d, - | ⟨e, u⟩⟩ := u
    · exact absurd (List.cons.inj h).1 (by decide)
    · rw [(List.cons.inj h).1]
    · exact absurd (congrArg List.length h) (by simp)
  · have hnone : (Json.escapeChar c).all (· != '"') = true := by
      refine escapeChar_all (fun d hd => bne_iff_ne.2 ?_) fun hlt => ?_
      · rintro rfl
        cases hd
      · have := forall_ascii (p := fun c => c == '"' || (Json.escapeChar c).all (· != '"')) (by decide) hlt
        simpa [hc] using this
    exact absurd (by simp [h]) (not_mem_of_class hnone (c := '"') (by decide))

/-- Between quotes a quote stands only behind a backslash. -/
theorem quoteBody_behind {cs u v : List Char} (h : quoteBody cs = u ++ '"' :: v) : u.getLast? = some '\\' := by
  induction cs generalizing u with
  | nil => cases u <;> cases h
  | cons c cs ih =>
    rw [quoteBody, List.flatMap_cons, ← quoteBody] at h
    rcases List.append_eq_append_iff.1 h with ⟨t, rfl, ht⟩ | ⟨t, hescape, ht⟩
    · rw [List.getLast?_append, ih ht, Option.some_or]
    · cases t with
      | nil => cases ih (u := []) ht.symm
      | cons d t =>
        obtain rfl : '"' = d := (List.cons.inj ht).1
        rw [escapeChar_behind hescape]
        rfl

theorem quoteBody_quote {cs u v : List Char} (h : quoteBody cs = u ++ '"' :: v) : '\\' ∈ u :=
  List.mem_of_getLast? (quoteBody_behind h)

/-- Characters of ASCII that stand for themselves between quotes. -/
def isPlain (c : Char) : Bool := 32 ≤ c.toNat && c.toNat < 127 && c != '"' && c != '\\'

theorem quoteBody_plain {cs : List Char} (h : cs.all isPlain = true) : quoteBody cs = cs := by
  induction cs with
  | nil => rfl
  | cons c cs ih =>
    obtain ⟨hc, hcs⟩ : isPlain c = true ∧ cs.all isPlain = true := by simpa using h
    have hlt : c.toNat < 128 := by
      simp only [isPlain, Bool.and_eq_true, decide_eq_true_eq] at hc
      omega
    have := forall_ascii (p := fun c => !isPlain c || Json.escapeChar c == [c]) (by decide) hlt
    rw [hc] at this
    have hself : Json.escapeChar c = [c] := by simpa using this
    rw [quoteBody, List.flatMap_cons, hself, ← quoteBody, ih hcs]
    rfl

/-! ## Style classes -/

/-- What lies outside ASCII is mild and no capital of ASCII. -/
theorem ofNat_outside {n : Nat} (h : 128 ≤ n) : (isMild (Char.ofNat n) && !(Char.ofNat n).isUpper) = true := by
  by_cases hv : n.isValidChar
  · have hofNat : Char.ofNat n = Char.ofNatAux n hv := dif_pos hv
    have hnat : (Char.ofNat n).toNat = n := congrArg Char.toNat hofNat
    have hupper : (Char.ofNat n).isUpper = false := by
      refine decide_eq_false fun hle => ?_
      have hle : (Char.ofNat n).toNat ≤ 90 := UInt32.le_iff_toNat_le.1 hle.2
      omega
    have hmild : decide (127 ≤ n) = true := decide_eq_true (by omega)
    rw [isMild, hnat, hupper, hmild, Bool.or_true, Bool.true_or]
    rfl
  · have hofNat : Char.ofNat n = Char.ofNat 0 := dif_neg hv
    rw [hofNat]
    rfl

/-- The lower form of a character outside ASCII is mild and no capital of ASCII; the one of the sign of degrees Kelvin is
a letter of ASCII. -/
theorem lowerChars_outside {c : Char} (hc : ¬ c.toNat < 128) :
    (lowerChars c).all (fun d => isMild d && !d.isUpper) = true := by
  rw [lowerChars, if_neg hc]
  split
  · decide
  · cases hrun : followRun lowerRuns c.toNat with
    | none =>
      have := ofNat_outside (Nat.le_of_not_lt hc)
      simpa using this
    | some n =>
      have htable : lowerRuns.all (fun r =>
          decide (128 ≤ (r.1 : Int) + r.2.2.2) || (r.1 == r.2.1 && (r.1 : Int) + r.2.2.2 == 107)) = true := by
        decide
      obtain ⟨⟨lo, hi, step, offset⟩, hfind, rfl⟩ := Option.map_eq_some_iff.1 hrun
      have hin := List.find?_some hfind
      have hrow := List.all_eq_true.1 htable _ (List.mem_of_find?_eq_some hfind)
      simp only [Bool.and_eq_true, decide_eq_true_eq] at hin
      simp only [Bool.or_eq_true, Bool.and_eq_true, beq_iff_eq, decide_eq_true_eq] at hrow
      simp only [Option.map_some, Option.getD_some, List.all_cons, List.all_nil, Bool.and_true]
      rcases hrow with hlow | ⟨rfl, hk⟩
      · exact ofNat_outside (by simp only [Int.ofNat_eq_natCast]; omega)
      · have : (Int.ofNat c.toNat + offset).toNat = 107 := by simp only [Int.ofNat_eq_natCast]; omega
        rw [this]
        decide

theorem lowerChars_mild {c : Char} (h : isMild c = true) : (lowerChars c).all isMild = true := by
  by_cases hc : c.toNat < 128
  · have := forall_ascii (p := fun c => !isMild c || isMild c.toLower) (by decide) hc
    rw [lowerChars, if_pos hc]
    simpa [h] using this
  · rw [List.all_eq_true]
    intro d hd
    exact (Bool.and_eq_true_iff.1 (List.all_eq_true.1 (lowerChars_outside hc) d hd)).1

theorem lowerFrom_mild {cs : List Char} (h : cs.all isMild = true) (before : List Char) :
    (lowerFrom before cs).all isMild = true := by
  induction cs generalizing before with
  | nil => rfl
  | cons c cs ih =>
    obtain ⟨hc, hcs⟩ : isMild c = true ∧ cs.all isMild = true := by simpa using h
    rw [lowerFrom, List.all_append, ih hcs, Bool.and_true]
    split
    · split <;> decide
    · exact lowerChars_mild hc

/-- Only an angle bracket has one in its lower form. -/
theorem bracket_not_mem_lowerFrom {cs : List Char} (h : '<' ∉ cs) (before : List Char) : '<' ∉ lowerFrom before cs := by
  induction cs generalizing before with
  | nil => exact h
  | cons c cs ih =>
    rw [List.mem_cons, not_or] at h
    rw [lowerFrom, List.mem_append, not_or]
    refine ⟨?_, ih h.2 _⟩
    split
    · split <;> decide
    · intro hmem
      by_cases hc : c.toNat < 128
      · rw [lowerChars, if_pos hc, List.mem_singleton] at hmem
        have := forall_ascii (p := fun c => c == '<' || c.toLower != '<') (by decide) hc
        simp [← hmem, Ne.symm h.1] at this
      · cases (Bool.and_eq_true_iff.1 (List.all_eq_true.1 (lowerChars_outside hc) _ hmem)).1

/-- A lower form holds no capital of ASCII. -/
theorem lowerFrom_not_upper (cs before : List Char) : (lowerFrom before cs).all (fun d => !d.isUpper) = true := by
  induction cs generalizing before with
  | nil => rfl
  | cons c cs ih =>
    rw [lowerFrom, List.all_append, ih, Bool.and_true]
    split
    · split <;> decide
    · by_cases hc : c.toNat < 128
      · have := forall_ascii (p := fun c => !c.toLower.isUpper) (by decide) hc
        rw [lowerChars, if_pos hc, List.all_cons, List.all_nil, Bool.and_true]
        exact this
      · rw [List.all_eq_true]
        intro d hd
        exact (Bool.and_eq_true_iff.1 (List.all_eq_true.1 (lowerChars_outside hc) d hd)).2

/-- A quoted style class holds no capital of ASCII. -/
theorem className_not_upper (name : String) : (quoteBody (className name).toList).all (fun d => !d.isUpper) = true := by
  have hlower : (className name).toList.all (fun d => !d.isUpper) = true := by
    rw [className, lower, String.toList_ofList]
    exact lowerFrom_not_upper _ _
  rw [quoteBody, List.all_flatMap, List.all_eq_true]
  intro c hc
  refine escapeChar_all (fun d hd => ?_) fun hlt => ?_
  · exact forall_escapeChars (p := fun d => !d.isUpper) (by decide) hd
  · have := forall_ascii (p := fun c => c.isUpper || (Json.escapeChar c).all fun d => !d.isUpper) (by decide) hlt
    have hcase : c.isUpper = false := by simpa using List.all_eq_true.1 hlower c hc
    simpa only [hcase, Bool.false_or] using this

theorem className_tame {name : String} (h : name.toList.all isMild = true) :
    (quoteBody (className name).toList).all isTame = true := by
  refine quoteBody_tame ?_
  rw [className, lower, String.toList_ofList, String.toList_ofList]
  refine lowerFrom_mild ?_ []
  rw [hyphenate, List.all_flatMap, List.all_eq_true]
  intro c hc
  have hmild := List.all_eq_true.1 h c hc
  have hhyphen : isMild '-' = true := rfl
  split
  · simp [hmild, hhyphen]
  · simp [hmild]

/-! ## Variables -/

theorem runsOf_all {p : Char → Bool} (cs : List Char) : ∀ run ∈ runsOf p cs, run.all p = true := by
  induction cs with
  | nil => simp [runsOf]
  | cons c cs ih =>
    rw [runsOf.eq_def]
    dsimp only
    split
    · next hc =>
      split
      · simp [hc]
      · next d rest =>
        split
        · split
          · simp [hc]
          · next r rs hruns =>
            rw [hruns] at ih
            intro run hrun
            rcases List.mem_cons.1 hrun with rfl | hrun
            · simp [hc, ih r (by simp)]
            · exact ih run (by simp [hrun])
        · intro run hrun
          rcases List.mem_cons.1 hrun with rfl | hrun
          · simp [hc]
          · exact ih run hrun
    · exact ih

theorem joinCapitalized_alphanum (cs : List Char) : (joinCapitalized cs).all Char.isAlphanum = true := by
  rw [joinCapitalized, List.all_flatMap, List.all_eq_true]
  intro run hrun
  have hall := runsOf_all cs run hrun
  cases run with
  | nil => rfl
  | cons c rest =>
    obtain ⟨hc, hrest⟩ : c.isAlphanum = true ∧ rest.all Char.isAlphanum = true := by simpa using hall
    have hlt := toNat_of_isAlphanum hc
    have := forall_ascii (p := fun c => !c.isAlphanum || c.toUpper.isAlphanum) (by decide) hlt
    rw [hc] at this
    have hup : c.toUpper.isAlphanum = true := by simpa using this
    rw [capitalizeChars, upperChars, if_pos hlt, List.all_append, hrest]
    simp [hup]

end Suitewright.Text
