/-
  The constants that a source text declares.

  * `Region`, `Reader`: what is known of a source text before a place, and how it is read one character after another;
  * `declared`: the names that `const` declares in a text, outside of quoted texts and comments;
  * `Binds`, `Silent`: texts that end between two words, and texts that declare nothing; how they are put together;
  * `IsInert`, `IsInert.silent`: names that may stand in a source as they are.
-/
import Mathlib.Tactic.SplitIfs
import Suitewright.Proofs.Repair.ReadBack
import Suitewright.Proofs.Suite.Supplied

namespace Suitewright

open Text

/-! ## Reading -/

/-- What a place in a source text belongs to. -/
inductive Region where
  /-- The code itself. -/
  | code
  /-- A text between two of the same quotes. -/
  | quoted (mark : Char)
  /-- Such a text, behind a backslash. -/
  | escaped (mark : Char)
  /-- The code behind a slash, with which a comment may begin. -/
  | slash
  /-- A comment up to the end of its line. -/
  | lineComment
  /-- A comment that is closed. -/
  | blockComment
  /-- Such a comment, behind an asterisk. -/
  | asterisk
  deriving DecidableEq

/-- What is known of a source text before a place. -/
structure Reader where
  /-- What the place belongs to. -/
  region : Region := .code
  /-- The word that has begun. -/
  word : List Char := []
  /-- Whether the word before it is `const`, with only blanks and comments between them. -/
  pending : Bool := false
  /-- The names declared so far. -/
  names : List String := []
  deriving DecidableEq

/-- The word that declares constants. -/
def constWord : List Char := "const".toList

/-- Characters of words in a source; a dollar sign is one. -/
def isSourceChar (c : Char) : Bool := isNameChar c || c == '$'

namespace Reader

/-- The name that the word is, if it is one that is declared. -/
def declaring (r : Reader) : List String := if r.pending then [.ofList r.word] else []

/-- The word that has begun is over. -/
def endWord (r : Reader) : Reader :=
  if r.word.isEmpty then r
  else { r with word := [], pending := r.word == constWord, names := r.names ++ r.declaring }

/-- A character of the code that belongs to no word. -/
def separate (r : Reader) (c : Char) : Reader :=
  if TypeText.isQuote c then { r with region := .quoted c, pending := false }
  else if c == '/' then { r with region := .slash }
  else { r with pending := r.pending && isBlank c }

/-- A character of the code. -/
def readCode (r : Reader) (c : Char) : Reader :=
  if isSourceChar c then { r with word := r.word ++ [c] } else r.endWord.separate c

/-- The next character. -/
def step (r : Reader) (c : Char) : Reader :=
  match r.region with
  | .code => r.readCode c
  | .quoted mark =>
    if c == mark then { r with region := .code }
    else if c == '\\' then { r with region := .escaped mark }
    else r
  | .escaped mark => { r with region := .quoted mark }
  | .slash =>
    if c == '/' then { r with region := .lineComment }
    else if c == '*' then { r with region := .blockComment }
    else { r with region := .code, pending := false }.readCode c
  | .lineComment => if c == '\n' then { r with region := .code } else r
  | .blockComment => if c == '*' then { r with region := .asterisk } else r
  | .asterisk =>
    if c == '/' then { r with region := .code }
    else if c == '*' then r
    else { r with region := .blockComment }

/-- The same reader behind a text that declares names. -/
def behind (r : Reader) (names : List String) : Reader := { r with names := names ++ r.names }

end Reader

/-- What is known behind a source text. -/
def readSource (s : String) : Reader := s.toList.foldl Reader.step {}

/-- The names that `const` declares in a source text. -/
def declared (s : String) : List String := (readSource s).endWord.names

example : declared "const a = 'const b'; // const c\n/* const d **/ const /* e */ f1 = g;" = ["a", "f1"] := by decide +kernel

/-! ### What comes before a text -/

namespace Reader

variable (r : Reader) (names : List String)

theorem endWord_behind : (r.behind names).endWord = r.endWord.behind names := by
  have hword : (r.behind names).word = r.word := rfl
  have hnames : (names ++ r.names) ++ r.declaring = names ++ (r.names ++ r.declaring) := List.append_assoc ..
  rw [endWord, endWord, hword]
  split
  · rfl
  · exact congrArg (fun ns => { r with word := [], pending := r.word == constWord, names := ns }) hnames

theorem separate_behind (c : Char) : (r.behind names).separate c = (r.separate c).behind names := by
  rw [separate, separate]
  split
  · rfl
  · split
    · rfl
    · rfl

theorem readCode_behind (c : Char) : (r.behind names).readCode c = (r.readCode c).behind names := by
  rw [readCode, readCode]
  split
  · rfl
  · rw [endWord_behind, separate_behind]

theorem step_behind (c : Char) : (r.behind names).step c = (r.step c).behind names := by
  obtain ⟨region, word, pending, names'⟩ := r
  cases region with
  | code => exact readCode_behind _ names c
  | escaped mark => rfl
  | quoted mark | asterisk =>
    simp only [step, behind]
    split
    · rfl
    · split <;> rfl
  | slash =>
    simp only [step, behind]
    split
    · rfl
    · split
      · rfl
      · exact readCode_behind ⟨.code, word, false, names'⟩ names c
  | lineComment | blockComment =>
    simp only [step, behind]
    split <;> rfl

/-- What comes before a text has no part in how it is read, but for the names. -/
theorem foldl_behind (cs : List Char) : cs.foldl step (r.behind names) = (cs.foldl step r).behind names := by
  induction cs generalizing r with
  | nil => rfl
  | cons c cs ih => rw [List.foldl_cons, List.foldl_cons, step_behind, ih]

end Reader

theorem readSource_append (s t : String) : readSource (s ++ t) = t.toList.foldl Reader.step (readSource s) := by
  rw [readSource, String.toList_append, List.foldl_append, readSource]

/-! ## Texts that declare names -/

/-- Texts that declare names and end in the code between two words. -/
def Binds (s : String) (names : List String) : Prop := readSource s = { names }

instance (s : String) (names : List String) : Decidable (Binds s names) :=
  inferInstanceAs (Decidable (_ = _))

/-- Texts that declare nothing and end in the code, perhaps within a word other than `const`. -/
def Silent (s : String) : Prop := ∃ word, word ≠ constWord ∧ readSource s = { word }

/-- Texts that begin with a character of no word. -/
def IsSeparated (s : String) : Prop := s.toList.head?.any (fun c => !isSourceChar c) = true

instance (s : String) : Decidable (IsSeparated s) := inferInstanceAs (Decidable (_ = _))

section
variable {s t : String} {names names' : List String}

theorem IsSeparated.append (h : IsSeparated s) (t : String) : IsSeparated (s ++ t) := by
  rw [IsSeparated, String.toList_append]
  cases hs : s.toList with
  | nil =>
    rw [IsSeparated, hs] at h
    cases h
  | cons c cs => rwa [IsSeparated, hs] at h

theorem Binds.declared_eq (h : Binds s names) : declared s = names := by
  rw [declared, h]
  rfl

theorem Binds.silent (h : Binds s []) : Silent s := ⟨[], by decide, h⟩

theorem readSource_behind (h : Binds s names) (t : String) : readSource (s ++ t) = (readSource t).behind names := by
  have hs : ({ names } : Reader) = ({} : Reader).behind names := by rw [Reader.behind, List.append_nil]
  rw [readSource_append, h, hs, Reader.foldl_behind, readSource]

theorem Binds.append (hs : Binds s names) (ht : Binds t names') : Binds (s ++ t) (names ++ names') := by
  rw [Binds, readSource_behind hs, ht]
  rfl

/-- A text stands between two others, of which the first one declares names. -/
theorem Binds.around {u : String} (hs : Binds s names) (ht : Binds t []) (hu : Binds u []) : Binds (s ++ t ++ u) names := by
  have h := (hs.append ht).append hu
  rwa [List.append_nil, List.append_nil] at h

theorem Binds.append_silent (hs : Binds s []) (ht : Silent t) : Silent (s ++ t) := by
  obtain ⟨word, hword, ht⟩ := ht
  exact ⟨word, hword, by rw [readSource_behind hs, ht]; rfl⟩

/-- A word is over with the first character that belongs to none. -/
theorem foldl_separated {r : Reader} (hregion : r.region = .code) (hend : r.endWord = { names }) (ht : IsSeparated t) :
    t.toList.foldl Reader.step r = (readSource t).behind names := by
  rw [readSource]
  rw [IsSeparated] at ht
  generalize t.toList = cs at ht
  cases cs with
  | nil => cases ht
  | cons c cs =>
    have hc : isSourceChar c = false := by simpa using ht
    have hfirst : r.step c = (({} : Reader).behind names).step c := by
      rw [Reader.step, hregion, Reader.behind, List.append_nil]
      show Reader.readCode _ c = Reader.readCode _ c
      rw [Reader.readCode, Reader.readCode, hc, if_neg Bool.false_ne_true, if_neg Bool.false_ne_true, hend]
      rfl
    rw [List.foldl_cons, hfirst, Reader.step_behind, Reader.foldl_behind, List.foldl_cons]

theorem endWord_of_ne {word : List Char} (h : word ≠ constWord) : ({ word } : Reader).endWord = {} := by
  cases word with
  | nil => rfl
  | cons c word => simp [Reader.endWord, Reader.declaring, h]

theorem readSource_separated (hs : Silent s) (ht : IsSeparated t) : readSource (s ++ t) = readSource t := by
  obtain ⟨word, hword, hs⟩ := hs
  rw [readSource_append, hs, foldl_separated rfl (endWord_of_ne hword) ht]
  rfl

theorem Silent.append_binds (hs : Silent s) (ht : Binds t names) (hsep : IsSeparated t) : Binds (s ++ t) names := by
  rw [Binds, readSource_separated hs hsep, ht]

theorem Silent.append (hs : Silent s) (ht : Silent t) (hsep : IsSeparated t) : Silent (s ++ t) := by
  obtain ⟨word, hword, ht⟩ := ht
  exact ⟨word, hword, by rw [readSource_separated hs hsep, ht]⟩

theorem Silent.intercalate {sep : String} (hsep : Binds sep []) (hstart : IsSeparated sep) {parts : List String}
    (h : ∀ s ∈ parts, Silent s) : Silent (sep.intercalate parts) := by
  induction parts with
  | nil => exact ⟨[], by decide, rfl⟩
  | cons s parts ih =>
    cases parts with
    | nil =>
      rw [String.intercalate_singleton]
      exact h s (by simp)
    | cons s' parts =>
      have hrest := hsep.append_silent (ih fun s hs => h s (List.mem_cons_of_mem _ hs))
      rw [String.intercalate_cons_cons, String.append_assoc]
      exact (h s (by simp)).append hrest (hstart.append _)

theorem binds_braced (h : Silent s) : Binds (braced s) [] :=
  ((show Binds "\x7b" [] by decide).append_silent h).append_binds (show Binds "\x7d" [] by decide) (by decide)

end

/-! ### Quoted texts -/

/-- Between quotes stands any text without quotes and backslashes. -/
theorem foldl_quoted {mark : Char} {cs : List Char} (h : ∀ c ∈ cs, c ≠ mark ∧ c ≠ '\\') :
    cs.foldl Reader.step { region := .quoted mark } = { region := .quoted mark } := by
  induction cs with
  | nil => rfl
  | cons c cs ih =>
    obtain ⟨hmark, hbackslash⟩ := h c (by simp)
    have hstep : Reader.step { region := .quoted mark } c = { region := .quoted mark } := by
      simp [Reader.step, hmark, hbackslash]
    rw [List.foldl_cons, hstep]
    exact ih fun c hc => h c (List.mem_cons_of_mem _ hc)

/-- Escapes do not end a quoted text. -/
theorem foldl_unitEscape (n : Nat) :
    (Json.unitEscape n).foldl Reader.step { region := .quoted '"' } = { region := .quoted '"' } := by
  have hdigit : ∀ k, Json.hexDigit k ≠ '"' ∧ Json.hexDigit k ≠ '\\' := by
    intro k
    have htable : ∀ d < 16, Nat.digitChar d ≠ '"' ∧ Nat.digitChar d ≠ '\\' := by decide
    exact htable _ (Nat.mod_lt k (by decide))
  have hopen : ['\\', 'u'].foldl Reader.step { region := .quoted '"' } = { region := .quoted '"' } := by decide
  show (['\\', 'u'] ++ [_, _, _, _]).foldl Reader.step _ = _
  rw [List.foldl_append, hopen]
  exact foldl_quoted (by simp [hdigit])

theorem foldl_escapeChar (c : Char) :
    (Json.escapeChar c).foldl Reader.step { region := .quoted '"' } = { region := .quoted '"' } := by
  rw [Json.escapeChar]
  split
  · decide
  · next hquote =>
    split
    · decide
    · next hbackslash =>
      have hplain : [c].foldl Reader.step { region := .quoted '"' } = { region := .quoted '"' } := by
        refine foldl_quoted (List.forall_mem_singleton.2 ⟨?_, ?_⟩)
        · exact fun h => hquote (beq_iff_eq.2 h)
        · exact fun h => hbackslash (beq_iff_eq.2 h)
      have hpair : ∀ d, ['\\', d].foldl Reader.step { region := .quoted '"' } = { region := .quoted '"' } := fun _ => rfl
      split_ifs
      · exact hpair _
      · exact hpair _
      · exact hpair _
      · exact hpair _
      · exact hpair _
      · exact hplain
      · exact foldl_unitEscape _
      · rw [List.foldl_append, foldl_unitEscape, foldl_unitEscape]

theorem binds_quote (s : String) : Binds (Json.quote s) [] := by
  have hopen : Reader.step {} '"' = { region := .quoted '"' } := by decide
  have hbody : (quoteBody s.toList).foldl Reader.step { region := .quoted '"' } = { region := .quoted '"' } := by
    rw [quoteBody]
    induction s.toList with
    | nil => rfl
    | cons c cs ih => rw [List.flatMap_cons, List.foldl_append, foldl_escapeChar, ih]
  rw [Binds, readSource, quote_toList, List.foldl_cons, hopen, List.foldl_append, hbody]
  decide

/-- A text between quotes as it is. -/
theorem binds_plainQuote {s : String} (hquote : '"' ∉ s.toList) (hbackslash : '\\' ∉ s.toList) :
    Binds ("\"" ++ s ++ "\"") [] := by
  have hopen : "\"".toList.foldl Reader.step {} = { region := .quoted '"' } := by decide
  have hbody : s.toList.foldl Reader.step { region := .quoted '"' } = { region := .quoted '"' } :=
    foldl_quoted fun c hc => ⟨fun h => hquote (h ▸ hc), fun h => hbackslash (h ▸ hc)⟩
  rw [Binds, readSource_append, readSource_append, readSource, hopen, hbody]
  decide

/-! ### Names -/

/-- Characters that begin or end a quoted text or a comment, and the one that ends a tag. -/
def isSourceMark (c : Char) : Bool := TypeText.isQuote c || c == '/' || c == '>'

/-- Names that may stand in a source as they are: they hold none of these characters, and not the word `const`. -/
structure IsInert (name : String) : Prop where
  marks : ∀ c ∈ name.toList, isSourceMark c = false
  word : namedIn constWord none name.toList = false

theorem foldl_inert {word u : List Char} (hmarks : ∀ c ∈ u, isSourceMark c = false)
    (hconst : namedIn constWord none (word ++ u) = false) :
    ∃ word', word' ≠ constWord ∧ u.foldl Reader.step { word } = { word := word' } := by
  have hself : namedIn constWord none constWord = true := by decide
  induction u generalizing word with
  | nil =>
    refine ⟨word, ?_, rfl⟩
    rintro rfl
    rw [List.append_nil, hself] at hconst
    cases hconst
  | cons c u ih =>
    have hrest : ∀ d ∈ u, isSourceMark d = false := fun d hd => hmarks d (List.mem_cons_of_mem _ hd)
    rw [List.foldl_cons]
    by_cases hc : isSourceChar c = true
    · have hstep : Reader.step { word } c = { word := word ++ [c] } := by
        show Reader.readCode _ c = _
        rw [Reader.readCode, if_pos hc]
      rw [hstep]
      exact ih hrest (by rw [List.append_assoc]; exact hconst)
    · have hname : isNameChar c = false := by
        simp only [isSourceChar, Bool.or_eq_true, not_or, Bool.not_eq_true] at hc
        exact hc.1
      have hletters : constWord.all isNameChar = true := by decide
      have hother : c ∉ constWord := not_mem_of_class hletters hname
      rw [namedIn_separated hname hother (by decide), Bool.or_eq_false_iff] at hconst
      have hword : word ≠ constWord := by
        rintro rfl
        cases hself.symm.trans hconst.1
      have hmark := hmarks c (by simp)
      simp only [isSourceMark, Bool.or_eq_false_iff] at hmark
      have hstep : Reader.step { word } c = {} := by
        show Reader.readCode _ c = _
        rw [Reader.readCode, if_neg hc, endWord_of_ne hword, Reader.separate, hmark.1.1, hmark.1.2,
          if_neg Bool.false_ne_true, if_neg Bool.false_ne_true]
        rfl
      rw [hstep]
      exact ih hrest hconst.2

theorem IsInert.silent {name : String} (h : IsInert name) : Silent name := foldl_inert h.marks h.word

theorem all_name_of_alphanum {cs : List Char} (h : cs.all Char.isAlphanum = true) : cs.all isNameChar = true :=
  List.all_eq_true.2 fun c hc => isNameChar_of_isAlphanum (List.all_eq_true.1 h c hc)

/-- Names of letters and digits are inert. -/
theorem IsInert.of_alphanum {name : String} (h : name.toList.all Char.isAlphanum = true) (hne : name.toList ≠ constWord) :
    IsInert name where
  marks c hc := by
    have hc := List.all_eq_true.1 h c hc
    have := forall_ascii (p := fun c => !c.isAlphanum || !isSourceMark c) (by decide) (toNat_of_isAlphanum hc)
    simpa [hc] using this
  word := by
    rw [Bool.eq_false_iff, ne_eq, namedIn_iff, standsIn_name (all_name_of_alphanum h)]
    exact hne.symm

/-- A constant is declared. -/
theorem binds_constant {name t : String} (hnil : name.toList ≠ []) (hchars : name.toList.all Char.isAlphanum = true)
    (hne : name.toList ≠ constWord) (ht : Binds t []) (hsep : IsSeparated t) :
    Binds ("const " ++ name ++ t) [name] := by
  have hconst : readSource "const " = { pending := true } := by decide
  have hword : ∀ u v : List Char, u.all isNameChar = true →
      u.foldl Reader.step { word := v, pending := true } = { word := v ++ u, pending := true } := by
    intro u
    induction u with
    | nil => simp
    | cons c u ih =>
      intro v hu
      rw [List.all_cons, Bool.and_eq_true] at hu
      have hstep : Reader.step { word := v, pending := true } c = { word := v ++ [c], pending := true } := by
        show Reader.readCode _ c = _
        rw [Reader.readCode, isSourceChar, hu.1]
        rfl
      rw [List.foldl_cons, hstep, ih _ hu.2, List.append_assoc]
      rfl
  have hend : ({ word := name.toList, pending := true } : Reader).endWord = { names := [name] } := by
    simp [Reader.endWord, Reader.declaring, hnil, hne]
  rw [Binds, readSource_append, readSource_append, hconst, hword _ _ (all_name_of_alphanum hchars),
    List.nil_append, foldl_separated rfl hend hsep, ht]
  rfl

end Suitewright
