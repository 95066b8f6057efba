/-
  Marks: places of a suite at which a rule could find its pattern.

  * `Mark.ends`: whether a character completes a mark, after the text before it;
  * `Mark.free`: whether no character of a text does;
  * `Mark.Safe`: texts that hold no end of a mark anywhere; `Safe.append`, `Safe.of_tame`;
  * `Mark.Absent`: lines without a mark;
  * `Absent.not_prefix`: a pattern that begins with the text of a mark does not match on such a line;
  * `Absent.next`: what follows the text of a mark and blanks on such a line.
-/
import Suitewright.Proofs.Text.Tame

namespace Suitewright

open Text

/-- What the patterns of rules look for. -/
inductive Mark where
  /-- A single quote. -/
  | quote
  /-- A query by a role. -/
  | roleQuery
  /-- A query by a text. -/
  | textQuery
  /-- The assertion of a style class. -/
  | classAssertion
  /-- The rendering of an element. -/
  | rendering
  /-- The end of a malformed closure. -/
  | closure
  /-- The opening brace of an import. -/
  | imports
  deriving DecidableEq

namespace Mark

/-- What an opening brace of an expression, an arrow and empty parameters look like, read backwards. -/
def openings : List (List Char) := [['\x7b', '='], ['>', '='], [')', '(', '\x7b', '=']]

/-- Whether a character completes a mark; `before` is the text before it, read backwards. A line feed counts as
the end of all that goes on after blanks. -/
def ends (mark : Mark) (before : List Char) (c : Char) : Bool :=
  match mark with
  | quote => c == '\''
  | roleQuery => c == '(' && "screen.getByRole".toList.reverse.isPrefixOf before
  | textQuery => c == '(' && "screen.getByText".toList.reverse.isPrefixOf before
  | classAssertion => c == '(' && "expect(element).toHaveClass".toList.reverse.isPrefixOf before
  | rendering => c == '(' && "render".toList.reverse.isPrefixOf before
  | closure =>
    (c == ',' || c == '\x7d' || c == '\n') &&
      openings.any fun p => p.isPrefixOf (before.dropWhile isBlank)
  | imports =>
    (c == '\x7b' || c == '\n') && "import".toList.reverse.isPrefixOf (before.dropWhile isBlank)

/-- Whether no character of a text completes a mark. -/
def free (mark : Mark) : (before : List Char) → List Char → Bool
  | _, [] => true
  | before, c :: cs => !mark.ends before c && free mark (c :: before) cs

variable {mark : Mark}

theorem free_append (before u v : List Char) :
    mark.free before (u ++ v) = (mark.free before u && mark.free (u.reverse ++ before) v) := by
  induction u generalizing before with
  | nil => rfl
  | cons c u ih => simp [free, ih, Bool.and_assoc]

/-- Characters that complete no mark. -/
def isSafe (c : Char) : Bool := !(['\'', '(', ',', '\x7b', '\x7d', '\n'].contains c)

theorem ends_safe {c : Char} (h : isSafe c = true) (before : List Char) : mark.ends before c = false := by
  simp only [isSafe, List.contains_cons, List.contains_nil, Bool.or_false, Bool.not_eq_true',
    Bool.or_eq_false_iff] at h
  cases mark <;> simp [ends, h]

theorem isSafe_of_isTame {c : Char} (h : isTame c = true) : isSafe c = true := by
  simp only [isSafe, List.contains_cons, List.contains_nil, Bool.or_false, Bool.not_eq_true',
    Bool.or_eq_false_iff, beq_eq_false_iff_ne]
  exact ⟨isTame_ne h (by decide), isTame_ne h (by decide), isTame_ne h (by decide),
    isTame_ne h (by decide), isTame_ne h (by decide), isTame_ne h (by decide)⟩

/-- After a word and blanks neither a comma nor a closing brace completes a mark. -/
theorem ends_after_word {c d : Char} {before rest : List Char} (hc : isNameChar c = true)
    (hbefore : before.dropWhile isBlank = c :: rest) (hd : d = ',' ∨ d = '\x7d') :
    mark.ends before d = false := by
  have hne : ∀ e, isNameChar e = false → (e == c) = false := fun e he =>
    beq_eq_false_iff_ne.2 fun h => by rw [h, hc] at he; cases he
  rcases hd with rfl | rfl <;> cases mark <;>
    simp [ends, openings, List.isPrefixOf, hbefore, hne '\x7b' (by decide), hne '>' (by decide), hne ')' (by decide)]

theorem free_at {before u v : List Char} {c : Char} (h : mark.free before (u ++ c :: v) = true) :
    mark.ends (u.reverse ++ before) c = false := by
  rw [free_append, free] at h
  simp only [Bool.and_eq_true, Bool.not_eq_true'] at h
  exact h.2.1

/-- Texts in which no character completes a mark, whatever stands before them. -/
def Safe (mark : Mark) (u : List Char) : Prop := ∀ before, mark.free before u = true

theorem Safe.append {u v : List Char} (hu : mark.Safe u) (hv : mark.Safe v) : mark.Safe (u ++ v) := by
  intro before
  rw [free_append, hu, hv]
  rfl

theorem Safe.of_chars {u : List Char} (h : u.all isSafe = true) : mark.Safe u := by
  intro before
  induction u generalizing before with
  | nil => rfl
  | cons c u ih =>
    obtain ⟨hc, hu⟩ : isSafe c = true ∧ u.all isSafe = true := by simpa using h
    rw [free, ends_safe hc, ih hu]
    rfl

theorem Safe.of_tame {u : List Char} (h : u.all isTame = true) : mark.Safe u :=
  .of_chars (List.all_eq_true.2 fun c hc => isSafe_of_isTame (List.all_eq_true.1 h c hc))

/-- A word with a comma or a closing brace after it, and perhaps a space between them. -/
theorem Safe.word {u space : List Char} {d : Char} (hu : u ≠ []) (h : u.all isNameChar = true)
    (hspace : space = [] ∨ space = [' ']) (hd : d = ',' ∨ d = '\x7d') : mark.Safe (u ++ (space ++ [d])) := by
  intro before
  have htame : u.all isTame = true :=
    List.all_eq_true.2 fun c hc => isTame_of_isNameChar (List.all_eq_true.1 h c hc)
  have hblank : space.all isBlank = true := by rcases hspace with rfl | rfl <;> rfl
  have hsafe : mark.Safe space := by rcases hspace with rfl | rfl <;> exact .of_chars (by decide)
  rw [free_append, Safe.of_tame htame, free_append, hsafe]
  cases hr : u.reverse with
  | nil => exact absurd (List.reverse_eq_nil_iff.1 hr) hu
  | cons c r =>
    have hc : isNameChar c = true := List.all_eq_true.1 h c (List.mem_reverse.1 (by simp [hr]))
    have hdrop : (space.reverse ++ (c :: (r ++ before))).dropWhile isBlank = c :: (r ++ before) := by
      rw [dropWhile_reverse_blanks hblank, List.dropWhile_cons, isBlank_of_isNameChar hc]
      rfl
    simp [free, ends_after_word hc hdrop hd]

/-- Lines without a mark. -/
def Absent (mark : Mark) (l : List Char) : Prop := mark.free [] (l ++ ['\n']) = true

instance (l : List Char) : Decidable (mark.Absent l) :=
  inferInstanceAs (Decidable (mark.free [] (l ++ ['\n']) = true))

theorem Safe.absent {l : List Char} (h : mark.Safe (l ++ ['\n'])) : mark.Absent l := h []

/-- A text that ends with a mark does not begin on a line without this mark. -/
theorem Absent.not_prefix {l w rest key : List Char} {c : Char} (h : mark.Absent l)
    (hkey : ∀ before, mark.ends (key.reverse ++ before) c = true) (hline : '\n' ∉ key ++ [c]) (hw : w <:+ l) :
    ¬ key ++ [c] <+: w ++ '\n' :: rest := by
  intro hp
  obtain ⟨v, rfl⟩ := prefix_of_stop hline hp
  obtain ⟨u, rfl⟩ := hw
  have hfree : mark.free [] ((u ++ key) ++ c :: (v ++ ['\n'])) = true := by
    rw [Absent] at h
    simpa using h
  have hends := free_at hfree
  rw [List.append_nil, List.reverse_append, hkey] at hends
  cases hends

/-- Where characters, the line feed among them, would complete an absent mark after blanks, something else comes
on the same line. -/
theorem Absent.next {l k u : List Char} (h : mark.Absent l) (stops : Char → Prop) (hline : stops '\n')
    (hw : k ++ u <:+ l) (rest : List Char)
    (hends : ∀ (before blanks : List Char) (d : Char), blanks.all isBlank = true → stops d →
      mark.ends (blanks.reverse ++ (k.reverse ++ before)) d = true) :
    ∃ blanks d u', u = blanks ++ d :: u' ∧ skipBlanks (u ++ '\n' :: rest) = d :: (u' ++ '\n' :: rest) ∧
      isBlank d = false ∧ ¬ stops d := by
  obtain ⟨v, rfl⟩ := hw
  have hnone : ∀ (blanks : List Char) (d : Char) (u' : List Char), blanks.all isBlank = true → u ++ ['\n'] = blanks ++ d :: u' → ¬ stops d := by
    intro blanks d u' hblanks hu hd
    have hsplit : v ++ (k ++ u) ++ ['\n'] = (v ++ (k ++ blanks)) ++ d :: u' := by simp [hu]
    have hfree := h
    rw [Absent, hsplit] at hfree
    have := free_at hfree
    rw [List.append_nil, List.reverse_append, List.reverse_append, List.append_assoc,
      hends v.reverse blanks d hblanks hd] at this
    cases this
  have hparts := List.takeWhile_append_dropWhile (p := isBlank) (l := u)
  have hblanks : (u.takeWhile isBlank).all isBlank = true := List.all_takeWhile
  cases hdrop : u.dropWhile isBlank with
  | nil =>
    rw [hdrop, List.append_nil] at hparts
    exact absurd hline (hnone u '\n' [] (hparts ▸ hblanks) rfl)
  | cons d u' =>
    rw [hdrop] at hparts
    have hd : isBlank d = false := by
      have := List.head_dropWhile_not isBlank (hdrop ▸ List.cons_ne_nil d u' : u.dropWhile isBlank ≠ [])
      simpa [hdrop] using this
    refine ⟨u.takeWhile isBlank, d, u', hparts.symm, ?_, hd, hnone _ d (u' ++ ['\n']) hblanks ?_⟩
    · have hu : u ++ '\n' :: rest = u.takeWhile isBlank ++ (d :: (u' ++ '\n' :: rest)) := by
        rw [← List.cons_append, ← List.append_assoc, hparts]
      rw [hu, skipBlanks, List.dropWhile_append_of_pos fun c hc => List.all_eq_true.1 hblanks c hc]
      simp [hd]
    · rw [← List.cons_append, ← List.append_assoc, hparts]

end Mark

end Suitewright
