/-
  How the end of an element is found, one character after another.

  * `turn`: the state after a character that does not close the element; `openTag?_cons_eq`: one step of the reading;
  * `openTag?_through`: a text without `>` and `/` is read through;
  * `openTag?_within`: a text closes the element or is read through, whatever follows it;
  * `exists_close`, `not_close_behind`: what follows the text that was read;
  * `exists_blanks`, `dropBlankEnd_front`: the blanks at the end of a text, and what is left without them.
-/
import Suitewright.Proofs.Repair.Places

namespace Suitewright

open Text

variable {depth : Int} {quote : Option Char} {c : Char} {u v w x cs : List Char}

/-! ## Single steps -/

/-- The state after a character that does not close the element. -/
def turn (depth : Int) (quote : Option Char) (c : Char) : Int × Option Char :=
  match quote with
  | some q => (depth, if c == q then none else some q)
  | none =>
    if Site.isQuote c then (depth, some c)
    else if c == '\x7b' then (depth + 1, none)
    else if c == '\x7d' then (depth - 1, none)
    else (depth, none)

/-- Whether a character closes the element: outside quotes and braces `>` does, and `/` before `>`. -/
def closes (depth : Int) (quote : Option Char) (c : Char) (next : Option Char) : Bool :=
  quote.isNone && (depth == 0 && (c == '>' || (c == '/' && next == some '>')))

theorem isPrefixOf_singleton (c : Char) (cs : List Char) : [c].isPrefixOf cs = (cs.head? == some c) := by
  cases cs with
  | nil => rfl
  | cons d cs =>
    rw [List.isPrefixOf_cons_cons, List.isPrefixOf_nil_left, Bool.and_true, List.head?_cons]
    exact Bool.eq_iff_iff.2 (by rw [beq_iff_eq, beq_iff_eq, Option.some.injEq, eq_comm])

theorem closes_cases {next : Option Char} (h : closes depth quote c next = true) :
    quote = none ∧ depth = 0 ∧ (c = '>' ∨ c = '/' ∧ next = some '>') := by
  simpa [closes] using h

/-- One step of the reading. -/
theorem openTag?_cons_eq : Site.openTag? depth quote (c :: cs) =
    if closes depth quote c cs.head? then some []
    else (Site.openTag? (turn depth quote c).1 (turn depth quote c).2 cs).map (c :: ·) := by
  cases quote with
  | some q => rfl
  | none =>
    have hplain : ∀ next, c ≠ '>' ∧ c ≠ '/' → closes depth none c next = false := fun next h => by
      simp [closes, h.1, h.2]
    rw [Site.openTag?, turn, isPrefixOf_singleton]
    by_cases hquote : Site.isQuote c = true
    · rw [if_pos hquote, if_pos hquote, hplain _ ⟨ne_of_class hquote rfl, ne_of_class hquote rfl⟩]
      rfl
    · rw [if_neg hquote, if_neg hquote]
      by_cases hopen : (c == '\x7b') = true
      · obtain rfl := beq_iff_eq.1 hopen
        rw [hplain _ (by decide)]
        rfl
      · rw [if_neg hopen, if_neg hopen]
        by_cases hclose : (c == '\x7d') = true
        · obtain rfl := beq_iff_eq.1 hclose
          rw [hplain _ (by decide)]
          rfl
        · rw [if_neg hclose, if_neg hclose]
          rfl

/-- An open quote is a quote. -/
theorem turn_quote (h : quote.all Site.isQuote = true) : (turn depth quote c).2.all Site.isQuote = true := by
  cases quote with
  | some q =>
    rw [turn]
    split
    · rfl
    · exact h
  | none =>
    rw [turn]
    split
    · next hquote => exact hquote
    · repeat' split
      all_goals rfl

/-- Characters that are neither quotes nor braces change nothing. -/
theorem turn_same (hc : Site.isQuote c = false) (hopen : c ≠ '\x7b') (hclose : c ≠ '\x7d') (h : quote.all Site.isQuote = true) :
    turn depth quote c = (depth, quote) := by
  cases quote with
  | some q =>
    have hne : (c == q) = false := beq_eq_false_iff_ne.2 fun e => by
      subst e
      cases hc.symm.trans h
    rw [turn, hne]
    rfl
  | none =>
    rw [turn, hc, beq_eq_false_iff_ne.2 hopen, beq_eq_false_iff_ne.2 hclose]
    rfl

/-! ## Texts -/

/-- The state after a text that does not close the element. -/
def turns (depth : Int) (quote : Option Char) (x : List Char) : Int × Option Char :=
  x.foldl (fun s c => turn s.1 s.2 c) (depth, quote)

/-- What may follow a text without closing the element together with its last character. -/
def MayFollow (x u : List Char) : Prop := x.getLast? = some '/' → u.head? ≠ some '>'

theorem closes_follows (h : MayFollow (c :: x) u) : closes depth quote c (x ++ u).head? = closes depth quote c x.head? := by
  cases x with
  | cons d x => rfl
  | nil =>
    rw [List.nil_append, List.head?_nil, closes, closes]
    by_cases hc : c = '/'
    · subst hc
      have hu : (u.head? == some '>') = false := beq_eq_false_iff_ne.2 (h rfl)
      rw [hu]
      rfl
    · rw [beq_eq_false_iff_ne.2 hc]
      rfl

theorem MayFollow.tail (h : MayFollow (c :: x) u) : MayFollow x u := by
  intro hx
  refine h ?_
  cases x with
  | nil => cases hx
  | cons d x => rwa [List.getLast?_cons_cons]

/-- A text closes the element or is read through, whatever follows it. -/
theorem openTag?_within (depth : Int) (quote : Option Char) (x : List Char) :
    (∃ e, e.length < x.length ∧ ∀ u, MayFollow x u → Site.openTag? depth quote (x ++ u) = some e) ∨
      ∀ u, MayFollow x u → Site.openTag? depth quote (x ++ u) =
        (Site.openTag? (turns depth quote x).1 (turns depth quote x).2 u).map (x ++ ·) := by
  induction x generalizing depth quote with
  | nil =>
    refine Or.inr fun u _ => ?_
    show Site.openTag? depth quote u = (Site.openTag? depth quote u).map _
    cases Site.openTag? depth quote u <;> rfl
  | cons c x ih =>
    by_cases hclose : closes depth quote c x.head? = true
    · refine Or.inl ⟨[], Nat.succ_pos _, fun u hu => ?_⟩
      rw [List.cons_append, openTag?_cons_eq, closes_follows hu, if_pos hclose]
    · have hstep : ∀ u, MayFollow (c :: x) u → Site.openTag? depth quote (c :: x ++ u) =
          (Site.openTag? (turn depth quote c).1 (turn depth quote c).2 (x ++ u)).map (c :: ·) := fun u hu => by
        rw [List.cons_append, openTag?_cons_eq, closes_follows hu, if_neg hclose]
      rcases ih (turn depth quote c).1 (turn depth quote c).2 with ⟨e, hlength, he⟩ | hpass
      · exact Or.inl ⟨c :: e, Nat.succ_lt_succ hlength, fun u hu => by rw [hstep u hu, he u hu.tail]; rfl⟩
      · refine Or.inr fun u hu => ?_
        rw [hstep u hu, hpass u hu.tail, Option.map_map]
        rfl

/-- A text without `>` and `/` is read through. -/
theorem openTag?_through (hx : ∀ c ∈ x, c ≠ '>' ∧ c ≠ '/') (v : List Char) : Site.openTag? depth quote (x ++ v) =
    (Site.openTag? (turns depth quote x).1 (turns depth quote x).2 v).map (x ++ ·) := by
  induction x generalizing depth quote with
  | nil =>
    show Site.openTag? depth quote v = (Site.openTag? depth quote v).map _
    cases Site.openTag? depth quote v <;> rfl
  | cons c x ih =>
    have hopen : ¬ closes depth quote c (x ++ v).head? = true := fun h => by
      obtain ⟨-, -, rfl | ⟨rfl, -⟩⟩ := closes_cases h
      · exact (hx '>' (by simp)).1 rfl
      · exact (hx '/' (by simp)).2 rfl
    rw [List.cons_append, openTag?_cons_eq, if_neg hopen, ih fun d hd => hx d (by simp [hd]), Option.map_map]
    rfl

/-- What follows the text that was read closes the element. -/
theorem exists_close {body : List Char} (h : Site.openTag? depth quote cs = some body) :
    ∃ rest, cs = body ++ '>' :: rest ∨ cs = body ++ '/' :: '>' :: rest := by
  induction cs generalizing depth quote body with
  | nil => cases h
  | cons c cs ih =>
    rw [openTag?_cons_eq] at h
    split at h
    · next hclose =>
      obtain rfl := Option.some.inj h
      obtain ⟨-, -, rfl | ⟨rfl, hnext⟩⟩ := closes_cases hclose
      · exact ⟨cs, Or.inl rfl⟩
      · obtain ⟨rest, rfl⟩ := List.head?_eq_some_iff.1 hnext
        exact ⟨rest, Or.inr rfl⟩
    · obtain ⟨body', hbody, rfl⟩ := Option.map_eq_some_iff.1 h
      obtain ⟨rest, rfl | rfl⟩ := ih hbody
      · exact ⟨rest, Or.inl rfl⟩
      · exact ⟨rest, Or.inr rfl⟩

/-- What closes the element at once does so outside quotes and braces. -/
theorem openTag?_nil (h : Site.openTag? depth quote cs = some []) : (depth, quote) = (0, none) := by
  cases cs with
  | nil => cases h
  | cons c cs =>
    rw [openTag?_cons_eq] at h
    split at h
    · next hclose =>
      obtain ⟨rfl, rfl, -⟩ := closes_cases hclose
      rfl
    · obtain ⟨body, -, h⟩ := Option.map_eq_some_iff.1 h
      cases h

/-- Behind a text that was read and ends with `/` stands no `>`. -/
theorem not_close_behind (hquote : quote.all Site.isQuote = true)
    (h : Site.openTag? depth quote (u ++ '/' :: v) = some (u ++ ['/'])) : v.head? ≠ some '>' := by
  induction u generalizing depth quote with
  | nil =>
    intro hv
    rw [List.nil_append, openTag?_cons_eq] at h
    split at h
    · cases h
    · next hopen =>
      obtain ⟨body, hbody, heq⟩ := Option.map_eq_some_iff.1 h
      obtain rfl : body = [] := (List.cons.inj heq).2
      rw [turn_same (by decide) (by decide) (by decide) hquote] at hbody
      obtain ⟨rfl, rfl⟩ := Prod.mk.inj (openTag?_nil hbody)
      exact hopen (by rw [hv]; rfl)
  | cons c u ih =>
    rw [List.cons_append, List.cons_append, openTag?_cons_eq] at h
    split at h
    · cases h
    · obtain ⟨body, hbody, heq⟩ := Option.map_eq_some_iff.1 h
      obtain rfl := (List.cons.inj heq).2
      exact ih (turn_quote hquote) hbody

/-! ## Blanks -/

theorem not_quote_of_isBlank (h : isBlank c = true) : Site.isQuote c = false := by
  cases hquote : Site.isQuote c with
  | false => rfl
  | true =>
    simp only [Site.isQuote, Bool.or_eq_true, beq_iff_eq] at hquote
    rcases hquote with (rfl | rfl) | hgrave
    · cases h
    · cases h
    · rw [show c = Char.ofNat 96 by rw [← hgrave, Char.ofNat_toNat]] at h
      cases h

theorem turns_blanks (hx : x.all isBlank = true) (h : quote.all Site.isQuote = true) : turns depth quote x = (depth, quote) := by
  induction x with
  | nil => rfl
  | cons c x ih =>
    obtain ⟨hc, hx⟩ := Bool.and_eq_true_iff.1 (List.all_cons.symm.trans hx)
    have hturn : turn depth quote c = (depth, quote) :=
      turn_same (not_quote_of_isBlank hc) (ne_of_class hc rfl) (ne_of_class hc rfl) h
    rw [turns, List.foldl_cons, hturn]
    exact ih hx

theorem turns_quote (h : quote.all Site.isQuote = true) : (turns depth quote x).2.all Site.isQuote = true := by
  induction x generalizing depth quote with
  | nil => exact h
  | cons c x ih => exact ih (turn_quote h)

/-- A text is what is left without the blanks at its end, and these blanks. -/
theorem exists_blanks (u : List Char) : ∃ blanks, blanks.all isBlank = true ∧ u = Site.dropBlankEnd u ++ blanks := by
  refine ⟨(u.reverse.takeWhile isBlank).reverse, ?_, ?_⟩
  · rw [List.all_reverse]
    exact List.all_takeWhile
  · rw [Site.dropBlankEnd, ← List.reverse_append, List.takeWhile_append_dropWhile, List.reverse_reverse]

theorem dropBlankEnd_append_blanks {blanks : List Char} (h : blanks.all isBlank = true) (u : List Char) :
    Site.dropBlankEnd (u ++ blanks) = Site.dropBlankEnd u := by
  rw [Site.dropBlankEnd, List.reverse_append, dropWhile_reverse_blanks h, Site.dropBlankEnd]

/-- Only what stands behind a character that is no blank is dropped. -/
theorem dropBlankEnd_behind (u : List Char) (hc : isBlank c = false) (v : List Char) :
    Site.dropBlankEnd (u ++ c :: v) = u ++ c :: Site.dropBlankEnd v := by
  have hreverse : (u ++ c :: v).reverse = v.reverse ++ c :: u.reverse := by simp
  have hfront : (c :: u.reverse).dropWhile isBlank = c :: u.reverse := List.dropWhile_cons_of_neg (by simp [hc])
  rw [Site.dropBlankEnd, hreverse, List.dropWhile_append, hfront, Site.dropBlankEnd]
  split
  · next hempty =>
    rw [List.isEmpty_iff.1 hempty]
    simp
  · simp

/-- The text that was read, without the blanks at its end, begins as the whole text does, if it is not empty. -/
theorem dropBlankEnd_front {p : Char → Bool} {body : List Char} (h : Site.openTag? depth quote cs = some body)
    (hfront : cs.head?.any p = false) : (Site.dropBlankEnd body).head?.any p = false := by
  obtain ⟨blanks, -, hbody⟩ := exists_blanks body
  obtain ⟨v, rfl⟩ : ∃ v, cs = body ++ v := by
    obtain ⟨rest, hrest | hrest⟩ := exists_close h
    · exact ⟨_, hrest⟩
    · exact ⟨_, hrest⟩
  rw [hbody, List.append_assoc] at hfront
  cases hdropped : Site.dropBlankEnd body with
  | nil => rfl
  | cons d rest =>
    rw [hdropped] at hfront
    exact hfront

end Suitewright
