/-
  Where the patterns of repair match on a line.

  * `Needs`: a pattern that begins with a fixed text; `replaceAll_absent`: it leaves lines without its mark alone;
  * `after_opening`: what follows the opening of an expression on a line without malformed closures;
  * `ActsOn`: patterns that change a suite line by line; `ActsOn.textOf`: what they make of the whole suite;
  * `stripDoubleQuotes_textOf`, `normalizeClosures_textOf`: two rules that change no line of a suite.
-/
import Suitewright.Proofs.Repair.Draft

namespace Suitewright

open Text

/-! ## Patterns -/

section
variable {pattern : List Char → Option (List Char × List Char)} {mark : Mark} {key l rest : List Char} {c : Char}

/-- A pattern that matches only where a fixed text stands. -/
def Needs (pattern : List Char → Option (List Char × List Char)) (key : List Char) : Prop :=
  ∀ cs found, pattern cs = some found → key <+: cs

theorem Needs.none {cs : List Char} (h : Needs pattern key) (hcs : ¬ key <+: cs) : pattern cs = none := by
  cases hp : pattern cs with
  | none => rfl
  | some found => exact absurd (h cs found hp) hcs

theorem Needs.trans {key' : List Char} (h : Needs pattern key) (hk : key' <+: key) : Needs pattern key' :=
  fun cs found hp => hk.trans (h cs found hp)

theorem fixed?_needs (text replacement : List Char) : Needs (fixed? text replacement) text := by
  intro cs found h
  obtain ⟨rest, hr, -⟩ := Option.map_eq_some_iff.1 h
  exact ⟨rest, (after?_eq_some.1 hr).symm⟩

theorem upTo?_append {stop : Char} {part rest : List Char} (hne : part ≠ []) (hpart : stop ∉ part) :
    upTo? stop (part ++ stop :: rest) = some (part, rest) := by
  have hall : ∀ c ∈ part, (c != stop) = true := fun c hc => bne_iff_ne.2 fun h => hpart (h ▸ hc)
  have htake : (part ++ stop :: rest).takeWhile (· != stop) = part := by
    rw [List.takeWhile_append_of_pos hall]
    simp
  have hdrop : (part ++ stop :: rest).dropWhile (· != stop) = stop :: rest := by
    rw [List.dropWhile_append_of_pos hall]
    simp
  have hempty : part.isEmpty = false := by simpa using hne
  simp [upTo?, run?, htake, hdrop, hempty, after?]

theorem upTo?_eq_some {stop : Char} {cs part rest : List Char} (h : upTo? stop cs = some (part, rest)) :
    cs = part ++ stop :: rest ∧ part ≠ [] ∧ stop ∉ part := by
  simp only [upTo?, Option.bind_eq_bind, Option.bind_eq_some_iff] at h
  obtain ⟨⟨p, r⟩, hrun, rest', hafter, heq⟩ := h
  obtain ⟨rfl, rfl⟩ : p = part ∧ rest' = rest := by simpa using heq
  obtain ⟨rfl, hne, hall, -⟩ := run?_eq_some hrun
  obtain rfl : r = stop :: rest' := after?_eq_some.1 hafter
  exact ⟨rfl, hne, fun hmem => bne_iff_ne.1 (hall stop hmem) rfl⟩

/-- A mark that a fixed text ends with. -/
def Mark.Ends (mark : Mark) (key : List Char) (c : Char) : Prop :=
  (∀ before, mark.ends (key.reverse ++ before) c = true) ∧ '\n' ∉ key ++ [c]

/-- A pattern leaves a line alone that does not hold its mark. -/
theorem replaceAll_absent (hp : Needs pattern (key ++ [c])) (hkey : mark.Ends key c) (h : mark.Absent l)
    (rest : List Char) : replaceAll pattern (l ++ '\n' :: rest) = l ++ '\n' :: replaceAll pattern rest :=
  replaceAll_line fun _ hw => hp.none (h.not_prefix hkey.1 hkey.2 hw)

/-- Replacing the matches of a pattern changes each line in a certain way. -/
def ActsOn (pattern : List Char → Option (List Char × List Char)) (component : List Char) (f : Line → Line) :
    Prop :=
  ∀ l : Line, l.Formed component → ∀ rest, replaceAll pattern (l.chars component ++ '\n' :: rest) =
    (f l).chars component ++ '\n' :: replaceAll pattern rest

/-- What is changed line by line is changed in the whole suite. -/
theorem ActsOn.textOf {component : List Char} {f : Line → Line} (h : ActsOn pattern component f)
    {d : List Line} (hd : ∀ l ∈ d, l.Formed component) :
    replaceAll pattern (Line.textOf component d) = Line.textOf component (d.map f) := by
  rw [Line.textOf, Line.textOf, List.map_map]
  exact replaceAll_joinLines fun l hl rest => h l (hd l hl) rest

end

/-! ## Quotes and closures -/

theorem doubleQuoted?_needs : Needs doubleQuoted? ("=\"".toList ++ ['\'']) := by
  intro cs found h
  simp only [doubleQuoted?, Option.bind_eq_bind, Option.bind_eq_some_iff] at h
  obtain ⟨rest, hr, -⟩ := h
  exact ⟨rest, (after?_eq_some.1 hr).symm⟩

theorem quote_ends : Mark.Ends .quote "=\"".toList '\'' := ⟨fun _ => rfl, by decide⟩

/-- What an attribute with an expression begins with. -/
theorem bracedAttribute?_eq_some {cs name rest : List Char} (h : bracedAttribute? cs = some (name, rest)) :
    cs = name ++ ('=' :: '\x7b' :: rest) ∧ name.all isNameChar = true := by
  simp only [bracedAttribute?, Option.bind_eq_bind, Option.bind_eq_some_iff] at h
  obtain ⟨⟨n, r⟩, hrun, rest', hafter, heq⟩ := h
  obtain ⟨rfl, rfl⟩ : n = name ∧ rest' = rest := by simpa using heq
  rw [run?] at hrun
  split at hrun
  · cases hrun
  · obtain ⟨rfl, rfl⟩ : cs.takeWhile isNameChar = n ∧ cs.dropWhile isNameChar = r := by simpa using hrun
    have hr : cs.dropWhile isNameChar = '=' :: '\x7b' :: rest' := after?_eq_some.1 hafter
    refine ⟨?_, List.all_takeWhile⟩
    rw [← hr]
    exact List.takeWhile_append_dropWhile.symm

/-- After the opening of an expression, its parameters or its arrow something else comes on the same line than a
comma or a closing brace. -/
theorem after_opening {l k u : List Char} (h : Mark.closure.Absent l) (hw : k ++ u <:+ l)
    (hk : (Mark.openings.any fun p => p.isPrefixOf k.reverse) = true) (rest : List Char) :
    ∃ blanks d u', u = blanks ++ d :: u' ∧ skipBlanks (u ++ '\n' :: rest) = d :: (u' ++ '\n' :: rest) ∧
      isBlank d = false ∧ d ≠ ',' ∧ d ≠ '\x7d' := by
  obtain ⟨blanks, d, u', hu, hskip, hd, hne⟩ := h.next (· ∈ [',', '\x7d', '\n']) (by simp) hw rest
    fun v blanks d hblanks hd => by
      obtain ⟨p, hp, hpk⟩ := List.any_eq_true.1 hk
      obtain ⟨t, ht⟩ := List.isPrefixOf_iff_prefix.1 hpk
      have hdrop : (k.reverse ++ v).dropWhile isBlank = k.reverse ++ v := by
        rw [← ht]
        simp only [Mark.openings, List.mem_cons, List.not_mem_nil, or_false] at hp
        rcases hp with rfl | rfl | rfl <;> rfl
      have hany : (Mark.openings.any fun p => p.isPrefixOf (k.reverse ++ v)) = true :=
        List.any_eq_true.2 ⟨p, hp, List.isPrefixOf_iff_prefix.2 ⟨t ++ v, by rw [← ht, List.append_assoc]⟩⟩
      rw [Mark.ends, dropWhile_reverse_blanks hblanks, hdrop, hany]
      simp only [List.mem_cons, List.not_mem_nil, or_false] at hd
      rcases hd with rfl | rfl | rfl <;> rfl
  simp only [List.mem_cons, List.not_mem_nil, or_false, not_or] at hne
  exact ⟨blanks, d, u', hu, hskip, hd, hne.1, hne.2.1⟩

/-- An attribute with an expression that begins on a line has its opening brace there. -/
theorem bracedAttribute?_line {w rest name r : List Char}
    (h : bracedAttribute? (w ++ '\n' :: rest) = some (name, r)) :
    ∃ u, w = name ++ ['=', '\x7b'] ++ u ∧ r = u ++ '\n' :: rest := by
  obtain ⟨hcs, hname⟩ := bracedAttribute?_eq_some h
  have hline : '\n' ∉ name ++ ['=', '\x7b'] := by
    intro hmem
    rcases List.mem_append.1 hmem with hmem | hmem
    · exact not_mem_of_class hname (by decide) hmem
    · exact absurd hmem (by decide)
  obtain ⟨u, rfl⟩ := prefix_of_stop hline (⟨r, by rw [hcs]; simp⟩ : name ++ ['=', '\x7b'] <+: w ++ '\n' :: rest)
  refine ⟨u, rfl, ?_⟩
  simpa using hcs.symm

theorem leadingComma?_absent {l w : List Char} (h : Mark.closure.Absent l) (hw : w <:+ l) (rest : List Char) :
    leadingComma? (w ++ '\n' :: rest) = none := by
  cases hp : leadingComma? (w ++ '\n' :: rest) with
  | none => rfl
  | some found =>
    simp only [leadingComma?, Option.bind_eq_bind, Option.bind_eq_some_iff] at hp
    obtain ⟨⟨name, r⟩, hopen, r₁, hcomma, -⟩ := hp
    obtain ⟨u, rfl, rfl⟩ := bracedAttribute?_line hopen
    obtain ⟨blanks, d, u', -, hskip, -, hd, -⟩ := after_opening h hw (by simp [Mark.openings]) rest
    rw [hskip] at hcomma
    have := after?_eq_some.1 hcomma
    exact absurd (List.cons.inj this).1 hd

theorem danglingClosure?_absent {l w : List Char} (h : Mark.closure.Absent l) (hw : w <:+ l) (rest : List Char) :
    danglingClosure? (w ++ '\n' :: rest) = none := by
  cases hp : danglingClosure? (w ++ '\n' :: rest) with
  | none => rfl
  | some found =>
    simp only [danglingClosure?, Option.bind_eq_bind, Option.bind_eq_some_iff] at hp
    obtain ⟨⟨name, r⟩, hopen, r₁, hparams, r₂, harrow, r₃, hbrace, -⟩ := hp
    obtain ⟨u, rfl, rfl⟩ := bracedAttribute?_line hopen
    -- the parameters stand on the line
    have hr₁ := after?_eq_some.1 hparams
    have hline : '\n' ∉ ['(', ')'] ∧ '\n' ∉ ['=', '>'] := by decide
    obtain ⟨u₁, rfl⟩ := prefix_of_stop hline.1 ⟨r₁, hr₁.symm⟩
    obtain rfl : u₁ ++ '\n' :: rest = r₁ := by simpa using hr₁
    obtain ⟨blanks, d, u', rfl, hskip, -⟩ :=
      after_opening (k := name ++ ['=', '\x7b'] ++ ['(', ')']) (u := u₁) h (by simpa using hw)
        (by simp [Mark.openings]) rest
    rw [hskip] at harrow
    -- and so does the arrow
    have hr₂ := after?_eq_some.1 harrow
    obtain ⟨u₂, hu₂⟩ : ['=', '>'] <+: d :: u' := prefix_of_stop hline.2 ⟨r₂, hr₂.symm⟩
    obtain rfl : u₂ ++ '\n' :: rest = r₂ := by
      rw [← List.cons_append, ← hu₂] at hr₂
      simpa using hr₂
    obtain ⟨_, d₂, u'', -, hskip₂, hd₂, hcomma, hclose⟩ :=
      after_opening (k := name ++ ['=', '\x7b'] ++ ['(', ')'] ++ blanks ++ ['=', '>']) (u := u₂) h
        (by rw [← hu₂] at hw; simpa using hw) (by simp [Mark.openings]) rest
    -- so that neither the comma nor the brace comes next
    have hno : after? [','] (d₂ :: (u'' ++ '\n' :: rest)) = none := by simp [after?, hcomma.symm]
    rw [hskip₂, hno, Option.getD_none, skipBlanks, List.dropWhile_cons, hd₂] at hbrace
    exact absurd (List.cons.inj (after?_eq_some.1 hbrace)).1 hclose

section
variable {component : List Char} {d : List Line}

theorem stripDoubleQuotes_textOf (hc : IsWord component) (hd : ∀ l ∈ d, l.Formed component) :
    stripDoubleQuotes (Line.textOf component d) = Line.textOf component d := by
  have hact : ActsOn doubleQuoted? component id := fun l hl rest =>
    replaceAll_absent doubleQuoted?_needs quote_ends (Line.absent hc hl fun hm => (l.marks_ne _ hm).1 rfl) rest
  rw [stripDoubleQuotes, hact.textOf hd, List.map_id]

theorem normalizeClosures_textOf (hc : IsWord component) (hd : ∀ l ∈ d, l.Formed component) :
    normalizeClosures (Line.textOf component d) = Line.textOf component d := by
  have hleading : ActsOn leadingComma? component id := fun l hl rest =>
    replaceAll_line fun w hw => leadingComma?_absent (Line.absent hc hl fun hm => (l.marks_ne _ hm).2 rfl) hw rest
  have hdangling : ActsOn danglingClosure? component id := fun l hl rest =>
    replaceAll_line fun w hw => danglingClosure?_absent (Line.absent hc hl fun hm => (l.marks_ne _ hm).2 rfl) hw rest
  rw [normalizeClosures, hleading.textOf hd, List.map_id, hdangling.textOf hd, List.map_id]

end

end Suitewright
