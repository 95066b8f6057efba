/-
  How replacing goes through a text.

  * `after?_eq_some`, `occursIn_iff`, `run?_append`: what the parts of patterns match;
  * `eq_of_append_class`, `eq_of_append_first`: where a text ends before a character;
  * `replaceFrom_pass`, `replaceAll_pass`: where a pattern never matches, the text stays;
  * `replaceAll_match`: where it matches, its result stands;
  * `joinLines`, `lines_joinLines`: texts in which every line ends with a line feed.
-/
import Suitewright.Text.Line
import Suitewright.Text.Scan

namespace Suitewright.Text

/-! ## Parts of patterns -/

theorem after?_append (part rest : List Char) : after? part (part ++ rest) = some rest := by
  induction part with
  | nil => rfl
  | cons c cs ih => simpa [after?] using ih

theorem after?_eq_some {part cs rest : List Char} : after? part cs = some rest ↔ cs = part ++ rest := by
  constructor
  · intro h
    induction part generalizing cs with
    | nil => simpa [after?] using h
    | cons p ps ih =>
      cases cs with
      | nil => cases h
      | cons c cs =>
        rw [after?] at h
        split at h
        · next heq => rw [ih h, beq_iff_eq.1 heq, List.cons_append]
        · cases h
  · rintro rfl
    exact after?_append part rest

theorem after?_eq_none {part cs : List Char} : after? part cs = none ↔ ¬ part <+: cs := by
  constructor
  · rintro h ⟨rest, rfl⟩
    rw [after?_append] at h
    cases h
  · intro h
    cases hr : after? part cs with
    | none => rfl
    | some rest => exact absurd ⟨rest, (after?_eq_some.1 hr).symm⟩ h

theorem run?_append {p : Char → Bool} {u rest : List Char} (hne : u ≠ []) (hu : ∀ c ∈ u, p c = true)
    (hrest : rest.head?.all (fun c => !p c) = true) : run? p (u ++ rest) = some (u, rest) := by
  have htake : rest.takeWhile p = [] ∧ rest.dropWhile p = rest := by
    cases rest with
    | nil => exact ⟨rfl, rfl⟩
    | cons c rest =>
      have hc : ¬ p c = true := by simpa using hrest
      exact ⟨List.takeWhile_cons_of_neg hc, List.dropWhile_cons_of_neg hc⟩
  rw [run?, List.takeWhile_append_of_pos hu, List.dropWhile_append_of_pos hu, htake.1, htake.2, List.append_nil,
    List.isEmpty_eq_false_iff.2 hne, if_neg Bool.false_ne_true]

theorem run?_eq_some {p : Char → Bool} {cs u rest : List Char} (h : run? p cs = some (u, rest)) :
    cs = u ++ rest ∧ u ≠ [] ∧ (∀ c ∈ u, p c = true) ∧ rest.head?.all (fun c => !p c) = true := by
  rw [run?] at h
  split at h
  · cases h
  · next hempty =>
    obtain ⟨rfl, rfl⟩ : cs.takeWhile p = u ∧ cs.dropWhile p = rest := by simpa using h
    refine ⟨List.takeWhile_append_dropWhile.symm, by simpa using hempty, List.all_eq_true.1 List.all_takeWhile, ?_⟩
    have hhead := List.head?_dropWhile_not p cs
    cases hrest : (cs.dropWhile p).head? with
    | none => rfl
    | some c => simpa [hrest] using hhead

theorem occursIn_iff {part u : List Char} : occursIn part u = true ↔ part <:+: u := by
  induction u with
  | nil => rw [occursIn, List.isEmpty_iff, List.infix_nil]
  | cons c u ih => rw [occursIn, Bool.or_eq_true, List.isPrefixOf_iff_prefix, ih, List.infix_cons_iff]

/-- An optional text at the front is skipped or is not there. -/
theorem getD_after? {part cs rest : List Char} (h : (after? part cs).getD cs = rest) :
    ∃ o ∈ [[], part], cs = o ++ rest := by
  cases hafter : after? part cs with
  | none => exact ⟨[], by simp, by rw [← h, hafter]; rfl⟩
  | some r => exact ⟨part, by simp, by rw [← h, hafter, after?_eq_some.1 hafter]; rfl⟩

theorem getD_after?_append {part o rest : List Char} (ho : o ∈ [[], part]) (hrest : ¬ part <+: rest) :
    (after? part (o ++ rest)).getD (o ++ rest) = rest := by
  rcases List.mem_cons.1 ho with rfl | ho
  · rw [List.nil_append, after?_eq_none.2 hrest]
    rfl
  · rw [List.mem_singleton.1 ho, after?_append]
    rfl

/-- A fixed text that does not hold a character ends before this character. -/
theorem prefix_of_stop {part u rest : List Char} {stop : Char} (hpart : stop ∉ part)
    (h : part <+: u ++ stop :: rest) : part <+: u := by
  rcases Nat.lt_or_ge u.length part.length with hlt | hle
  · -- the character would stand in the fixed text
    have hu : u ++ [stop] <+: part :=
      List.prefix_of_prefix_length_le ⟨rest, by simp⟩ h (by simp; omega)
    exact absurd (hu.subset (by simp)) hpart
  · exact List.prefix_of_prefix_length_le h ⟨_, rfl⟩ hle

/-- Of two texts before a character, the second of which does not hold it, neither goes on longer than the other,
unless the first one holds the character after the second. -/
theorem eq_of_prefix_stop {u r x y : List Char} {stop : Char} (hr : stop ∉ r) (hu : ∀ v, u ≠ r ++ stop :: v)
    (h : u ++ stop :: x <+: r ++ stop :: y) : u = r ∧ x <+: y := by
  obtain ⟨t, ht⟩ := h
  rw [List.append_assoc, List.cons_append] at ht
  rcases List.append_eq_append_iff.1 ht with ⟨v, rfl, hv⟩ | ⟨v, rfl, hv⟩
  · cases v with
    | nil => exact ⟨by simp, ⟨t, by simpa using hv⟩⟩
    | cons c v =>
      obtain ⟨rfl, -⟩ : stop = c ∧ _ := by simpa using hv
      exact absurd (by simp) hr
  · cases v with
    | nil => exact ⟨by simp, ⟨t, by simpa using hv.symm⟩⟩
    | cons c v =>
      obtain ⟨rfl, -⟩ : stop = c ∧ _ := by simpa using hv
      exact absurd rfl (hu v)

/-- Two splits of a text at the first character of a kind are the same. -/
theorem eq_of_append_stop {p : Char → Bool} {u r x y : List Char} {c d : Char} (hu : ∀ e ∈ u, p e = false)
    (hr : ∀ e ∈ r, p e = false) (hc : p c = true) (hd : p d = true) (h : u ++ c :: x = r ++ d :: y) :
    u = r ∧ c = d ∧ x = y := by
  induction u generalizing r with
  | nil =>
    cases r with
    | nil => exact ⟨rfl, (List.cons.inj h).1, (List.cons.inj h).2⟩
    | cons e r =>
      have := hr e (by simp)
      rw [← (List.cons.inj h).1, hc] at this
      cases this
  | cons e u ih =>
    cases r with
    | nil =>
      have := hu e (by simp)
      rw [(List.cons.inj h).1, hd] at this
      cases this
    | cons f r =>
      obtain ⟨rfl, hcd⟩ := ih (r := r) (fun e he => hu e (by simp [he])) (fun e he => hr e (by simp [he]))
        (List.cons.inj h).2
      exact ⟨by rw [(List.cons.inj h).1], hcd⟩

/-- Before the first character that is not of a class stands what was before it. -/
theorem eq_of_append_class {p : Char → Bool} {u r x y : List Char} {c d : Char} (hu : u.all p = true)
    (hr : r.all p = true) (hc : p c = false) (hd : p d = false) (h : u ++ c :: x = r ++ d :: y) :
    u = r ∧ c = d ∧ x = y := by
  have hin : ∀ {v : List Char}, v.all p = true → ∀ e ∈ v, (!p e) = false := fun hv e he => by
    rw [List.all_eq_true.1 hv e he, Bool.not_true]
  exact eq_of_append_stop (hin hu) (hin hr) (by rw [hc, Bool.not_false]) (by rw [hd, Bool.not_false]) h

/-- Before the first of a certain character stands what was before it. -/
theorem eq_of_append_first {u r x y : List Char} {c : Char} (hu : c ∉ u) (hr : c ∉ r) (h : u ++ c :: x = r ++ c :: y) :
    u = r ∧ x = y := by
  have hother : ∀ {v : List Char}, c ∉ v → ∀ e ∈ v, (e == c) = false := fun hv e he =>
    beq_eq_false_iff_ne.2 fun heq => hv (heq ▸ he)
  obtain ⟨hur, -, hxy⟩ := eq_of_append_stop (hother hu) (hother hr) (beq_self_eq_true c) (beq_self_eq_true c) h
  exact ⟨hur, hxy⟩

/-- A part at the end of two texts lies in the second, or begins in the first. -/
theorem suffix_append_cases {u v w : List Char} (h : w <:+ u ++ v) :
    w <:+ v ∨ ∃ w', w' <:+ u ∧ w' ≠ [] ∧ w = w' ++ v := by
  obtain ⟨t, ht⟩ := h
  rcases List.append_eq_append_iff.1 ht with ⟨r, rfl, rfl⟩ | ⟨r, rfl, rfl⟩
  · cases r with
    | nil => exact Or.inl (by simp)
    | cons c r => exact Or.inr ⟨c :: r, ⟨t, rfl⟩, by simp, rfl⟩
  · exact Or.inl ⟨r, rfl⟩

/-- Seen backwards, the blanks before a character that is none. -/
theorem dropWhile_reverse_blanks {blanks ctx : List Char} (h : blanks.all isBlank = true) :
    (blanks.reverse ++ ctx).dropWhile isBlank = ctx.dropWhile isBlank := by
  rw [List.dropWhile_append_of_pos]
  intro c hc
  exact List.all_eq_true.1 h c (List.mem_reverse.1 hc)

/-! ## Replacing -/

section
variable {pattern : Option Char → List Char → Option (List Char × List Char)}

theorem replaceFrom_skip (u v : List Char) (before : Option Char) :
    replaceFrom pattern u.length before (u ++ v) = replaceFrom pattern 0 (u.getLast?.or before) v := by
  induction u generalizing before with
  | nil => rfl
  | cons c u ih =>
    rw [List.length_cons, List.cons_append, replaceFrom, ih]
    cases u <;> simp [List.getLast?_cons]

/-- A text stays as it is up to a place before which the pattern never matches. -/
theorem replaceFrom_pass {u v : List Char} {before : Option Char}
    (h : ∀ u₁ u₂, u = u₁ ++ u₂ → u₂ ≠ [] → pattern (u₁.getLast?.or before) (u₂ ++ v) = none) :
    replaceFrom pattern 0 before (u ++ v) = u ++ replaceFrom pattern 0 (u.getLast?.or before) v := by
  induction u generalizing before with
  | nil => rfl
  | cons c u ih =>
    have hnone : pattern before (c :: (u ++ v)) = none := h [] (c :: u) rfl (by simp)
    rw [List.cons_append, replaceFrom, hnone]
    dsimp only
    rw [ih]
    · cases u <;> simp [List.getLast?_cons]
    · rintro u₁ u₂ rfl hne
      have := h (c :: u₁) u₂ rfl hne
      cases u₁ <;> simpa [List.getLast?_cons] using this

/-- A line at whose beginning a pattern does not match stays as it is, when the pattern matches at the beginnings of
lines only. -/
theorem replaceFrom_lineStart {l rest : List Char} {before : Option Char}
    (hstart : ∀ c, c ≠ '\n' → ∀ cs, pattern (some c) cs = none) (hl : '\n' ∉ l)
    (h : pattern before (l ++ '\n' :: rest) = none) :
    replaceFrom pattern 0 before (l ++ '\n' :: rest) = l ++ '\n' :: replaceFrom pattern 0 (some '\n') rest := by
  have hsplit : l ++ '\n' :: rest = (l ++ ['\n']) ++ rest := by simp
  rw [hsplit, replaceFrom_pass]
  · simp
  · intro u₁ u₂ hu hne
    cases hlast : u₁.getLast? with
    | none =>
      obtain rfl := List.getLast?_eq_none_iff.1 hlast
      rw [List.nil_append] at hu
      rw [← hu, ← hsplit]
      exact h
    | some c =>
      obtain ⟨v, d, rfl⟩ : ∃ v d, u₂ = v ++ [d] := ⟨_, _, (List.dropLast_concat_getLast hne).symm⟩
      have hl' : l = u₁ ++ v := by
        rw [← List.append_assoc] at hu
        exact (List.append_inj' hu rfl).1
      have hc : c ∈ l := by
        rw [hl']
        exact List.mem_append_left _ (List.mem_of_getLast? hlast)
      exact hstart c (fun e => hl (e ▸ hc)) _

/-- A match is replaced by the result of the pattern. -/
theorem replaceFrom_match {u rest result : List Char} {before : Option Char}
    (h : pattern before (u ++ rest) = some (result, rest)) (hu : u ≠ []) :
    replaceFrom pattern 0 before (u ++ rest) = result ++ replaceFrom pattern 0 u.getLast? rest := by
  obtain ⟨c, u, rfl⟩ := List.exists_cons_of_ne_nil hu
  rw [List.cons_append] at h ⊢
  rw [replaceFrom, h]
  dsimp only
  have hlen : (u ++ rest).length - rest.length = u.length := by simp
  rw [hlen, replaceFrom_skip]
  cases u <;> simp [List.getLast?_cons]

end

section
variable {pattern : List Char → Option (List Char × List Char)}

theorem replaceFrom_before (skip : Nat) (before before' : Option Char) (cs : List Char) :
    replaceFrom (fun _ cs => pattern cs) skip before cs =
      replaceFrom (fun _ cs => pattern cs) skip before' cs := by
  cases cs with
  | nil => cases skip <;> rfl
  | cons c cs => cases skip <;> rfl

@[simp] theorem replaceAll_nil : replaceAll pattern [] = [] := rfl

theorem replaceAll_pass {u v : List Char} (h : ∀ w, w <:+ u → w ≠ [] → pattern (w ++ v) = none) :
    replaceAll pattern (u ++ v) = u ++ replaceAll pattern v := by
  rw [replaceAll, replaceFrom_pass, replaceAll, replaceFrom_before]
  rintro u₁ u₂ rfl hne
  exact h u₂ ⟨u₁, rfl⟩ hne

theorem replaceAll_match {u rest result : List Char} (h : pattern (u ++ rest) = some (result, rest))
    (hu : u ≠ []) : replaceAll pattern (u ++ rest) = result ++ replaceAll pattern rest := by
  rw [replaceAll, replaceFrom_match h hu, replaceAll, replaceFrom_before]

/-- A line on which the pattern never matches stays as it is. -/
theorem replaceAll_line {l rest : List Char} (h : ∀ w, w <:+ l → pattern (w ++ '\n' :: rest) = none) :
    replaceAll pattern (l ++ '\n' :: rest) = l ++ '\n' :: replaceAll pattern rest := by
  have hpass : ∀ w, w <:+ l ++ ['\n'] → w ≠ [] → pattern (w ++ rest) = none := by
    rintro w hw hne
    rcases List.suffix_concat_iff.1 hw with rfl | ⟨w', rfl, hw'⟩
    · exact absurd rfl hne
    · simpa using h w' hw'
  simpa using replaceAll_pass (v := rest) hpass

theorem replaceAll_cons {c : Char} {v : List Char} (h : pattern (c :: v) = none) :
    replaceAll pattern (c :: v) = c :: replaceAll pattern v := by
  rw [replaceAll, replaceFrom, h, replaceAll]
  dsimp only
  rw [replaceFrom_before]

end

/-! ## Lines -/

/-- The text of some lines, each with a line feed at its end. -/
def joinLines (ls : List (List Char)) : List Char := ls.flatMap fun l => l ++ ['\n']

@[simp] theorem joinLines_nil : joinLines [] = [] := rfl

@[simp] theorem joinLines_cons (l : List Char) (ls : List (List Char)) :
    joinLines (l :: ls) = l ++ '\n' :: joinLines ls := by
  simp [joinLines]

theorem joinLines_append (ls ls' : List (List Char)) :
    joinLines (ls ++ ls') = joinLines ls ++ joinLines ls' := by
  simp [joinLines]

/-- Texts that no character breaks into lines. -/
def IsLine (l : List Char) : Prop := ∀ c ∈ l, isLineBreak c = false

instance (l : List Char) : Decidable (IsLine l) := List.decidableBAll _ l

theorem IsLine.append {l l' : List Char} (h : IsLine l) (h' : IsLine l') : IsLine (l ++ l') := by
  intro c hc
  rcases List.mem_append.1 hc with hc | hc
  · exact h c hc
  · exact h' c hc

theorem linesKept_line {l : List Char} (h : IsLine l) (rest : List Char) :
    linesKept (l ++ '\n' :: rest) = (l ++ ['\n']) :: linesKept rest := by
  induction l with
  | nil => rfl
  | cons c l ih =>
    have hc : isLineBreak c = false := h c (by simp)
    have hr : c ≠ '\r' := by rintro rfl; cases hc
    rw [List.cons_append, linesKept.eq_3]
    · rw [hc, if_neg Bool.false_ne_true, ih fun d hd => h d (by simp [hd])]
      rfl
    · rintro cs rfl
      exact absurd rfl hr

theorem dropBreak_line {l : List Char} (h : IsLine l) : dropBreak (l ++ ['\n']) = l := by
  rw [dropBreak, List.takeWhile_append_of_pos fun c hc => by simp [h c hc]]
  simp [isLineBreak]

/-- What replacing does line by line, it does in the whole text. -/
theorem replaceAll_joinLines {α : Type} {pattern : List Char → Option (List Char × List Char)}
    {chars chars' : α → List Char} {ls : List α}
    (h : ∀ l ∈ ls, ∀ rest,
      replaceAll pattern (chars l ++ '\n' :: rest) = chars' l ++ '\n' :: replaceAll pattern rest) :
    replaceAll pattern (joinLines (ls.map chars)) = joinLines (ls.map chars') := by
  induction ls with
  | nil => rfl
  | cons l ls ih =>
    rw [List.map_cons, joinLines_cons, h l (by simp), ih fun l' hl' => h l' (by simp [hl']), List.map_cons,
      joinLines_cons]

/-- The lines of joined lines are these lines. -/
theorem lines_joinLines {ls : List (List Char)} (h : ∀ l ∈ ls, IsLine l) : lines (joinLines ls) = ls := by
  induction ls with
  | nil => rfl
  | cons l ls ih =>
    have hl := h l (by simp)
    rw [joinLines_cons, lines, linesKept_line hl, List.map_cons, dropBreak_line hl]
    rw [← lines, ih fun l' hl' => h l' (by simp [hl'])]

end Suitewright.Text
