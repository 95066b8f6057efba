/-
  Lines with their breaks.

  * `IsWhole`: one line that ends with a break;
  * `flatten_linesKept`: the lines of a text make up the text;
  * `isWhole_of_mem`: a text that ends with a line feed has whole lines;
  * `linesKept_flatten`: whole lines put together fall into the same lines, when none begins with a line feed.
-/
import Suitewright.Proofs.Text.Replacing

namespace Suitewright.Text

variable {c : Char} {cs l rest : List Char}

theorem ne_return_of_not_break (hc : isLineBreak c = false) : c ≠ '\r' := by
  rintro rfl
  cases hc

theorem linesKept_cons (hc : isLineBreak c = false) (cs : List Char) : linesKept (c :: cs) = consLine c (linesKept cs) := by
  rw [linesKept.eq_3 _ _ fun _ h => absurd h (ne_return_of_not_break hc), hc]
  rfl

theorem flatten_consLine (c : Char) (ls : List (List Char)) : (consLine c ls).flatten = c :: ls.flatten := by
  cases ls <;> rfl

theorem flatten_linesKept (cs : List Char) : (linesKept cs).flatten = cs := by
  induction cs using linesKept.induct with
  | case1 => rfl
  | case2 cs ih => rw [linesKept, List.flatten_cons, ih]; rfl
  | case3 c cs hne hc ih => rw [linesKept.eq_3 _ _ hne, if_pos hc, List.flatten_cons, ih]; rfl
  | case4 c cs hne hc ih => rw [linesKept.eq_3 _ _ hne, if_neg hc, flatten_consLine, ih]

/-- One line that ends with a break. -/
def IsWhole (l : List Char) : Prop := linesKept l = [l] ∧ l.getLast?.any isLineBreak = true

theorem IsWhole.ne_nil (h : IsWhole l) : l ≠ [] := by
  rintro rfl
  cases h.1

theorem IsWhole.cons (hc : isLineBreak c = false) (h : IsWhole l) : IsWhole (c :: l) := by
  refine ⟨?_, ?_⟩
  · rw [linesKept_cons hc, h.1]
    rfl
  · obtain ⟨d, l, rfl⟩ := List.exists_cons_of_ne_nil h.ne_nil
    rw [List.getLast?_cons_cons]
    exact h.2

theorem IsLine.isWhole (h : IsLine l) : IsWhole (l ++ ['\n']) := by
  refine ⟨linesKept_line h [], ?_⟩
  rw [List.getLast?_concat]
  rfl

theorem isWhole_break (hc : isLineBreak c = true) : IsWhole [c] := by
  refine ⟨?_, hc⟩
  rw [linesKept.eq_3 _ _ (by rintro cs - ⟨⟩), if_pos hc]
  rfl

/-- A text that ends with a break, or holds nothing at all. -/
def EndsWithBreak (cs : List Char) : Prop := cs.getLast?.all isLineBreak = true

theorem EndsWithBreak.tail (h : EndsWithBreak (c :: cs)) : EndsWithBreak cs := by
  cases cs with
  | nil => rfl
  | cons d cs =>
    rw [EndsWithBreak, List.getLast?_cons_cons] at h
    exact h

theorem isWhole_of_mem (hcs : EndsWithBreak cs) : ∀ l ∈ linesKept cs, IsWhole l := by
  induction cs using linesKept.induct with
  | case1 => exact fun _ h => (List.not_mem_nil h).elim
  | case2 cs ih =>
    rw [linesKept, List.forall_mem_cons]
    exact ⟨⟨rfl, rfl⟩, ih hcs.tail.tail⟩
  | case3 c cs hne hc ih =>
    rw [linesKept.eq_3 _ _ hne, if_pos hc, List.forall_mem_cons]
    exact ⟨isWhole_break hc, ih hcs.tail⟩
  | case4 c cs hne hc ih =>
    rw [linesKept.eq_3 _ _ hne, if_neg hc]
    have hlines := flatten_linesKept cs
    cases hls : linesKept cs with
    | nil =>
      -- the text would end with a character that is no break
      rw [hls] at hlines
      rw [← hlines] at hcs
      exact absurd hcs hc
    | cons l ls =>
      rw [hls] at ih
      obtain ⟨hl, hrest⟩ := List.forall_mem_cons.1 (ih hcs.tail)
      exact List.forall_mem_cons.2 ⟨hl.cons (Bool.eq_false_iff.2 hc), hrest⟩

theorem IsWhole.linesKept_append (h : IsWhole l) (hrest : rest.head? ≠ some '\n') :
    linesKept (l ++ rest) = l :: linesKept rest := by
  obtain ⟨hone, hlast⟩ := h
  induction l using linesKept.induct with
  | case1 => cases hone
  | case2 cs ih =>
    rw [linesKept] at hone
    have hcs := flatten_linesKept cs
    rw [(List.cons.inj hone).2] at hcs
    obtain rfl : [] = cs := hcs
    rfl
  | case3 c cs hne hc ih =>
    rw [linesKept.eq_3 _ _ hne, if_pos hc] at hone
    obtain rfl : [] = cs := (List.cons.inj (List.cons.inj hone).1).2
    rw [List.cons_append, List.nil_append, linesKept.eq_3, if_pos hc]
    rintro rest rfl rfl
    exact hrest rfl
  | case4 c cs hne hc ih =>
    rw [linesKept.eq_3 _ _ hne, if_neg hc] at hone
    cases hls : linesKept cs with
    | nil =>
      rw [hls] at hone
      obtain rfl : [] = cs := (List.cons.inj (List.cons.inj hone).1).2
      exact absurd hlast hc
    | cons l ls =>
      rw [hls] at hone
      obtain ⟨hcl, rfl⟩ := List.cons.inj hone
      obtain ⟨-, rfl⟩ := List.cons.inj hcl
      obtain ⟨d, l, rfl⟩ : ∃ d l', l = d :: l' := List.exists_cons_of_ne_nil (by rintro rfl; cases hls)
      rw [List.getLast?_cons_cons] at hlast
      rw [List.cons_append, linesKept_cons (Bool.eq_false_iff.2 hc), ih hls hlast]
      rfl

/-- Whole lines that are put together fall into the same lines again, when none begins with a line feed. -/
theorem linesKept_flatten {ls : List (List Char)} (h : ∀ l ∈ ls, IsWhole l ∧ l.head? ≠ some '\n') :
    linesKept ls.flatten = ls := by
  induction ls with
  | nil => rfl
  | cons l ls ih =>
    obtain ⟨⟨hl, -⟩, hls⟩ := List.forall_mem_cons.1 h
    rw [List.flatten_cons, hl.linesKept_append, ih hls]
    cases ls with
    | nil => simp
    | cons l' ls =>
      obtain ⟨hl', hhead⟩ := hls l' (by simp)
      obtain ⟨d, l', rfl⟩ := List.exists_cons_of_ne_nil hl'.ne_nil
      exact hhead

end Suitewright.Text
