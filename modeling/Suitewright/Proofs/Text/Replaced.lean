/-
  What replacing makes of a text.

  * `Replaced`: the texts that replacing goes from and to, as a relation; `replaced_replaceFrom`;
  * `Replaced.split`: a part of the result is a part of the text, or a replacement begins in it;
  * `Replaced.again`: when replacing once more changes nothing;
  * `Apart`, `Replaced.free`: which texts no longer occur after replacing;
  * `EndsOnLine`: patterns whose matches end with a character that breaks no line; `EndsOnLine.replaceFrom`: replacing
    them keeps a line feed at the end.
-/
import Suitewright.Proofs.Text.Replacing

namespace Suitewright.Text

variable {pattern : Option Char → List Char → Option (List Char × List Char)}

/-- Patterns that match no empty part. -/
def Consumes (pattern : Option Char → List Char → Option (List Char × List Char)) : Prop :=
  ∀ before cs a rest, pattern before cs = some (a, rest) → ∃ w, w ≠ [] ∧ cs = w ++ rest

/-- A text and the text with every match of a pattern replaced, from left to right. -/
inductive Replaced (pattern : Option Char → List Char → Option (List Char × List Char)) :
    Option Char → List Char → List Char → Prop
  /-- Nothing is left. -/
  | nil {before : Option Char} : Replaced pattern before [] []
  /-- A character at which no match begins. -/
  | keep {before : Option Char} {c : Char} {cs out : List Char} : pattern before (c :: cs) = none →
      Replaced pattern (some c) cs out → Replaced pattern before (c :: cs) (c :: out)
  /-- A match. -/
  | swap {before : Option Char} {w rest a out : List Char} : w ≠ [] → pattern before (w ++ rest) = some (a, rest) →
      Replaced pattern w.getLast? rest out → Replaced pattern before (w ++ rest) (a ++ out)

theorem replaced_replaceFrom (hp : Consumes pattern) (before : Option Char) (cs : List Char) :
    Replaced pattern before cs (replaceFrom pattern 0 before cs) := by
  induction hn : cs.length using Nat.strongRecOn generalizing cs before with
  | ind n ih =>
    subst hn
    cases cs with
    | nil => exact .nil
    | cons c cs =>
      cases hmatch : pattern before (c :: cs) with
      | none =>
        rw [replaceFrom, hmatch]
        exact .keep hmatch (ih _ (Nat.lt_succ_self _) _ _ rfl)
      | some found =>
        obtain ⟨a, rest⟩ := found
        obtain ⟨w, hw, hsplit⟩ := hp _ _ _ _ hmatch
        rw [hsplit] at hmatch ih ⊢
        rw [replaceFrom_match hmatch hw]
        refine .swap hw hmatch (ih _ ?_ _ _ rfl)
        rw [List.length_append]
        exact Nat.lt_add_of_pos_left (List.length_pos_iff.2 hw)

theorem getLast?_or_cons (before : Option Char) (c : Char) (u : List Char) :
    u.getLast?.or (some c) = (c :: u).getLast?.or before := by
  cases u <;> simp [List.getLast?_cons]

/-- What comes before a text matters as far as the pattern looks at it. -/
theorem replaceFrom_congr {before before' : Option Char} (hp : pattern before = pattern before') (cs : List Char) :
    replaceFrom pattern 0 before cs = replaceFrom pattern 0 before' cs := by
  cases cs with
  | nil => rfl
  | cons c cs => rw [replaceFrom, replaceFrom, hp]

namespace Replaced

variable {before : Option Char} {cs u v : List Char}

/-- The front of the result is the front of the text, or the first replacement begins in it. -/
theorem split (h : Replaced pattern before cs (u ++ v)) :
    (∃ cs', cs = u ++ cs' ∧ Replaced pattern (u.getLast?.or before) cs' v) ∨
      ∃ u₁ u₂ w rest a out, u = u₁ ++ u₂ ∧ u₂ ≠ [] ∧ cs = u₁ ++ (w ++ rest) ∧ w ≠ [] ∧
        pattern (u₁.getLast?.or before) (w ++ rest) = some (a, rest) ∧ u₂ ++ v = a ++ out ∧
        Replaced pattern w.getLast? rest out := by
  induction u generalizing before cs with
  | nil => exact Or.inl ⟨cs, rfl, h⟩
  | cons c u ih =>
    generalize hout : c :: u ++ v = result at h
    cases h with
    | nil => cases hout
    | keep hnone h =>
      obtain ⟨rfl, rfl⟩ := List.cons.inj hout
      rcases ih h with ⟨cs', rfl, h⟩ | ⟨u₁, u₂, w, rest, a, out, rfl, hu₂, rfl, hw, hmatch, hsplit, h⟩
      · refine Or.inl ⟨cs', rfl, ?_⟩
        rwa [← getLast?_or_cons]
      · refine Or.inr ⟨c :: u₁, u₂, w, rest, a, out, rfl, hu₂, rfl, hw, ?_, hsplit, h⟩
        rwa [← getLast?_or_cons]
    | @swap _ w rest a out hw hmatch h =>
      exact Or.inr ⟨[], c :: u, w, rest, a, out, rfl, by simp, rfl, hw, hmatch, hout, h⟩

/-- Replacing once more changes nothing, when no match begins at a character that was kept, and a replacement holds no
match or is one that is replaced by itself. The texts may be those with a property that the ends of texts share. -/
theorem again {P : List Char → Prop} (hP : ∀ {u v}, P (u ++ v) → P v)
    (hkeep : ∀ {before c cs out}, P (c :: cs) → pattern before (c :: cs) = none → Replaced pattern (some c) cs out →
      pattern before (c :: out) = none)
    (hswap : ∀ {before w rest a out}, P (w ++ rest) → pattern before (w ++ rest) = some (a, rest) → w ≠ [] →
      Replaced pattern w.getLast? rest out → a ≠ [] ∧ pattern w.getLast? = pattern a.getLast? ∧
      (pattern before (a ++ out) = some (a, out) ∨
        ∀ a₁ a₂, a = a₁ ++ a₂ → a₂ ≠ [] → pattern (a₁.getLast?.or before) (a₂ ++ out) = none))
    {out : List Char} (hcs : P cs) (h : Replaced pattern before cs out) : replaceFrom pattern 0 before out = out := by
  induction h with
  | nil => rfl
  | keep hnone h ih =>
    rw [replaceFrom, hkeep hcs hnone h]
    exact congrArg _ (ih (hP (u := [_]) hcs))
  | @swap before w rest a out hw hmatch h ih =>
    obtain ⟨ha, hlast, hself | hnone⟩ := hswap hcs hmatch hw h
    · rw [replaceFrom_match hself ha, ← replaceFrom_congr hlast, ih (hP hcs)]
    · have hbefore : a.getLast?.or before = a.getLast? := by
        rw [List.getLast?_eq_some_getLast ha, Option.some_or]
      rw [replaceFrom_pass hnone, hbefore, ← replaceFrom_congr hlast, ih (hP hcs)]

end Replaced

/-! ## Where a text is split -/

section
variable {u₁ u₂ u v : List Char} {c : Char}

/-- A text is split behind a part that does not hold the character after the split. -/
theorem split_behind (h : u₁ ++ u₂ = u ++ v) (hhead : u₂.head? = some c) (hu : c ∉ u) : ∃ t, u₁ = u ++ t ∧ v = t ++ u₂ := by
  rcases List.append_eq_append_iff.1 h with ⟨t, rfl, rfl⟩ | ⟨t, rfl, rfl⟩
  · cases t with
    | nil => exact ⟨[], by simp, rfl⟩
    | cons d t =>
      obtain rfl : d = c := by simpa using hhead
      exact absurd (by simp) hu
  · exact ⟨t, rfl, rfl⟩

/-- A text is split before a part that does not hold the character after the split. -/
theorem split_before (h : u₁ ++ u₂ = u ++ v) (hhead : u₂.head? = some c) (hv : c ∉ v) : ∃ t, u₂ = t ++ v ∧ u = u₁ ++ t := by
  rcases List.append_eq_append_iff.1 h with ⟨t, rfl, rfl⟩ | ⟨t, rfl, rfl⟩
  · exact ⟨t, rfl, rfl⟩
  · exact absurd (List.mem_append_right t (List.mem_of_head? hhead)) hv

end

/-! ## Texts that do not overlap -/

/-- Whether one of two texts is the front of the other. -/
def Agree (u v : List Char) : Prop := u <+: v ∨ v <+: u

instance (u v : List Char) : Decidable (Agree u v) := inferInstanceAs (Decidable (_ ∨ _))

theorem Agree.symm {u v : List Char} (h : Agree u v) : Agree v u := Or.symm h

theorem Agree.of_append {u v x y : List Char} (h : u ++ x = v ++ y) : Agree u v := by
  rcases List.append_eq_append_iff.1 h with ⟨t, rfl, -⟩ | ⟨t, rfl, -⟩
  · exact Or.inl ⟨t, rfl⟩
  · exact Or.inr ⟨t, rfl⟩

theorem Agree.exists_append {u v : List Char} (h : Agree u v) : ∃ x y, u ++ x = v ++ y := by
  rcases h with ⟨t, rfl⟩ | ⟨t, rfl⟩
  · exact ⟨t, [], by simp⟩
  · exact ⟨[], t, by simp⟩

/-- A text of which no end agrees with another text. -/
def NoEndAgrees (u v : List Char) : Prop := ∀ w, w <:+ u → w ≠ [] → ¬ Agree w v

/-- Whether an end of a text agrees with another text. -/
def endAgrees : (u v : List Char) → Bool
  | [], _ => false
  | c :: u, v => decide (Agree (c :: u) v) || endAgrees u v

theorem endAgrees_eq_false {u v : List Char} : endAgrees u v = false ↔ NoEndAgrees u v := by
  induction u with
  | nil =>
    refine ⟨fun _ w hw hne => ?_, fun _ => rfl⟩
    exact absurd (List.suffix_nil.1 hw) hne
  | cons c u ih =>
    rw [endAgrees, Bool.or_eq_false_iff, decide_eq_false_iff_not, ih]
    constructor
    · rintro ⟨hhere, hrest⟩ w hw hne
      rcases List.suffix_cons_iff.1 hw with rfl | hw
      · exact hhere
      · exact hrest w hw hne
    · intro h
      exact ⟨h _ List.suffix_rfl (by simp), fun w hw => h w (hw.trans (List.suffix_cons c u))⟩

instance (u v : List Char) : Decidable (NoEndAgrees u v) := decidable_of_iff _ endAgrees_eq_false

theorem Agree.front {u v x y : List Char} (h : Agree (u ++ x) (v ++ y)) : Agree u v := by
  obtain ⟨a, b, hab⟩ := h.exists_append
  rw [List.append_assoc, List.append_assoc] at hab
  exact .of_append hab

theorem agree_cons {c d : Char} {u v : List Char} : Agree (c :: u) (d :: v) ↔ c = d ∧ Agree u v := by
  rw [Agree, Agree, List.cons_prefix_cons, List.cons_prefix_cons, eq_comm (a := d), and_or_left]

namespace NoEndAgrees

variable {u v s t : List Char} {c d : Char}

/-- No end agrees that does not begin as the other text does. -/
theorem of_not_mem (h : c ∉ u) : NoEndAgrees u (c :: v) := by
  intro w hw hne hagree
  obtain ⟨d, w, rfl⟩ := List.exists_cons_of_ne_nil hne
  obtain rfl := (agree_cons.1 hagree).1
  exact h (hw.subset List.mem_cons_self)

theorem append (hu : NoEndAgrees u v) (hs : NoEndAgrees s v) : NoEndAgrees (u ++ s) v := by
  intro w hw hne hagree
  rcases suffix_append_cases hw with hw | ⟨x, hx, hxne, rfl⟩
  · exact hs w hw hne hagree
  · exact hu x hx hxne (Agree.front (x := s) (y := []) (by rwa [List.append_nil]))

theorem longer (h : NoEndAgrees u v) (t : List Char) : NoEndAgrees u (v ++ t) :=
  fun w hw hne hagree => h w hw hne (Agree.front (x := []) (y := t) (by rwa [List.append_nil]))

/-- No end agrees, when the texts go on differently after `v` and `d`, and from the first `c` on. -/
theorem of_stop (hu : ¬ v ++ [d] <:+: u) (hv : c ∉ v) (hst : ¬ Agree (c :: s) (d :: t))
    (hend : NoEndAgrees (c :: s) (v ++ d :: t)) : NoEndAgrees (u ++ c :: s) (v ++ d :: t) := by
  intro w hw hne hagree
  rcases suffix_append_cases hw with hw | ⟨x, hx, -, rfl⟩
  · exact hend w hw hne hagree
  · obtain ⟨y, z, hyz⟩ := hagree.exists_append
    rw [List.append_assoc, List.append_assoc] at hyz
    rcases List.append_eq_append_iff.1 hyz with ⟨r, rfl, hr⟩ | ⟨r, rfl, hr⟩
    · cases r with
      | nil => exact hst (.of_append hr)
      | cons e r =>
        obtain rfl : c = e := (List.cons.inj hr).1
        exact hv (by simp)
    · cases r with
      | nil => exact hst (.of_append hr.symm)
      | cons e r =>
        obtain rfl : d = e := (List.cons.inj hr).1
        exact hu (List.IsInfix.trans ⟨[], r, by simp⟩ hx.isInfix)

end NoEndAgrees

/-- Texts that cannot overlap. -/
def Apart (u v : List Char) : Prop := NoEndAgrees u v ∧ NoEndAgrees v u

instance (u v : List Char) : Decidable (Apart u v) := inferInstanceAs (Decidable (_ ∧ _))

namespace Replaced

variable {before : Option Char} {cs out : List Char}

/-- A text does not occur in the result, when replacements are apart from it, and the pattern matches where it occurs
or it does not occur in the first place. -/
theorem free {v : List Char} (hv : v ≠ [])
    (hapart : ∀ {before w rest a}, pattern before (w ++ rest) = some (a, rest) → Apart v a)
    (hfound : (∀ {before cs}, pattern before cs = none → ¬ v <+: cs) ∨ ¬ v <:+: cs)
    (h : Replaced pattern before cs out) : ¬ v <:+: out := by
  induction h with
  | nil => exact fun hin => hv (List.infix_nil.1 hin)
  | @keep before c cs out hnone h ih =>
    rw [List.infix_cons_iff]
    rintro (⟨r, hr⟩ | hin)
    · -- the text begins at the character that was kept
      obtain ⟨v', rfl⟩ : ∃ v', v = c :: v' := by
        obtain ⟨d, v', rfl⟩ := List.exists_cons_of_ne_nil hv
        exact ⟨v', by rw [(List.cons.inj hr).1]⟩
      obtain rfl := (List.cons.inj hr).2
      rcases h.split with ⟨cs', rfl, -⟩ | ⟨u₁, u₂, w, rest, a, out, rfl, hu₂, rfl, -, hmatch, hsplit, -⟩
      · rcases hfound with hfound | hfree
        · exact hfound hnone ⟨cs', rfl⟩
        · exact hfree ⟨[], cs', by simp⟩
      · exact (hapart hmatch).1 u₂ ⟨c :: u₁, rfl⟩ hu₂ (.of_append hsplit)
    · refine ih (hfound.imp_right fun hfree hin => hfree (hin.trans (List.suffix_cons _ _).isInfix)) hin
  | @swap before w rest a out hw hmatch h ih =>
    rintro ⟨s, t, hst⟩
    rw [List.append_assoc] at hst
    rcases List.append_eq_append_iff.1 hst with ⟨a₂, rfl, hv'⟩ | ⟨s', -, rfl⟩
    · -- the text begins in the replacement
      cases a₂ with
      | nil =>
        refine ih (hfound.imp_right fun hfree hin => hfree (hin.trans (List.suffix_append _ _).isInfix)) ?_
        exact ⟨[], t, by simpa using hv'⟩
      | cons c a₂ => exact (hapart hmatch).2 (c :: a₂) ⟨s, rfl⟩ (by simp) (Agree.of_append hv').symm
    · refine ih (hfound.imp_right fun hfree hin => hfree (hin.trans (List.suffix_append _ _).isInfix)) ?_
      exact ⟨s', t, by simp⟩

end Replaced

/-! ## The end of a text -/

/-- Patterns whose matches end with a character that breaks no line. -/
def EndsOnLine (pattern : Option Char → List Char → Option (List Char × List Char)) : Prop :=
  ∀ before cs a rest, pattern before cs = some (a, rest) → ∃ w c, isLineBreak c = false ∧ cs = w ++ c :: rest

theorem EndsOnLine.consumes (h : EndsOnLine pattern) : Consumes pattern := by
  intro before cs a rest hmatch
  obtain ⟨w, c, -, rfl⟩ := h before cs a rest hmatch
  exact ⟨w ++ [c], by simp, by simp⟩

theorem getLast?_of_ne_nil {u v : List Char} (hv : v ≠ []) : (u ++ v).getLast? = v.getLast? := by
  rw [List.getLast?_append, List.getLast?_eq_some_getLast hv, Option.some_or]

theorem Replaced.of_nil {before : Option Char} {out : List Char} (h : Replaced pattern before [] out) : out = [] := by
  generalize hcs : [] = cs at h
  cases h with
  | nil => rfl
  | keep => cases hcs
  | swap hw => exact absurd (List.append_eq_nil_iff.1 hcs.symm).1 hw

theorem Replaced.getLast? (h : EndsOnLine pattern) {before : Option Char} {cs out : List Char}
    (hr : Replaced pattern before cs out) (hlast : cs.getLast? = some '\n') : out.getLast? = some '\n' := by
  induction hr with
  | nil => exact hlast
  | @keep before c cs out hnone hr ih =>
    cases cs with
    | nil =>
      rw [hr.of_nil]
      exact hlast
    | cons d cs =>
      have hout := ih ((List.getLast?_cons_cons).symm.trans hlast)
      rw [← List.singleton_append, getLast?_of_ne_nil (by rintro rfl; cases hout), hout]
  | @swap before w rest a out hw hmatch hr ih =>
    cases rest with
    | nil =>
      -- the match would end with the line feed
      obtain ⟨w', c, hc, heq⟩ := h before _ a [] hmatch
      rw [heq, List.getLast?_concat] at hlast
      obtain rfl := Option.some.inj hlast
      cases hc
    | cons d rest =>
      rw [getLast?_of_ne_nil (List.cons_ne_nil d rest)] at hlast
      have hout := ih hlast
      rw [getLast?_of_ne_nil (by rintro rfl; cases hout), hout]

/-- Replacing keeps a line feed at the end. -/
theorem EndsOnLine.replaceFrom (h : EndsOnLine pattern) {cs : List Char} (hlast : cs.getLast? = some '\n') :
    (replaceFrom pattern 0 none cs).getLast? = some '\n' :=
  Replaced.getLast? h (replaced_replaceFrom h.consumes none cs) hlast

/-! ## Patterns that do not look back -/

section
variable {pattern : List Char → Option (List Char × List Char)} {cs : List Char}

theorem replaced_replaceAll (hp : Consumes fun _ => pattern) (cs : List Char) :
    Replaced (fun _ => pattern) none cs (replaceAll pattern cs) := replaced_replaceFrom hp none cs

/-- A text stays as it is when the pattern matches nowhere in it. -/
theorem replaceAll_eq_self (h : ∀ w, w <:+ cs → w ≠ [] → pattern w = none) : replaceAll pattern cs = cs := by
  have hpass : replaceAll pattern (cs ++ []) = cs ++ replaceAll pattern [] :=
    replaceAll_pass fun w hw hne => by rw [List.append_nil]; exact h w hw hne
  simpa using hpass

end

end Suitewright.Text
