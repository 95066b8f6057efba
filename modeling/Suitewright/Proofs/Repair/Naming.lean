/-
  Which names stand in attributes.

  * `StandsIn`: names that stand in a text as a whole word; `namedIn_iff`: these are the ones found there;
  * `namedIn_separated`: names are found on either side of a character that no name holds;
  * `namedIn_attribute`: an attribute that was added is named; `namedIn_append`: what is named stays so;
  * `namesSymbol_spread`: the spread of the required properties names them and nothing else.
-/
import Suitewright.Proofs.Repair.Mending
import Suitewright.Proofs.Text.Replaced

namespace Suitewright

open Text

/-! ## Names -/

/-- Names that stand in a text between characters that belong to no name. -/
def StandsIn (name text : List Char) : Prop :=
  ∃ u v, text = u ++ (name ++ v) ∧ u.getLast?.any isNameChar = false ∧ v.head?.any isNameChar = false

section
variable {name u v : List Char} {before : Option Char} {c : Char}

/-- A name is found at the front of a text or further on. -/
theorem namedIn_cons : namedIn name before (c :: u) = true ↔
    (before.any isNameChar = false ∧ ∃ v, c :: u = name ++ v ∧ v.head?.any isNameChar = false) ∨
      namedIn name (some c) u = true := by
  rw [namedIn, Bool.or_eq_true, Bool.and_eq_true, Bool.not_eq_true']
  refine or_congr_left (and_congr_right fun _ => ?_)
  cases hafter : after? name (c :: u) with
  | none =>
    refine ⟨fun h => (Bool.false_ne_true h).elim, ?_⟩
    rintro ⟨v, h, -⟩
    exact absurd ⟨v, h.symm⟩ (after?_eq_none.1 hafter)
  | some rest =>
    have hsplit := after?_eq_some.1 hafter
    refine ⟨fun h => ⟨rest, hsplit, by simpa using h⟩, ?_⟩
    rintro ⟨v, h, hv⟩
    obtain rfl := List.append_cancel_left (h.symm.trans hsplit)
    simpa using hv

/-- Where a name is found. -/
theorem namedIn_iff_exists : namedIn name before u = true ↔
    ∃ w v, u = w ++ (name ++ v) ∧ (w.getLast?.or before).any isNameChar = false ∧ v.head?.any isNameChar = false := by
  induction u generalizing before with
  | nil =>
    rw [namedIn, Bool.and_eq_true, List.isEmpty_iff, Bool.not_eq_true']
    constructor
    · rintro ⟨rfl, hbefore⟩
      exact ⟨[], [], rfl, hbefore, rfl⟩
    · rintro ⟨w, v, h, hbefore, -⟩
      obtain ⟨rfl, hname⟩ := List.append_eq_nil_iff.1 h.symm
      exact ⟨(List.append_eq_nil_iff.1 hname).1, hbefore⟩
  | cons c u ih =>
    rw [namedIn_cons, ih]
    constructor
    · rintro (⟨hbefore, v, h, hv⟩ | ⟨w, v, rfl, hw, hv⟩)
      · exact ⟨[], v, h, hbefore, hv⟩
      · exact ⟨c :: w, v, rfl, by rwa [← getLast?_or_cons], hv⟩
    · rintro ⟨w, v, h, hw, hv⟩
      cases w with
      | nil => exact Or.inl ⟨hw, v, h, hv⟩
      | cons d w =>
        obtain ⟨rfl, rfl⟩ := List.cons.inj h
        exact Or.inr ⟨w, v, rfl, by rwa [← getLast?_or_cons] at hw, hv⟩

/-- The names found in a text are those that stand in it. -/
theorem namedIn_iff {text : List Char} : namedIn name none text = true ↔ StandsIn name text := by
  simp only [namedIn_iff_exists, Option.or_none, StandsIn]

theorem any_last_separated (hc : isNameChar c = false) (u w : List Char) :
    ((u ++ c :: w).getLast?.or before).any isNameChar = w.getLast?.any isNameChar := by
  cases w with
  | nil => simp [hc]
  | cons d w =>
    obtain ⟨e, he⟩ : ∃ e, (d :: w).getLast? = some e := ⟨_, List.getLast?_eq_some_getLast (List.cons_ne_nil d w)⟩
    rw [List.getLast?_append, List.getLast?_cons_cons, he, Option.some_or, Option.some_or]

theorem any_head_separated (hc : isNameChar c = false) (u w : List Char) :
    (u ++ c :: w).head?.any isNameChar = u.head?.any isNameChar := by
  cases u with
  | nil => simpa using hc
  | cons d u => rfl

/-- Between two names stands a character of which neither is made. -/
theorem namedIn_separated (hc : isNameChar c = false) (hname : c ∉ name) (hne : name ≠ []) (u v : List Char) :
    namedIn name before (u ++ c :: v) = (namedIn name before u || namedIn name none v) := by
  rw [Bool.eq_iff_iff, Bool.or_eq_true]
  simp only [namedIn_iff_exists, Option.or_none]
  constructor
  · rintro ⟨w, r, h, hw, hr⟩
    rcases List.append_eq_append_iff.1 h with ⟨t, rfl, ht⟩ | ⟨t, rfl, ht⟩
    · -- the name begins behind the separator
      cases t with
      | nil =>
        obtain ⟨d, n, rfl⟩ := List.exists_cons_of_ne_nil hne
        exact absurd (by simp [(List.cons.inj ht).1]) hname
      | cons d t =>
        obtain ⟨rfl, rfl⟩ := List.cons.inj ht
        exact Or.inr ⟨t, r, rfl, (any_last_separated hc u t).symm.trans hw, hr⟩
    · -- it ends before the separator
      obtain ⟨t', rfl⟩ := prefix_of_stop hname ⟨r, ht⟩
      obtain rfl : r = t' ++ c :: v := List.append_cancel_left (by rw [ht, List.append_assoc])
      exact Or.inl ⟨w, t', rfl, hw, (any_head_separated hc t' v).symm.trans hr⟩
  · rintro (⟨w, r, rfl, hw, hr⟩ | ⟨w, r, rfl, hw, hr⟩)
    · exact ⟨w, r ++ c :: v, by simp, hw, (any_head_separated hc r v).trans hr⟩
    · exact ⟨u ++ c :: w, r, by simp, (any_last_separated hc u w).trans hw, hr⟩

end

/-! ## Names that are added -/

section
variable {name : List Char} {before : Option Char}

/-- An attribute that was added is named. -/
theorem namedIn_attribute (a : Attribute) (u : List Char) :
    namedIn a.name before (u ++ ' ' :: a.chars) = true := by
  obtain ⟨r, hchars, hr⟩ := a.chars_name
  have hend : r.head?.any isNameChar = false := by
    rcases hr with rfl | hr
    · rfl
    · rw [hr]
      rfl
  exact namedIn_iff_exists.2 ⟨u ++ [' '], r, by simp [hchars], any_last_separated (by decide) u [], hend⟩

/-- What is named in a text is named in the text with an attribute after it. -/
theorem namedIn_append {u : List Char} (h : namedIn name before u = true) (v : List Char) :
    namedIn name before (u ++ ' ' :: v) = true := by
  obtain ⟨w, r, rfl, hw, hr⟩ := namedIn_iff_exists.1 h
  exact namedIn_iff_exists.2 ⟨w, r ++ ' ' :: v, by simp, hw, (any_head_separated (by decide) r v).trans hr⟩

/-! ## The spread of the required properties -/

/-- No name begins with a character that is none of a name. -/
theorem after?_other {c : Char} (hne : name ≠ []) (hname : name.all isNameChar = true) (hc : isNameChar c = false)
    (cs : List Char) : after? name (c :: cs) = none := by
  refine after?_eq_none.2 fun hp => ?_
  obtain ⟨e, n, rfl⟩ := List.exists_cons_of_ne_nil hne
  obtain ⟨rfl, -⟩ := List.cons_prefix_cons.1 hp
  rw [List.all_eq_true.1 hname e (by simp)] at hc
  cases hc

end

/-! ## Symbols -/

section
variable {symbol w : List Char} {before : Option Char}

theorem symbolHere?_other {c : Char} (hs : IsWord symbol) (hc : isNameChar c = false) (cs : List Char) :
    symbolHere? symbol before (c :: cs) = none := by
  rw [symbolHere?, after?_other hs.1 hs.nameChars hc]
  exact ite_self none

theorem symbolInBraces?_other {c : Char} (hs : IsWord symbol) (hc : isNameChar c = false) (hbrace : c ≠ '\x7d')
    (cs : List Char) : symbolInBraces? symbol before (c :: cs) = symbolInBraces? symbol (some c) cs := by
  rw [symbolInBraces?, symbolHere?_other hs hc, Option.or_none, if_neg (by simpa using hbrace)]

/-- Within a word no symbol begins. -/
theorem symbolInBraces?_inside {d : Char} (hs : IsWord symbol) (hd : isWordChar d = true)
    (hw : w.all isWordChar = true) (cs : List Char) :
    symbolInBraces? symbol (some d) (w ++ '\x7d' :: cs) = none := by
  induction w generalizing d with
  | nil =>
    rw [List.nil_append, symbolInBraces?, symbolHere?_other hs rfl]
    rfl
  | cons e w ih =>
    obtain ⟨he, hw⟩ := Bool.and_eq_true_iff.1 (List.all_cons.symm.trans hw)
    have hedge : atWordEdge (some d) (some e) = false := by simp [atWordEdge, hd, he]
    rw [List.cons_append, symbolInBraces?, symbolHere?, List.head?_cons, hedge, ih he hw]
    simp

theorem atWordEdge_after (hs : IsWord symbol) (c : Char) :
    atWordEdge (symbol.getLast?.or before) (some c) = !isWordChar c := by
  have he := List.getLast?_eq_some_getLast hs.1
  have hword := List.all_eq_true.1 hs.2 _ (List.getLast_mem hs.1)
  rw [he, Option.some_or, atWordEdge, Option.any_some, Option.any_some, hword]
  cases isWordChar c <;> rfl

/-- The only symbol of a word is itself. -/
theorem symbolInBraces?_word (hs : IsWord symbol) (hw : IsWord w) (hbefore : before.any isWordChar = false)
    (cs : List Char) : symbolInBraces? symbol before (w ++ '\x7d' :: cs) =
      if symbol = w then importEnd? ('\x7d' :: cs) else none := by
  obtain ⟨d, w', rfl⟩ := List.exists_cons_of_ne_nil hw.1
  obtain ⟨hd, hw'⟩ := Bool.and_eq_true_iff.1 (List.all_cons.symm.trans hw.2)
  have hedge : atWordEdge before (some d) = true := by rw [atWordEdge, hbefore, Option.any_some, hd]; rfl
  rw [List.cons_append, symbolInBraces?, symbolInBraces?_inside hs hd hw', ite_self, Option.none_or, symbolHere?,
    List.head?_cons, if_pos hedge]
  by_cases h : symbol = d :: w'
  · have hend : atWordEdge ((d :: w').getLast?.or before) (some '\x7d') = true := atWordEdge_after hw _
    rw [if_pos h, h, ← List.cons_append, after?_append]
    exact if_pos hend
  · rw [if_neg h]
    cases hafter : after? symbol (d :: (w' ++ '\x7d' :: cs)) with
    | none => rfl
    | some rest =>
      have hsplit : (d :: w') ++ '\x7d' :: cs = symbol ++ rest := after?_eq_some.1 hafter
      cases rest with
      | nil =>
        have hmem : '\x7d' ∈ symbol := by
          rw [List.append_nil] at hsplit
          simp [← hsplit]
        exact absurd hmem (not_mem_of_class hs.2 (by decide))
      | cons e rest =>
        cases he : isWordChar e with
        | true =>
          dsimp only
          rw [List.head?_cons, atWordEdge_after hs, he]
          rfl
        | false =>
          exact absurd (eq_of_append_class hw.2 hs.2 (by decide) he hsplit).1.symm h

/-- The spread of the required properties names them and nothing else. -/
theorem namesSymbol_spread (hs : IsWord symbol) :
    namesSymbol symbol "...requiredProps".toList = decide (symbol = "requiredProps".toList) := by
  have hspread : "...requiredProps".toList ++ "\x7d from".toList =
      '.' :: '.' :: '.' :: ("requiredProps".toList ++ '\x7d' :: " from".toList) := by decide
  have hend : (importEnd? ('\x7d' :: " from".toList)).isSome = true := rfl
  rw [namesSymbol, hspread, symbolInBraces?_other hs rfl (by decide), symbolInBraces?_other hs rfl (by decide),
    symbolInBraces?_other hs rfl (by decide), symbolInBraces?_word hs (by unfold IsWord; decide) rfl]
  split
  · next h => rw [hend, decide_eq_true h]
  · next h => rw [decide_eq_false h]; rfl

end

end Suitewright
