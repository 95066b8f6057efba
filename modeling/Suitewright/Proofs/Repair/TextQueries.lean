/-
  Where queries by the text of a variable are replaced.

  * `replaceAll_append`: a text is replaced part by part, when no match reaches from one part into the other;
  * `textToTestId_text`: what replaces a query by a text; `textToTestId_before`: no other match reaches into it;
  * `replaceTextQueries_around`: it is replaced wherever it stands, and what stands around it as if it were not there;
  * `isTestVariable_textVariable`: the variables of properties whose names begin with a letter are of the kind looked for.
-/
import Suitewright.Proofs.Repair.Leftovers
import Suitewright.Proofs.Suite.ComponentName

namespace Suitewright

open Text

/-! ## Replacing part by part -/

theorem replaceAll_append {pattern : List Char → Option (List Char × List Char)} (hp : Consumes fun _ => pattern)
    {u v : List Char} (h : ∀ w, w <:+ u → w ≠ [] → pattern (w ++ v) = (pattern w).map fun (a, rest) => (a, rest ++ v)) :
    replaceAll pattern (u ++ v) = replaceAll pattern u ++ replaceAll pattern v := by
  have hreplaced := replaced_replaceAll hp u
  generalize none = start, replaceAll pattern u = out at hreplaced
  -- along the matches in the first part
  induction hreplaced with
  | nil => rfl
  | @keep before c cs out hnone _ ih =>
    have hkeep : pattern (c :: (cs ++ v)) = none := by
      rw [← List.cons_append, h _ (List.suffix_refl _) (List.cons_ne_nil c cs), hnone]
      rfl
    rw [List.cons_append, replaceAll_cons hkeep, ih fun w hw => h w (hw.trans (List.suffix_cons c cs)), List.cons_append]
  | @swap before w rest a out hw hmatch _ ih =>
    have hswap : pattern (w ++ (rest ++ v)) = some (a, rest ++ v) := by
      rw [← List.append_assoc, h _ (List.suffix_refl _) (List.append_ne_nil_of_left_ne_nil hw rest), hmatch]
      rfl
    rw [List.append_assoc, replaceAll_match hswap hw, ih fun x hx => h x (hx.trans (List.suffix_append w rest)),
      List.append_assoc]

/-! ## Queries by texts -/

section
variable {m : Component} {q u : List Char}

/-- A query by a text is replaced, whatever comes behind it. -/
theorem textToTestId_text {v : List Char} (hv : v.all Char.isAlphanum = true) (htest : isTestVariable v = true)
    (rest : List Char) : textToTestId m ((Query.text v).chars ++ rest) =
      some ((testIdQuery (className (propOfVariable m v))).toList, rest) := by
  rw [textToTestId, textQuery?_text hv, if_pos htest]
  rfl

/-- Queries by texts are those of the variables that are looked for. -/
theorem textQuery_iff : TextQuery q ↔
    ∃ v, v.all Char.isAlphanum = true ∧ isTestVariable v = true ∧ q = (Query.text v).chars := by
  constructor
  · rintro ⟨c, w, hc, hw, rfl⟩
    refine ⟨"test".toList ++ c :: w, capitalVariable_alphanum hc hw, ?_, ?_⟩
    · rw [isTestVariable, after?_append]
      exact hc
    · rw [Query.chars_text]
      simp only [List.append_assoc, List.cons_append]
  · rintro ⟨v, hv, htest, rfl⟩
    rw [isTestVariable] at htest
    split at htest
    · next c w hafter =>
      obtain rfl := after?_eq_some.1 hafter
      simp only [List.all_append, List.all_cons, Bool.and_eq_true] at hv
      refine ⟨c, w, htest, hv.2.2, ?_⟩
      rw [Query.chars_text]
      simp only [List.append_assoc, List.cons_append]
    · cases htest

/-- No end of a query by a text agrees with another one, but for the whole query. -/
theorem TextQuery.noEndAgrees_tail (hq : TextQuery q) (x : List Char) :
    NoEndAgrees q.tail ("screen.getByText(".toList ++ x) := by
  obtain ⟨c, w, hc, hw, rfl⟩ := hq
  have htail : ("screen.getByText(".toList ++ ("test".toList ++ c :: (w ++ [')']))).tail =
      "creen.getByText(".toList ++ (("test".toList ++ c :: w) ++ ')' :: []) := by
    simp
  have hpoint : ∀ t, "screen.getByText(".toList ++ t = "screen".toList ++ '.' :: ("getByText(".toList ++ t) := fun _ => rfl
  rw [htail]
  refine .append (NoEndAgrees.longer (by decide) _) ?_
  -- the point behind `screen` is no part of a variable
  rw [hpoint]
  refine .of_stop (fun hin => ?_) (by decide) (fun h => absurd (agree_cons.1 h).1 (by decide)) ?_
  · exact not_mem_of_class (c := '.') (capitalVariable_alphanum hc hw) (by decide) (hin.subset (by simp))
  · exact NoEndAgrees.longer (v := "screen".toList) (by decide) _

/-- A match that begins before a query by a text ends before it. -/
theorem TextQuery.ends_before {t v rest : List Char} (ht : TextQuery t) (hq : TextQuery q) (hu : u ≠ [])
    (h : u ++ (q ++ v) = t ++ rest) : ∃ s, u = t ++ s := by
  rcases List.append_eq_append_iff.1 h with ⟨s, hs, hrest⟩ | ⟨s, hs, -⟩
  · cases s with
    | nil => exact ⟨[], by rw [hs, List.append_nil, List.append_nil]⟩
    | cons d s =>
      obtain ⟨c, u, rfl⟩ := List.exists_cons_of_ne_nil hu
      obtain ⟨e, w, -, -, rfl⟩ := hq
      have hend : (d :: s) <:+ t.tail := ⟨u, by rw [hs]; rfl⟩
      exact absurd (.of_append hrest.symm) (ht.noEndAgrees_tail _ _ hend (List.cons_ne_nil d s))
  · exact ⟨s, hs⟩

/-- What comes before a query by a text is matched as if the query were not there. -/
theorem textToTestId_before (hq : TextQuery q) (hu : u ≠ []) (v : List Char) :
    textToTestId m (u ++ (q ++ v)) = (textToTestId m u).map fun (a, rest) => (a, rest ++ (q ++ v)) := by
  cases hmatch : textToTestId m u with
  | some found =>
    obtain ⟨a, rest⟩ := found
    obtain ⟨⟨t, ht, rfl⟩, -⟩ := textToTestId_eq_some hmatch
    obtain ⟨w, hw, htest, rfl⟩ := textQuery_iff.1 ht
    rw [textToTestId_text hw htest] at hmatch
    obtain ⟨rfl, -⟩ := Prod.mk.inj (Option.some.inj hmatch)
    rw [List.append_assoc, textToTestId_text hw htest]
    rfl
  | none =>
    cases hfound : textToTestId m (u ++ (q ++ v)) with
    | none => rfl
    | some found =>
      obtain ⟨a, rest⟩ := found
      obtain ⟨⟨t, ht, hsplit⟩, -⟩ := textToTestId_eq_some hfound
      obtain ⟨s, rfl⟩ := ht.ends_before hq hu hsplit
      obtain ⟨w, hw, htest, rfl⟩ := textQuery_iff.1 ht
      rw [textToTestId_text hw htest] at hmatch
      cases hmatch

/-- A query by a text is replaced wherever it stands. -/
theorem replaceTextQueries_around (m : Component) {v : List Char} (hv : v.all Char.isAlphanum = true)
    (htest : isTestVariable v = true) (before after : List Char) :
    replaceTextQueries m (before ++ ((Query.text v).chars ++ after)) = replaceTextQueries m before ++
      ((testIdQuery (className (propOfVariable m v))).toList ++ replaceTextQueries m after) := by
  have hq : TextQuery (Query.text v).chars := textQuery_iff.2 ⟨v, hv, htest, rfl⟩
  have hne : (Query.text v).chars ≠ [] := by
    rw [Query.chars_text]
    exact List.cons_ne_nil _ _
  show replaceAll (textToTestId m) _ = replaceAll (textToTestId m) _ ++ (_ ++ replaceAll (textToTestId m) _)
  rw [replaceAll_append (textToTestId_clears m).consumes fun w _ hw => textToTestId_before hq hw after,
    replaceAll_match (textToTestId_text hv htest after) hne]

end

/-! ## Variables of texts -/

/-- A name that begins with a letter gives a variable that is looked for. -/
theorem isTestVariable_textVariable {name : String} (h : name.toList.head?.any Char.isAlpha = true) :
    isTestVariable (textVariable name).toList = true := by
  cases hname : name.toList with
  | nil =>
    rw [hname] at h
    cases h
  | cons c cs =>
    rw [hname] at h
    have hc : c.isAlphanum = true := Bool.or_eq_true_iff.2 (Or.inl h)
    have hdigit : c.isDigit = false := by
      have := forall_ascii (p := fun c => !c.isAlpha || !c.isDigit) (by decide) (toNat_of_isAlphanum hc)
      simpa [show c.isAlpha = true from h] using this
    have hhead := head?_joinCapitalized (c :: cs)
    rw [List.find?_cons_of_pos hc, Option.map_some] at hhead
    obtain ⟨rest, hrest⟩ := List.head?_eq_some_iff.1 hhead
    rw [isTestVariable, textVariable, append_ofList, hname, hrest, after?_append]
    exact (toUpper_cases hc).2.1.2 hdigit

/-- A variable of a text belongs to a property that gives this variable. -/
theorem propOfVariable_textVariable {m : Component} {p : PropSpec} (hp : p ∈ m.props) :
    ∃ q ∈ m.props, textVariable q.name = textVariable p.name ∧ propOfVariable m (textVariable p.name).toList = q.name := by
  rw [propOfVariable]
  cases hfind : m.props.reverse.find? fun q => (textVariable q.name).toList == (textVariable p.name).toList with
  | none =>
    have := List.find?_eq_none.1 hfind p (List.mem_reverse.2 hp)
    simp at this
  | some q =>
    have hvariable := List.find?_some hfind
    refine ⟨q, List.mem_reverse.1 (List.mem_of_find?_eq_some hfind), ?_, rfl⟩
    exact String.toList_inj.1 (beq_iff_eq.1 hvariable)

end Suitewright
