/-
  What a search through a text finds.

  * `Found`: the results of the matches of a search from left to right, as a relation between a text and its results;
    `Recognizes`: a pattern and what it matches;
  * `Recognizes.found_iff`: a search gives just these results;
  * `Recognizes.mem_or_overlap`: what stands at a place is found, unless a match that begins before it reaches into it;
  * `FirstAt`, `findFirst?_eq_some`, `findFirst?_eq_none`: what stands at the first place at which anything does.
-/
import Suitewright.Text.Scan

namespace Suitewright.Text

/-- The results of matches from left to right, when `stands cs a rest` says that a match with the result `a` stands at the
front of `cs` before `rest`: a match begins where one can, and the next one no earlier than behind it. -/
inductive Found (stands : List Char → List Char → List Char → Prop) : List Char → List (List Char) → Prop
  /-- Nothing is left. -/
  | nil : Found stands [] []
  /-- A character at which no match begins. -/
  | pass {c : Char} {cs : List Char} {found : List (List Char)} : (∀ a rest, ¬ stands (c :: cs) a rest) →
      Found stands cs found → Found stands (c :: cs) found
  /-- A match. -/
  | hit {cs a rest : List Char} {found : List (List Char)} : stands cs a rest → Found stands rest found →
      Found stands cs (a :: found)

/-- A pattern matches what stands at the front of a text, which is never empty. -/
structure Recognizes (pattern : List Char → Option (List Char × List Char))
    (stands : List Char → List Char → List Char → Prop) : Prop where
  /-- The pattern matches where something stands. -/
  match_iff : ∀ {cs a rest}, pattern cs = some (a, rest) ↔ stands cs a rest
  /-- What stands there is a part of the text. -/
  part : ∀ {cs a rest}, stands cs a rest → ∃ w, w ≠ [] ∧ cs = w ++ rest

/-- An option holds nothing when what it would hold is never there. -/
theorem none_iff {α : Type} {o : Option α} {fits : α → Prop} (h : ∀ a, o = some a ↔ fits a) :
    o = none ↔ ∀ a, ¬ fits a := by
  simp only [Option.eq_none_iff_forall_ne_some, ne_eq, h]

/-! ## Searching -/

section
variable {pattern : List Char → Option (List Char × List Char)} {cs w rest a : List Char}

/-- A search goes on behind a match. -/
theorem findFrom_skip (u v : List Char) (before : Option Char) :
    findFrom (fun _ cs => pattern cs) u.length before (u ++ v) = findAll pattern v := by
  induction u generalizing before with
  | nil => cases v <;> rfl
  | cons c u ih => exact ih (some c)

theorem findAll_pass {c : Char} (h : pattern (c :: cs) = none) : findAll pattern (c :: cs) = findAll pattern cs := by
  rw [findAll, findFrom, h]
  exact findFrom_skip [] cs (some c)

theorem findAll_hit (hw : w ≠ []) (h : pattern (w ++ rest) = some (a, rest)) :
    findAll pattern (w ++ rest) = a :: findAll pattern rest := by
  obtain ⟨c, w, rfl⟩ := List.exists_cons_of_ne_nil hw
  rw [List.cons_append] at h ⊢
  rw [findAll, findFrom, h]
  have hlen : (w ++ rest).length - rest.length = w.length := by simp
  dsimp only
  rw [hlen, findFrom_skip]

end

/-! ## What is found -/

section
variable {pattern : List Char → Option (List Char × List Char)} {stands : List Char → List Char → List Char → Prop}
  {cs u v a rest : List Char} {as : List (List Char)}

theorem Recognizes.none_iff (h : Recognizes pattern stands) : pattern cs = none ↔ ∀ a rest, ¬ stands cs a rest := by
  have hnone : pattern cs = none ↔ ∀ r : List Char × List Char, ¬ stands cs r.1 r.2 := Text.none_iff fun _ => h.match_iff
  rw [hnone, Prod.forall]

/-- What stands at the front of a text has one result and one end. -/
theorem Recognizes.unique (h : Recognizes pattern stands) {a' rest' : List Char} (hs : stands cs a rest)
    (hs' : stands cs a' rest') : a = a' ∧ rest = rest' := by
  have heq : some (a, rest) = some (a', rest') := (h.match_iff.2 hs).symm.trans (h.match_iff.2 hs')
  simpa using heq

theorem Recognizes.findAll_eq (h : Recognizes pattern stands) (hf : Found stands cs as) :
    findAll pattern cs = as := by
  induction hf with
  | nil => rfl
  | pass hnone _ ih => rw [findAll_pass (h.none_iff.2 hnone), ih]
  | hit hstands _ ih =>
    obtain ⟨w, hw, rfl⟩ := h.part hstands
    rw [findAll_hit hw (h.match_iff.2 hstands), ih]

theorem Recognizes.found (h : Recognizes pattern stands) (cs : List Char) : Found stands cs (findAll pattern cs) := by
  -- a match may be long, so the induction is on the length of what is left
  induction hn : cs.length using Nat.strongRecOn generalizing cs with
  | _ n ih =>
    subst hn
    cases cs with
    | nil => exact .nil
    | cons c cs =>
      cases hmatch : pattern (c :: cs) with
      | none =>
        rw [findAll_pass hmatch]
        exact .pass (h.none_iff.1 hmatch) (ih _ (Nat.lt_succ_self _) cs rfl)
      | some r =>
        obtain ⟨a, rest⟩ := r
        have hstands := h.match_iff.1 hmatch
        obtain ⟨w, hw, hcs⟩ := h.part hstands
        rw [hcs] at hmatch hstands ih ⊢
        rw [findAll_hit hw hmatch]
        refine .hit hstands (ih _ ?_ rest rfl)
        have := List.length_pos_iff.2 hw
        rw [List.length_append]
        omega

/-- A search gives the results of the matches from left to right. -/
theorem Recognizes.found_iff (h : Recognizes pattern stands) : Found stands cs as ↔ findAll pattern cs = as := by
  constructor
  · exact h.findAll_eq
  · rintro rfl
    exact h.found cs

theorem Recognizes.found_unique (h : Recognizes pattern stands) {bs : List (List Char)} (hf : Found stands cs as)
    (hf' : Found stands cs bs) : as = bs := (h.found_iff.1 hf).symm.trans (h.found_iff.1 hf')

/-- What is found stands somewhere. -/
theorem Found.exists_stands (hf : Found stands cs as) (ha : a ∈ as) : ∃ cs rest, stands cs a rest := by
  induction hf with
  | nil => cases ha
  | pass _ _ ih => exact ih ha
  | @hit cs b rest as hb _ ih =>
    rcases List.mem_cons.1 ha with rfl | ha
    · exact ⟨cs, rest, hb⟩
    · exact ih ha

/-- What stands at a place is found, unless a match that begins before the place ends behind it. -/
theorem Recognizes.mem_or_overlap (h : Recognizes pattern stands) (hf : Found stands (u ++ v) as)
    (hstands : stands v a rest) :
    a ∈ as ∨ ∃ u₁ u₂ b v₁ v₂, u = u₁ ++ u₂ ∧ u₂ ≠ [] ∧ v = v₁ ++ v₂ ∧ v₁ ≠ [] ∧ stands (u₂ ++ v) b v₂ := by
  have hv : v ≠ [] := by
    obtain ⟨w, hw, rfl⟩ := h.part hstands
    simp [hw]
  generalize hcs : u ++ v = cs at hf
  induction hf generalizing u with
  | nil => exact absurd (List.append_eq_nil_iff.1 hcs).2 hv
  | @pass c cs as hnone hf ih =>
    cases u with
    | nil =>
      rw [List.nil_append] at hcs
      exact absurd (hcs ▸ hstands) (hnone a rest)
    | cons d u =>
      obtain ⟨rfl, rfl⟩ := List.cons.inj hcs
      refine (ih rfl).imp id ?_
      rintro ⟨u₁, u₂, b, v₁, v₂, rfl, hover⟩
      exact ⟨d :: u₁, u₂, b, v₁, v₂, rfl, hover⟩
  | @hit cs b rest' as hb hf ih =>
    subst hcs
    obtain ⟨w, hw, hsplit⟩ := h.part hb
    by_cases hu : u = []
    · subst hu
      obtain ⟨rfl, -⟩ := h.unique hstands hb
      exact Or.inl (List.mem_cons_self ..)
    rcases List.append_eq_append_iff.1 hsplit with ⟨t, rfl, rfl⟩ | ⟨t, rfl, rfl⟩
    · cases t with
      | nil =>
        -- the match ends where the place is
        refine (ih (u := []) rfl).imp (List.mem_cons_of_mem b) ?_
        rintro ⟨u₁, u₂, -, -, -, hnil, hne, -⟩
        exact absurd (List.append_eq_nil_iff.1 hnil.symm).2 hne
      | cons d t => exact Or.inr ⟨[], u, b, d :: t, rest', rfl, hu, rfl, List.cons_ne_nil d t, hb⟩
    · refine (ih rfl).imp (List.mem_cons_of_mem b) ?_
      rintro ⟨u₁, u₂, b', v₁, v₂, rfl, hover⟩
      exact ⟨w ++ u₁, u₂, b', v₁, v₂, by rw [List.append_assoc], hover⟩

end

/-! ## The first place -/

/-- What stands at the first place of a text at which anything stands. -/
inductive FirstAt {α : Type} (stands : List Char → α → Prop) : List Char → α → Prop
  /-- It stands at the front. -/
  | here {cs : List Char} {a : α} : stands cs a → FirstAt stands cs a
  /-- Nothing stands at the front. -/
  | later {c : Char} {cs : List Char} {a : α} : (∀ b, ¬ stands (c :: cs) b) → FirstAt stands cs a →
      FirstAt stands (c :: cs) a

section
variable {α : Type} {pattern : List Char → Option α} {stands : List Char → α → Prop} {cs : List Char} {a : α}

theorem findFirst?_eq_some (h : ∀ {cs a}, pattern cs = some a ↔ stands cs a) :
    findFirst? pattern cs = some a ↔ FirstAt stands cs a := by
  constructor
  · intro hfirst
    induction cs with
    | nil => exact .here (h.1 hfirst)
    | cons c cs ih =>
      rw [findFirst?, Option.or_eq_some_iff] at hfirst
      rcases hfirst with hhere | ⟨hhere, hlater⟩
      · exact .here (h.1 hhere)
      · exact .later ((none_iff fun _ => h).1 hhere) (ih hlater)
  · intro hfirst
    induction hfirst with
    | @here cs a hstands =>
      have hhere := h.2 hstands
      cases cs with
      | nil => exact hhere
      | cons c cs => rw [findFirst?, hhere, Option.some_or]
    | later hno _ ih => rw [findFirst?, (none_iff fun _ => h).2 hno, Option.none_or, ih]

theorem findFirst?_eq_none (h : ∀ {cs a}, pattern cs = some a ↔ stands cs a) :
    findFirst? pattern cs = none ↔ ∀ v, v <:+ cs → ∀ a, ¬ stands v a := by
  induction cs with
  | nil => simp only [findFirst?, none_iff fun _ => h, List.suffix_nil, forall_eq]
  | cons c cs ih =>
    rw [findFirst?, Option.or_eq_none_iff]
    simp only [none_iff fun _ => h, ih, List.suffix_cons_iff, forall_eq_or_imp]

end

end Suitewright.Text
