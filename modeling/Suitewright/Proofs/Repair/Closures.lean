/-
  What the rule for closures leaves.

  * `Spaced`: parts of a text with blanks before each; `spaced?_eq_some`: the pattern for them;
  * `LeadingComma`, `Dangling`: the malformed closures;
  * `normalizeClosures_free`: none of them is left.
-/
import Mathlib.Data.List.DropRight
import Suitewright.Proofs.Repair.Cleared
import Suitewright.Proofs.Text.Tame

namespace Suitewright

open Text

/-! ## Parts with blanks before them -/

/-- Parts of a text with blanks before each. -/
def Spaced : (parts : List (List Char)) → List Char → Prop
  | [], v => v = []
  | part :: parts, v => ∃ z w, z.all isBlank = true ∧ Spaced parts w ∧ v = z ++ (part ++ w)

/-- What is left after parts with blanks before each. -/
def spaced? : (parts : List (List Char)) → List Char → Option (List Char)
  | [], cs => some cs
  | part :: parts, cs => (after? part (skipBlanks cs)).bind (spaced? parts)

/-- Whether a text begins with something else than a blank. -/
def isSolid : List Char → Bool
  | [] => false
  | c :: _ => !isBlank c

theorem spaced?_eq_some {parts : List (List Char)} (hparts : parts.all isSolid = true) {cs rest : List Char} :
    spaced? parts cs = some rest ↔ ∃ v, Spaced parts v ∧ cs = v ++ rest := by
  induction parts generalizing cs with
  | nil =>
    rw [spaced?, Option.some_inj]
    exact ⟨fun h => ⟨[], rfl, h⟩, fun ⟨v, hv, h⟩ => by rw [h, hv, List.nil_append]⟩
  | cons part parts ih =>
    obtain ⟨hpart, hparts⟩ := Bool.and_eq_true_iff.1 hparts
    rw [spaced?, Option.bind_eq_some_iff]
    constructor
    · rintro ⟨cs', hafter, h⟩
      obtain ⟨w, hw, rfl⟩ := (ih hparts).1 h
      refine ⟨_, ⟨cs.takeWhile isBlank, w, List.all_takeWhile, hw, rfl⟩, ?_⟩
      rw [List.append_assoc, List.append_assoc, ← after?_eq_some.1 hafter]
      exact List.takeWhile_append_dropWhile.symm
    · rintro ⟨_, ⟨z, w, hz, hw, rfl⟩, rfl⟩
      refine ⟨w ++ rest, ?_, (ih hparts).2 ⟨w, hw, rfl⟩⟩
      rw [skipBlanks, List.append_assoc, List.dropWhile_append_of_pos fun d hd => List.all_eq_true.1 hz d hd, List.append_assoc]
      cases part with
      | nil => cases hpart
      | cons c part =>
        rw [List.cons_append, List.dropWhile_cons_of_neg (by simpa [isSolid] using hpart), ← List.cons_append, after?_append]

namespace Spaced

variable {part u v : List Char} {parts parts' : List (List Char)}

theorem all {p : Char → Bool} (hblank : ∀ c, isBlank c = true → p c = true) (hparts : parts.all (·.all p) = true)
    (h : Spaced parts v) : v.all p = true := by
  induction parts generalizing v with
  | nil =>
    rw [h]
    rfl
  | cons part parts ih =>
    obtain ⟨hpart, hparts⟩ := Bool.and_eq_true_iff.1 hparts
    obtain ⟨z, w, hz, hw, rfl⟩ := h
    have hzp : z.all p = true := List.all_eq_true.2 fun c hc => hblank c (List.all_eq_true.1 hz c hc)
    rw [List.all_append, List.all_append, hzp, ih hparts hw, Bool.and_true, Bool.true_and]
    exact hpart

/-- Texts that agree begin with parts of which the first characters are the same. -/
theorem head_eq {c d : Char} {p q : List Char} (hu : Spaced ((c :: p) :: parts) u) (hv : Spaced ((d :: q) :: parts') v)
    (hc : isBlank c = false) (hd : isBlank d = false) (h : Agree u v) : c = d := by
  obtain ⟨x, y, hxy⟩ := h.exists_append
  obtain ⟨z, w, hz, -, rfl⟩ := hu
  obtain ⟨z', w', hz', -, rfl⟩ := hv
  simp only [List.append_assoc, List.cons_append] at hxy
  exact (eq_of_append_class hz hz' hc hd hxy).2.1

/-- Texts that agree agree after a part that they share. -/
theorem tail_agree (hu : Spaced (part :: parts) u) (hv : Spaced (part :: parts') v) (hpart : isSolid part = true)
    (h : Agree u v) : ∃ u' v', Spaced parts u' ∧ Spaced parts' v' ∧ Agree u' v' := by
  obtain ⟨x, y, hxy⟩ := h.exists_append
  obtain ⟨z, w, hz, hw, rfl⟩ := hu
  obtain ⟨z', w', hz', hw', rfl⟩ := hv
  cases part with
  | nil => cases hpart
  | cons c part =>
    have hc : isBlank c = false := by simpa [isSolid] using hpart
    simp only [List.append_assoc, List.cons_append] at hxy
    obtain ⟨-, -, hrest⟩ := eq_of_append_class hz hz' hc hc hxy
    exact ⟨w, w', hw, hw', .of_append (List.append_cancel_left hrest)⟩

end Spaced

/-! ## Closures -/

/-- Names of attributes. -/
def IsName (name : List Char) : Prop := name ≠ [] ∧ name.all isNameChar = true

/-- An attribute with an expression that begins in a certain way. -/
def attributeText (name t : List Char) : List Char := name ++ '=' :: '\x7b' :: t

theorem IsName.no_equals {name : List Char} (h : IsName name) : '=' ∉ name :=
  not_mem_of_class h.2 (by decide)

theorem noEndAgrees_attributeText {name name' t t' : List Char} (hname : IsName name) (hname' : IsName name')
    (ht : t.all (fun c => !isNameChar c) = true) (h : ¬ Agree t t') :
    NoEndAgrees (attributeText name t) (attributeText name' t') := by
  have hno := hname'.no_equals
  obtain ⟨hne, hall'⟩ := hname'
  obtain ⟨d, n, rfl⟩ := List.exists_cons_of_ne_nil hne
  refine .of_stop (fun hin => hname.no_equals (hin.subset (by simp))) hno ?_ (.of_not_mem fun hmem => ?_)
  · rw [agree_cons, agree_cons]
    exact fun hagree => h hagree.2.2
  · have hd := List.all_eq_true.1 hall' d List.mem_cons_self
    have hall : ('=' :: '\x7b' :: t).all (fun c => !isNameChar c) = true := by
      rw [List.all_cons, List.all_cons, ht]
      decide
    exact not_mem_of_class hall (by simp [hd]) hmem

theorem bracedAttribute?_iff {cs name t : List Char} :
    bracedAttribute? cs = some (name, t) ↔ IsName name ∧ cs = attributeText name t := by
  constructor
  · intro h
    obtain ⟨hcs, hname⟩ := bracedAttribute?_eq_some h
    refine ⟨⟨?_, hname⟩, hcs⟩
    rintro rfl
    rw [hcs] at h
    cases h
  · rintro ⟨⟨hne, hname⟩, rfl⟩
    have hend : isNameChar '=' = false := by decide
    have hall : ∀ c ∈ name, isNameChar c = true := fun c hc => List.all_eq_true.1 hname c hc
    have htake : (attributeText name t).takeWhile isNameChar = name := by
      rw [attributeText, List.takeWhile_append_of_pos hall, List.takeWhile_cons_of_neg (by simp [hend]), List.append_nil]
    have hdrop : (attributeText name t).dropWhile isNameChar = '=' :: '\x7b' :: t := by
      rw [attributeText, List.dropWhile_append_of_pos hall, List.dropWhile_cons_of_neg (by simp [hend])]
    have hempty : name.isEmpty = false := List.isEmpty_eq_false_iff.2 hne
    rw [bracedAttribute?, run?, htake, hdrop, hempty]
    rfl

/-- The parts of a closure after a stray comma. -/
def leadingCommaParts : List (List Char) := [[','], ['(', ')'], ['=', '>'], ['\x7b', '\x7d'], ['\x7d']]

/-- The parts of the closure without effect. -/
def noopParts : List (List Char) := [['(', ')'], ['=', '>'], ['\x7b', '\x7d'], ['\x7d']]

/-- An attribute with a closure after a stray comma. -/
def LeadingComma (v : List Char) : Prop :=
  ∃ name t, IsName name ∧ Spaced leadingCommaParts t ∧ v = attributeText name t

/-- What follows the parameters of a closure without a body, with a comma or without one. -/
def IsDanglingEnd (t : List Char) : Prop := Spaced [['=', '>'], [','], ['\x7d']] t ∨ Spaced [['=', '>'], ['\x7d']] t

/-- An attribute with a closure without a body. -/
def Dangling (v : List Char) : Prop :=
  ∃ name t, IsName name ∧ IsDanglingEnd t ∧ v = attributeText name ('(' :: ')' :: t)

theorem spaced_noop : Spaced noopParts "() => \x7b\x7d\x7d".toList := by
  have hblank : [' '].all isBlank = true := by decide
  exact ⟨[], _, rfl, ⟨[' '], _, hblank, ⟨[' '], _, hblank, ⟨[], _, rfl, rfl, rfl⟩, rfl⟩, rfl⟩, rfl⟩

theorem leadingComma?_eq (cs : List Char) : leadingComma? cs =
    (bracedAttribute? cs).bind fun (name, rest) => (spaced? leadingCommaParts rest).map (noopAttribute name, ·) := by
  rw [leadingComma?]
  simp only [spaced?, leadingCommaParts, Option.map_bind, Option.map_some, Option.bind_eq_bind, Function.comp_def]
  rfl

theorem spaced?_singleton (part cs : List Char) : spaced? [part] cs = after? part (skipBlanks cs) := by
  cases h : after? part (skipBlanks cs) <;> rw [spaced?, h] <;> rfl

/-- The end of a closure without a body, with a comma or without one. -/
theorem dangling_end (cs : List Char) :
    after? ['\x7d'] (skipBlanks ((after? [','] (skipBlanks cs)).getD (skipBlanks cs))) =
      (spaced? [[','], ['\x7d']] cs).or (spaced? [['\x7d']] cs) := by
  rw [spaced?, spaced?_singleton]
  cases hcomma : after? [','] (skipBlanks cs) with
  | none =>
    rw [Option.getD_none, Option.bind_none, Option.none_or, skipBlanks, skipBlanks, List.dropWhile_idempotent]
  | some t =>
    have hnone : after? ['\x7d'] (skipBlanks cs) = none := by
      rw [after?_eq_some.1 hcomma]
      rfl
    rw [Option.getD_some, Option.bind_some, hnone, Option.or_none, spaced?_singleton]

theorem danglingClosure?_eq (cs : List Char) : danglingClosure? cs =
    (bracedAttribute? cs).bind fun (name, rest) => (after? ['(', ')'] rest).bind fun rest =>
      ((spaced? [['=', '>'], [','], ['\x7d']] rest).or (spaced? [['=', '>'], ['\x7d']] rest)).map
        (noopAttribute name, ·) := by
  rw [danglingClosure?]
  simp only [Option.bind_eq_bind, dangling_end]
  congr 1
  funext found
  congr 1
  funext rest
  rw [spaced?, spaced?]
  cases after? ['=', '>'] (skipBlanks rest) with
  | none => rfl
  | some rest => simp only [Option.bind_some, Option.map_eq_bind]; rfl

theorem leadingComma?_iff {cs a rest : List Char} : leadingComma? cs = some (a, rest) ↔
    ∃ name t, IsName name ∧ Spaced leadingCommaParts t ∧ cs = attributeText name t ++ rest ∧ a = noopAttribute name := by
  have hsolid : leadingCommaParts.all isSolid = true := by decide
  simp only [leadingComma?_eq, Option.bind_eq_some_iff, Option.map_eq_some_iff, Prod.exists, Prod.mk.injEq,
    bracedAttribute?_iff, spaced?_eq_some hsolid]
  constructor
  · rintro ⟨name, _, ⟨hname, rfl⟩, _, ⟨t, ht, rfl⟩, rfl, rfl⟩
    exact ⟨name, t, hname, ht, by simp [attributeText], rfl⟩
  · rintro ⟨name, t, hname, ht, rfl, rfl⟩
    exact ⟨name, t ++ rest, ⟨hname, by simp [attributeText]⟩, rest, ⟨t, ht, rfl⟩, rfl, rfl⟩

theorem spaced?_danglingEnd {cs rest : List Char}
    (h : (spaced? [['=', '>'], [','], ['\x7d']] cs).or (spaced? [['=', '>'], ['\x7d']] cs) = some rest) :
    ∃ t, IsDanglingEnd t ∧ cs = t ++ rest := by
  rcases Option.or_eq_some_iff.1 h with h | ⟨-, h⟩
  · obtain ⟨t, ht, rfl⟩ := (spaced?_eq_some (by decide)).1 h
    exact ⟨t, .inl ht, rfl⟩
  · obtain ⟨t, ht, rfl⟩ := (spaced?_eq_some (by decide)).1 h
    exact ⟨t, .inr ht, rfl⟩

theorem spaced?_of_danglingEnd {t : List Char} (ht : IsDanglingEnd t) (rest : List Char) :
    (spaced? [['=', '>'], [','], ['\x7d']] (t ++ rest)).or (spaced? [['=', '>'], ['\x7d']] (t ++ rest)) ≠ none := by
  rw [ne_eq, Option.or_eq_none_iff, not_and_or]
  refine ht.imp (fun ht => ?_) fun ht => ?_
  · rw [(spaced?_eq_some (by decide)).2 ⟨t, ht, rfl⟩]
    simp
  · rw [(spaced?_eq_some (by decide)).2 ⟨t, ht, rfl⟩]
    simp

theorem danglingClosure?_eq_some {cs a rest : List Char} (h : danglingClosure? cs = some (a, rest)) :
    ∃ name t, IsName name ∧ IsDanglingEnd t ∧ cs = attributeText name ('(' :: ')' :: t) ++ rest ∧ a = noopAttribute name := by
  simp only [danglingClosure?_eq, Option.bind_eq_some_iff, Option.map_eq_some_iff, Prod.exists, Prod.mk.injEq,
    bracedAttribute?_iff, after?_eq_some] at h
  obtain ⟨name, _, ⟨hname, rfl⟩, cs, rfl, rest, hend, rfl, rfl⟩ := h
  obtain ⟨t, ht, rfl⟩ := spaced?_danglingEnd hend
  exact ⟨name, t, hname, ht, by simp [attributeText], rfl⟩

theorem danglingClosure?_ne_none {name t : List Char} (hname : IsName name) (ht : IsDanglingEnd t) (rest : List Char) :
    danglingClosure? (attributeText name ('(' :: ')' :: t) ++ rest) ≠ none := by
  have hparts : attributeText name ('(' :: ')' :: t) ++ rest = attributeText name (['(', ')'] ++ (t ++ rest)) := by
    simp [attributeText]
  rw [danglingClosure?_eq, hparts, bracedAttribute?_iff.2 ⟨hname, rfl⟩, Option.bind_some]
  dsimp only
  rw [after?_append, Option.bind_some, ne_eq, Option.map_eq_none_iff]
  exact spaced?_of_danglingEnd ht rest

theorem leadingComma?_clears : Clears leadingComma? LeadingComma where
  ne_nil := by
    rintro _ ⟨name, t, hname, -, rfl⟩
    simp [attributeText]
  found := by
    rintro _ ⟨name, t, hname, ht, rfl⟩ rest
    rw [leadingComma?_iff.2 ⟨name, t, hname, ht, rfl, rfl⟩]
    exact Option.some_ne_none _
  only := by
    intro cs a rest h
    obtain ⟨name, t, hname, ht, rfl, -⟩ := leadingComma?_iff.1 h
    exact ⟨attributeText name t, [], ⟨name, t, hname, ht, rfl⟩, by rw [List.append_nil]⟩

theorem danglingClosure?_clears : Clears danglingClosure? Dangling where
  ne_nil := by
    rintro _ ⟨name, t, hname, -, rfl⟩
    simp [attributeText]
  found := by
    rintro _ ⟨name, t, hname, ht, rfl⟩ rest
    exact danglingClosure?_ne_none hname ht rest
  only := by
    intro cs a rest h
    obtain ⟨name, t, hname, ht, rfl, -⟩ := danglingClosure?_eq_some h
    exact ⟨attributeText name ('(' :: ')' :: t), [], ⟨name, t, hname, ht, rfl⟩, by rw [List.append_nil]⟩

theorem not_isNameChar_of_isBlank (c : Char) (h : isBlank c = true) : (!isNameChar c) = true := by
  cases hname : isNameChar c with
  | false => rfl
  | true =>
    rw [isBlank_of_isNameChar hname] at h
    cases h

/-- An attribute is apart from one with the closure without effect, when its expression begins differently. -/
theorem apart_noopAttribute {name name' t : List Char} (hname : IsName name) (hname' : IsName name')
    (ht : t.all (fun c => !isNameChar c) = true) (h : ∀ u, Spaced noopParts u → ¬ Agree t u) :
    Apart (attributeText name t) (noopAttribute name') := by
  have hagree := h _ spaced_noop
  exact ⟨noEndAgrees_attributeText hname hname' ht hagree,
    noEndAgrees_attributeText hname' hname (by decide) fun hswap => hagree hswap.symm⟩

theorem LeadingComma.apart {v name : List Char} (hv : LeadingComma v) (hname : IsName name) :
    Apart v (noopAttribute name) := by
  obtain ⟨name', t, hname', ht, rfl⟩ := hv
  refine apart_noopAttribute hname' hname (ht.all not_isNameChar_of_isBlank (by decide)) fun u hu hagree => ?_
  exact absurd (ht.head_eq hu (by decide) (by decide) hagree) (by decide)

theorem Dangling.apart {v name : List Char} (hv : Dangling v) (hname : IsName name) :
    Apart v (noopAttribute name) := by
  obtain ⟨name', t, hname', ht, rfl⟩ := hv
  have hspaced : t.all (fun c => !isNameChar c) = true := by
    rcases ht with ht | ht <;> exact ht.all not_isNameChar_of_isBlank (by decide)
  have hwhole : Spaced [['(', ')'], ['=', '>'], [','], ['\x7d']] ('(' :: ')' :: t) ∨
      Spaced [['(', ')'], ['=', '>'], ['\x7d']] ('(' :: ')' :: t) :=
    ht.imp (fun h => ⟨[], t, rfl, h, rfl⟩) fun h => ⟨[], t, rfl, h, rfl⟩
  refine apart_noopAttribute hname' hname (by rw [List.all_cons, List.all_cons, hspaced]; decide) fun u hu hagree => ?_
  -- behind the arrow comes a comma or the closing brace, not a body
  rcases hwhole with h | h
  all_goals
    obtain ⟨u₁, v₁, hu₁, hv₁, hagree₁⟩ := h.tail_agree hu (by decide) hagree
    obtain ⟨u₂, v₂, hu₂, hv₂, hagree₂⟩ := hu₁.tail_agree hv₁ (by decide) hagree₁
    exact absurd (hu₂.head_eq hv₂ (by decide) (by decide) hagree₂) (by decide)

theorem repelledBy_leadingComma? {L : List Char → Prop}
    (h : ∀ v, L v → ∀ name, IsName name → Apart v (noopAttribute name)) : RepelledBy L leadingComma? := by
  intro v hv cs a rest hmatch
  obtain ⟨name, t, hname, -, -, rfl⟩ := leadingComma?_iff.1 hmatch
  exact h v hv name hname

theorem repelledBy_danglingClosure? {L : List Char → Prop}
    (h : ∀ v, L v → ∀ name, IsName name → Apart v (noopAttribute name)) : RepelledBy L danglingClosure? := by
  intro v hv cs a rest hmatch
  obtain ⟨name, t, hname, -, -, rfl⟩ := danglingClosure?_eq_some hmatch
  exact h v hv name hname

/-- No malformed closure is left, of either kind. -/
theorem normalizeClosures_free (source : List Char) :
    Free LeadingComma (normalizeClosures source) ∧ Free Dangling (normalizeClosures source) := by
  have hleading : Free LeadingComma (replaceAll leadingComma? source) :=
    leadingComma?_clears.free (repelledBy_leadingComma? fun _ hv _ => hv.apart) source
  exact ⟨danglingClosure?_clears.keeps_free leadingComma?_clears.ne_nil
      (repelledBy_danglingClosure? fun _ hv _ => hv.apart) hleading,
    danglingClosure?_clears.free (repelledBy_danglingClosure? fun _ hv _ => hv.apart) _⟩

theorem normalizeClosures_eq_self {source : List Char} (hleading : Free LeadingComma source) (hdangling : Free Dangling source) :
    normalizeClosures source = source := by
  rw [normalizeClosures, leadingComma?_clears.eq_self hleading, danglingClosure?_clears.eq_self hdangling]

end Suitewright
