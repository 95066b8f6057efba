/-
  The phrases by which an output names what failed.

  * `ModuleAt`, `ExportAt`, `MemberAt`, `RoleAt`, `PropertyAt`: a phrase at the front of a text, with what it names and what
    follows it; `moduleNotFound?_recognizes` and its kin: the patterns of detectors match just these phrases;
  * `PropertyAt.overlap`: when one phrase of a missing property reaches into another one;
  * `LocationAt`, `LineOf`: source locations, and the line number that a line of output tells.
-/
import Suitewright.Proofs.Repair.Patterns
import Suitewright.Proofs.Text.Found
import Suitewright.Proofs.Text.Replaced

namespace Suitewright

open Text

/-- The marks around the name of a module that was not found. -/
def moduleQuotes : List Char := ['\'', '"']

/-- A module that was not found, between any quotes. -/
def ModuleAt (cs module rest : List Char) : Prop :=
  ∃ q ∈ moduleQuotes, ∃ q' ∈ moduleQuotes, module ≠ [] ∧ (∀ c ∈ moduleQuotes, c ∉ module) ∧
    cs = "Cannot find module ".toList ++ q :: (module ++ q' :: rest)

/-- An export that was not found, by the name under which it was imported. -/
def ExportAt (cs symbol rest : List Char) : Prop :=
  ∃ name, name ≠ [] ∧ '\'' ∉ name ∧ symbol ≠ [] ∧ '\'' ∉ symbol ∧
    cs = "export '".toList ++ (name ++ "' (imported as '".toList ++ (symbol ++ "') was not found".toList ++ rest))

/-- A member that the module before it does not export. -/
def MemberAfter (cs member rest : List Char) : Prop :=
  member ≠ [] ∧ '\'' ∉ member ∧ cs = "' has no exported member '".toList ++ (member ++ '\'' :: rest)

/-- A member that a module does not export, where the name of the module is the shortest one on its line. -/
def MemberAt (cs member rest : List Char) : Prop :=
  ∃ module tail, cs = "Module '".toList ++ (module ++ tail) ∧ '\n' ∉ module ∧ MemberAfter tail member rest ∧
    ∀ u v, module = u ++ v → v ≠ [] → ∀ m r, ¬ MemberAfter (v ++ tail) m r

/-- A role that no element has. -/
def RoleAt (cs role rest : List Char) : Prop :=
  ∃ o ∈ [[], "accessible ".toList], role ≠ [] ∧ '"' ∉ role ∧
    cs = "Unable to find an ".toList ++ (o ++ ("element with the role \"".toList ++ (role ++ '"' :: rest)))

/-- A property that is not given. -/
def PropertyAt (cs prop rest : List Char) : Prop :=
  prop ≠ [] ∧ '\'' ∉ prop ∧ cs = "Property '".toList ++ (prop ++ ("' is missing in type".toList ++ rest))

/-- A source location at the front of a text, with its line number: a source extension, a line and a column. -/
def LocationAt (cs digits : List Char) : Prop :=
  ∃ mark ∈ [[], ['c'], ['m']], ∃ kind ∈ ['j', 't'], ∃ x ∈ [[], ['x']], ∃ column rest, digits ≠ [] ∧
    (∀ d ∈ digits, isDecimalDigit d = true) ∧ isDecimalDigit column = true ∧
    cs = '.' :: (mark ++ kind :: 's' :: (x ++ ':' :: (digits ++ ':' :: column :: rest)))

/-- The line number that a line of output tells: that of its first source location, if it has any. -/
inductive LineOf (line : List Char) : Option Int → Prop
  /-- The line has a source location. -/
  | told {digits : List Char} : FirstAt LocationAt line digits → LineOf line (some (decimalValue digits))
  /-- The line has no source location. -/
  | untold : (∀ v, v <:+ line → ∀ digits, ¬ LocationAt v digits) → LineOf line none

/-! ## Names between marks -/

theorem upTo?_iff {stop : Char} {cs part rest : List Char} :
    upTo? stop cs = some (part, rest) ↔ part ≠ [] ∧ stop ∉ part ∧ cs = part ++ stop :: rest := by
  constructor
  · intro h
    obtain ⟨hcs, hne, hstop⟩ := upTo?_eq_some h
    exact ⟨hne, hstop, hcs⟩
  · rintro ⟨hne, hstop, rfl⟩
    exact upTo?_append hne hstop

/-! ## Patterns -/

section
variable {cs a rest : List Char}

theorem mem_moduleQuotes {c : Char} : c ∈ moduleQuotes ↔ (c == '\'' || c == '"') = true := by
  simp [moduleQuotes]

theorem moduleNotFound?_eq_some (h : moduleNotFound? cs = some (a, rest)) : ModuleAt cs a rest := by
  simp only [moduleNotFound?, Option.bind_eq_bind, Option.bind_eq_some_iff] at h
  obtain ⟨cs', hafter, h⟩ := h
  obtain rfl := after?_eq_some.1 hafter
  cases cs' with
  | nil => cases h
  | cons q cs' =>
    dsimp only at h
    split at h
    · next hq =>
      obtain ⟨⟨part, r⟩, hrun, hclose⟩ := Option.bind_eq_some_iff.1 h
      obtain ⟨rfl, hne, hall, hstop⟩ := run?_eq_some hrun
      cases r with
      | nil => cases hclose
      | cons q' r =>
        obtain ⟨rfl, rfl⟩ := Prod.mk.inj (Option.some.inj hclose)
        rw [List.head?_cons, Option.all_some, Bool.not_not] at hstop
        refine ⟨q, mem_moduleQuotes.2 hq, q', mem_moduleQuotes.2 hstop, hne, fun c hc hmem => ?_, rfl⟩
        have hfree := hall c hmem
        rw [mem_moduleQuotes.1 hc] at hfree
        cases hfree
    · cases h

theorem moduleNotFound?_phrase {q q' : Char} (hq : q ∈ moduleQuotes) (hq' : q' ∈ moduleQuotes) (hne : a ≠ [])
    (hfree : ∀ c ∈ moduleQuotes, c ∉ a) :
    moduleNotFound? ("Cannot find module ".toList ++ q :: (a ++ q' :: rest)) = some (a, rest) := by
  have hrun : run? (fun c => !(c == '\'' || c == '"')) (a ++ q' :: rest) = some (a, q' :: rest) := by
    refine run?_append hne (fun c hc => ?_) ?_
    · rw [Bool.not_eq_true', ← Bool.not_eq_true, ← mem_moduleQuotes]
      exact fun hquote => hfree c hquote hc
    · rw [List.head?_cons, Option.all_some, Bool.not_not, mem_moduleQuotes.1 hq']
  simp only [moduleNotFound?, after?_append, Option.bind_eq_bind, Option.bind_some]
  rw [if_pos (mem_moduleQuotes.1 hq), hrun]
  rfl

theorem moduleNotFound?_recognizes : Recognizes moduleNotFound? ModuleAt where
  match_iff := by
    intro cs a rest
    constructor
    · exact moduleNotFound?_eq_some
    · rintro ⟨q, hq, q', hq', hne, hfree, rfl⟩
      exact moduleNotFound?_phrase hq hq' hne hfree
  part := by
    rintro _ module rest ⟨q, -, q', -, -, -, rfl⟩
    exact ⟨"Cannot find module ".toList ++ q :: (module ++ [q']), List.cons_ne_nil _ _, by simp⟩

theorem exportNotFound?_recognizes : Recognizes exportNotFound? ExportAt where
  match_iff := by
    intro cs a rest
    simp only [exportNotFound?, Option.bind_eq_bind, Option.bind_eq_some_iff, after?_eq_some, upTo?_iff, Prod.exists]
    constructor
    · rintro ⟨_, rfl, name, _, ⟨hname, hquote, rfl⟩, _, rfl, symbol, _, ⟨hsymbol, hquote', rfl⟩, _, h, hresult⟩
      obtain ⟨rfl, rfl⟩ := Prod.mk.inj (Option.some.inj hresult)
      exact ⟨name, hname, hquote, hsymbol, hquote', by rw [h]; simp⟩
    · rintro ⟨name, hname, hquote, hsymbol, hquote', rfl⟩
      refine ⟨_, rfl, name, _, ⟨hname, hquote, ?_⟩, _, rfl, a, _, ⟨hsymbol, hquote', rfl⟩, rest, rfl, rfl⟩
      simp
  part := by
    rintro _ symbol rest ⟨name, -, -, -, -, rfl⟩
    refine ⟨"export '".toList ++ (name ++ "' (imported as '".toList ++ (symbol ++ "') was not found".toList)), ?_, ?_⟩
    · exact List.cons_ne_nil _ _
    · simp

theorem memberAfterModule?_recognizes : Recognizes memberAfterModule? MemberAfter where
  match_iff := by
    intro cs a rest
    simp only [memberAfterModule?, Option.bind_eq_bind, Option.bind_eq_some_iff, after?_eq_some, upTo?_iff]
    constructor
    · rintro ⟨_, rfl, hne, hquote, rfl⟩
      exact ⟨hne, hquote, rfl⟩
    · rintro ⟨hne, hquote, rfl⟩
      exact ⟨_, rfl, hne, hquote, rfl⟩
  part := by
    rintro _ member rest ⟨-, -, rfl⟩
    exact ⟨"' has no exported member '".toList ++ (member ++ ['\'']), List.cons_ne_nil _ _, by simp⟩

/-- The shortest name of a module on a line ends where the member can follow. -/
theorem memberOnLine?_iff : memberOnLine? cs = some (a, rest) ↔ ∃ module tail, cs = module ++ tail ∧ '\n' ∉ module ∧
    MemberAfter tail a rest ∧ ∀ u v, module = u ++ v → v ≠ [] → ∀ m r, ¬ MemberAfter (v ++ tail) m r := by
  induction cs with
  | nil =>
    refine ⟨fun h => (nomatch h), ?_⟩
    rintro ⟨module, tail, hnil, -, ⟨-, -, htail⟩, -⟩
    rw [(List.append_eq_nil_iff.1 hnil.symm).2] at htail
    cases htail
  | cons c cs ih =>
    rw [memberOnLine?, Option.or_eq_some_iff, memberAfterModule?_recognizes.match_iff,
      memberAfterModule?_recognizes.none_iff]
    constructor
    · rintro (hhere | ⟨hno, hlater⟩)
      · exact ⟨[], _, rfl, by simp, hhere, by simp⟩
      · split at hlater
        · cases hlater
        · next hc =>
          obtain ⟨module, tail, rfl, hline, hafter, hshort⟩ := ih.1 hlater
          refine ⟨c :: module, tail, rfl, ?_, hafter, fun u v huv hv => ?_⟩
          · rw [List.mem_cons, not_or]
            exact ⟨fun h => hc (beq_iff_eq.2 h.symm), hline⟩
          · cases u with
            | nil =>
              obtain rfl : c :: module = v := huv
              exact hno
            | cons d u => exact hshort u v (List.cons.inj huv).2 hv
    · rintro ⟨module, tail, hcs, hline, hafter, hshort⟩
      cases module with
      | nil => exact Or.inl (by rw [hcs]; exact hafter)
      | cons d module =>
        obtain ⟨rfl, rfl⟩ := List.cons.inj hcs
        refine Or.inr ⟨hshort [] _ rfl (List.cons_ne_nil c module), ?_⟩
        have hc : ¬ (c == '\n') = true := fun h => hline (by rw [beq_iff_eq.1 h]; exact List.mem_cons_self ..)
        rw [if_neg hc]
        refine ih.2 ⟨module, tail, rfl, fun h => hline (List.mem_cons_of_mem c h), hafter, fun u v huv => ?_⟩
        exact hshort (c :: u) v (by rw [huv]; rfl)

theorem noExportedMember?_recognizes : Recognizes noExportedMember? MemberAt where
  match_iff := by
    intro cs a rest
    simp only [noExportedMember?, Option.bind_eq_bind, Option.bind_eq_some_iff, after?_eq_some, memberOnLine?_iff]
    constructor
    · rintro ⟨_, rfl, module, tail, rfl, hmember⟩
      exact ⟨module, tail, rfl, hmember⟩
    · rintro ⟨module, tail, rfl, hmember⟩
      exact ⟨_, rfl, module, tail, rfl, hmember⟩
  part := by
    rintro _ member rest ⟨module, _, rfl, -, ⟨-, -, rfl⟩, -⟩
    refine ⟨"Module '".toList ++ (module ++ ("' has no exported member '".toList ++ (member ++ ['\'']))), ?_, ?_⟩
    · exact List.cons_ne_nil _ _
    · simp

theorem missingRole?_recognizes : Recognizes missingRole? RoleAt where
  match_iff := by
    intro cs a rest
    simp only [missingRole?, Option.bind_eq_bind, Option.bind_eq_some_iff, after?_eq_some, upTo?_iff]
    constructor
    · rintro ⟨_, rfl, _, hopt, hne, hquote, rfl⟩
      obtain ⟨o, ho, rfl⟩ := getD_after? hopt
      exact ⟨o, ho, hne, hquote, rfl⟩
    · rintro ⟨o, ho, hne, hquote, rfl⟩
      refine ⟨_, rfl, _, getD_after?_append ho ?_, hne, hquote, rfl⟩
      rintro ⟨_, h⟩
      cases h
  part := by
    rintro _ role rest ⟨o, -, -, -, rfl⟩
    refine ⟨"Unable to find an ".toList ++ (o ++ ("element with the role \"".toList ++ (role ++ ['"']))), ?_, ?_⟩
    · exact List.cons_ne_nil _ _
    · simp

theorem missingProp?_recognizes : Recognizes missingProp? PropertyAt where
  match_iff := by
    intro cs a rest
    simp only [missingProp?, Option.bind_eq_bind, Option.bind_eq_some_iff, after?_eq_some, upTo?_iff, Prod.exists]
    constructor
    · rintro ⟨_, rfl, prop, _, ⟨hne, hquote, rfl⟩, _, h, hresult⟩
      obtain ⟨rfl, rfl⟩ := Prod.mk.inj (Option.some.inj hresult)
      exact ⟨hne, hquote, by rw [h]; rfl⟩
    · rintro ⟨hne, hquote, rfl⟩
      exact ⟨_, rfl, a, _, ⟨hne, hquote, rfl⟩, rest, rfl, rfl⟩
  part := by
    rintro _ prop rest ⟨-, -, rfl⟩
    refine ⟨"Property '".toList ++ (prop ++ "' is missing in type".toList), List.cons_ne_nil _ _, ?_⟩
    simp

end

/-! ## Phrases that overlap -/

/-- A phrase of a missing property reaches into another one just when the name of the second is what ends the first. -/
theorem PropertyAt.overlap {u v v₁ v₂ prop prop' rest : List Char} (h : PropertyAt (u ++ v) prop v₂)
    (h' : PropertyAt v prop' rest) (hu : u ≠ []) (hv : v = v₁ ++ v₂) (hv₁ : v₁ ≠ []) :
    " is missing in type".toList <+: prop' := by
  obtain ⟨-, hquote, hcs⟩ := h
  obtain ⟨-, -, hprop'⟩ := h'
  obtain ⟨c, u, rfl⟩ := List.exists_cons_of_ne_nil hu
  have hhead : v.head? = some 'P' := by rw [hprop']; rfl
  -- the second phrase begins in the name of the first, or behind it
  obtain ⟨t, rfl, ht⟩ := split_behind (u := "roperty '".toList) (List.cons.inj hcs).2 hhead (by decide)
  have hmatch : t ++ v₁ = prop ++ "' is missing in type".toList := by
    rw [hv, ← List.append_assoc, ← List.append_assoc] at ht
    exact (List.append_cancel_right ht).symm
  have hhead₁ : v₁.head? = some 'P' := by
    obtain ⟨d, v₁, rfl⟩ := List.exists_cons_of_ne_nil hv₁
    simpa [hv] using hhead
  -- not behind it, so that both names end at the same quotes
  obtain ⟨t', rfl, rfl⟩ := split_before hmatch hhead₁ (by decide)
  have hfree : '\'' ∉ t' := fun he => hquote (List.mem_append_right t he)
  have hsplit : t' ++ '\'' :: (" is missing in type".toList ++ v₂) =
      "Property ".toList ++ '\'' :: (prop' ++ '\'' :: (" is missing in type".toList ++ rest)) := by
    simpa [hv] using hprop'
  obtain ⟨-, hrest⟩ := eq_of_append_first hfree (by decide) hsplit
  exact prefix_of_stop (by decide) ⟨v₂, hrest⟩

/-! ## Source locations -/

/-- What follows an optional mark of a source extension. -/
theorem exists_mark (cs : List Char) : ∃ mark ∈ [[], ['c'], ['m']],
    cs = mark ++ match cs with
      | c :: r => if c == 'c' || c == 'm' then r else cs
      | [] => cs := by
  cases cs with
  | nil => exact ⟨[], by simp, rfl⟩
  | cons c r =>
    dsimp only
    split
    · next hc =>
      rw [Bool.or_eq_true, beq_iff_eq, beq_iff_eq] at hc
      rcases hc with rfl | rfl
      · exact ⟨['c'], by simp, rfl⟩
      · exact ⟨['m'], by simp, rfl⟩
    · exact ⟨[], by simp, rfl⟩

theorem locationHere?_eq_some {cs digits : List Char} (h : locationHere? cs = some digits) : LocationAt cs digits := by
  simp only [locationHere?, Option.bind_eq_bind, Option.bind_eq_some_iff, after?_eq_some] at h
  obtain ⟨cs', rfl, h⟩ := h
  obtain ⟨mark, hmark, hcs'⟩ := exists_mark cs'
  split at h
  · next kind after hr =>
    have hkinds : cs' = mark ++ kind :: 's' :: after := hcs'.trans (congrArg (mark ++ ·) hr)
    split at h
    · next hkind =>
      simp only [Option.bind_eq_some_iff, after?_eq_some] at h
      obtain ⟨location, hopt, ⟨digits', _⟩, hdigits, rest, rfl, ⟨column, more⟩, hcolumn, hresult⟩ := h
      obtain rfl := Option.some.inj hresult
      obtain ⟨x, hx, rfl⟩ := getD_after? hopt
      obtain ⟨rfl, hne, hall, -⟩ := run?_eq_some hdigits
      obtain ⟨rfl, hne', hall', -⟩ := run?_eq_some hcolumn
      obtain ⟨d, column, rfl⟩ := List.exists_cons_of_ne_nil hne'
      refine ⟨mark, hmark, kind, ?_, x, hx, d, column ++ more, hne, hall, hall' d (List.mem_cons_self ..), ?_⟩
      · simpa using hkind
      · rw [hkinds]
        rfl
    · cases h
  · cases h

/-- A source location is read behind its extension, whichever it is. -/
theorem locationHere?_extension {mark : List Char} {kind : Char} (hmark : mark ∈ [[], ['c'], ['m']])
    (hkind : kind ∈ ['j', 't']) (tail : List Char) : locationHere? ('.' :: (mark ++ kind :: 's' :: tail)) =
      (after? [':'] ((after? ['x'] tail).getD tail)).bind fun rest => (run? isDecimalDigit rest).bind fun line =>
        (after? [':'] line.2).bind fun rest => (run? isDecimalDigit rest).bind fun _ => some line.1 := by
  simp only [List.mem_cons, List.not_mem_nil, or_false] at hmark hkind
  rcases hmark with rfl | rfl | rfl <;> rcases hkind with rfl | rfl <;> rfl

theorem locationHere?_location {mark x digits rest : List Char} {kind column : Char} (hmark : mark ∈ [[], ['c'], ['m']])
    (hkind : kind ∈ ['j', 't']) (hx : x ∈ [[], ['x']]) (hne : digits ≠ [])
    (hdigits : ∀ d ∈ digits, isDecimalDigit d = true) (hcolumn : isDecimalDigit column = true) :
    locationHere? ('.' :: (mark ++ kind :: 's' :: (x ++ ':' :: (digits ++ ':' :: column :: rest)))) = some digits := by
  have hline : run? isDecimalDigit (digits ++ ':' :: column :: rest) = some (digits, ':' :: column :: rest) :=
    run?_append hne hdigits (by rw [List.head?_cons, Option.all_some]; decide)
  have hmore : ∃ more, run? isDecimalDigit (column :: rest) = some more := by
    rw [run?, List.takeWhile_cons_of_pos hcolumn]
    exact ⟨_, rfl⟩
  obtain ⟨more, hmore⟩ := hmore
  have hnotx : ¬ ['x'] <+: ':' :: (digits ++ ':' :: column :: rest) := by
    rintro ⟨_, h⟩
    cases h
  rw [locationHere?_extension hmark hkind, getD_after?_append hx hnotx]
  simp only [after?, beq_self_eq_true, if_true, Option.bind_some, hline, hmore]

theorem locationHere?_iff {cs digits : List Char} : locationHere? cs = some digits ↔ LocationAt cs digits := by
  constructor
  · exact locationHere?_eq_some
  · rintro ⟨mark, hmark, kind, hkind, x, hx, column, rest, hne, hdigits, hcolumn, rfl⟩
    exact locationHere?_location hmark hkind hx hne hdigits hcolumn

/-- A line of output tells one line number at most. -/
theorem lineOf_iff {line : List Char} {l : Option Int} :
    LineOf line l ↔ l = (location? line).map fun digits => (decimalValue digits : Int) := by
  have hsome : ∀ {digits}, location? line = some digits ↔ FirstAt LocationAt line digits :=
    findFirst?_eq_some locationHere?_iff
  have hnone : location? line = none ↔ ∀ v, v <:+ line → ∀ digits, ¬ LocationAt v digits :=
    findFirst?_eq_none locationHere?_iff
  constructor
  · rintro (hfirst | hno)
    · rw [hsome.2 hfirst, Option.map_some]
    · rw [hnone.2 hno, Option.map_none]
  · rintro rfl
    cases hlocation : location? line with
    | none => exact .untold (hnone.1 hlocation)
    | some digits => exact .told (hsome.1 hlocation)

end Suitewright
