/-
  Rules for quotes and imports, applied twice.

  * `Entangled`: texts in which attributes with a second pair of quotes overlap; `stripDoubleQuotes_again`: on other
    texts the rule for quotes changes nothing when it is applied again;
  * `defaultImport_again`: the rule for symbols that are not exported never does;
  * `quotes_imports_idempotent`: when the rules for quotes and imports change nothing when they are applied again.
-/
import Suitewright.Proofs.Repair.DefaultImport
import Suitewright.Proofs.Repair.Openings
import Suitewright.Proofs.Repair.Redirected
import Suitewright.Proofs.Text.Replaced

namespace Suitewright

open Text

/-! ## Quotes -/

/-- An attribute value with a second pair of quotes. -/
def twiceQuoted (value : List Char) : List Char := '=' :: '"' :: '\'' :: (value ++ ['\'', '"'])

theorem doubleQuoted?_eq_some {cs a rest : List Char} (h : doubleQuoted? cs = some (a, rest)) :
    ∃ value, value ≠ [] ∧ '\'' ∉ value ∧ cs = twiceQuoted value ++ rest ∧ a = '=' :: '"' :: (value ++ ['"']) := by
  simp only [doubleQuoted?, Option.bind_eq_bind, Option.bind_eq_some_iff] at h
  obtain ⟨cs', hopen, ⟨value, r⟩, hvalue, rest', hclose, heq⟩ := h
  obtain ⟨rfl, rfl⟩ := Prod.mk.inj (Option.some.inj heq)
  obtain ⟨rfl, hne, hquote⟩ := upTo?_eq_some hvalue
  refine ⟨value, hne, hquote, ?_, rfl⟩
  have hrest : r = '"' :: rest' := after?_eq_some.1 hclose
  rw [after?_eq_some.1 hopen, hrest, twiceQuoted]
  simp

theorem doubleQuoted?_twiceQuoted {value : List Char} (hne : value ≠ []) (hquote : '\'' ∉ value) (rest : List Char) :
    doubleQuoted? (twiceQuoted value ++ rest) = some ('=' :: '"' :: (value ++ ['"']), rest) := by
  have hparts : twiceQuoted value ++ rest = "=\"'".toList ++ (value ++ '\'' :: '"' :: rest) := by simp [twiceQuoted]
  rw [doubleQuoted?, hparts, after?_append]
  simp only [Option.bind_eq_bind, Option.bind_some]
  rw [upTo?_append hne hquote]
  rfl

theorem doubleQuoted?_consumes : Consumes fun _ => doubleQuoted? := by
  intro _ cs a rest h
  obtain ⟨value, -, -, hcs, -⟩ := doubleQuoted?_eq_some h
  exact ⟨_, List.cons_ne_nil _ _, hcs⟩

/-- Two attributes with a second pair of quotes of which one begins in the value of the other, or with the quotes that
end the other. -/
def Entangled (source : List Char) : Prop :=
  (∃ front, '\'' ∉ front ∧ twiceQuoted (front ++ ['=']) ++ ['\''] <:+: source) ∨
    ∃ front value, '\'' ∉ front ∧ value ≠ [] ∧ '\'' ∉ value ∧
      '=' :: '"' :: '\'' :: (front ++ twiceQuoted value) <:+: source

theorem Entangled.append {u v : List Char} (h : Entangled v) : Entangled (u ++ v) := by
  have hv : v <:+: u ++ v := (List.suffix_append u v).isInfix
  exact h.imp (fun ⟨value, hquote, hin⟩ => ⟨value, hquote, hin.trans hv⟩)
    fun ⟨front, value, hfront, hne, hquote, hin⟩ => ⟨front, value, hfront, hne, hquote, hin.trans hv⟩

section
variable {c : Char} {cs w rest a out : List Char}

/-- No attribute with a second pair of quotes begins at a character that was kept. -/
theorem doubleQuoted?_keep (hcs : ¬ Entangled (c :: cs)) (hnone : doubleQuoted? (c :: cs) = none)
    (h : Replaced (fun _ => doubleQuoted?) (some c) cs out) : doubleQuoted? (c :: out) = none := by
  cases hout : doubleQuoted? (c :: out) with
  | none => rfl
  | some found =>
    obtain ⟨a, r⟩ := found
    obtain ⟨value, hne, hquote, heq, -⟩ := doubleQuoted?_eq_some hout
    obtain ⟨rfl, rfl⟩ := List.cons.inj heq
    exfalso
    rcases h.split with ⟨cs', rfl, -⟩ | ⟨u₁, u₂, w, rest, a', out', hu, hu₂, rfl, -, hmatch, hsplit, -⟩
    · have hsome := doubleQuoted?_twiceQuoted hne hquote cs'
      rw [twiceQuoted, List.cons_append, hnone] at hsome
      cases hsome
    -- a replacement begins with an equals sign, which stands in the value
    obtain ⟨value', hne', hquote', hw, rfl⟩ := doubleQuoted?_eq_some hmatch
    have hhead : u₂.head? = some '=' := by
      obtain ⟨d, u₂, rfl⟩ := List.exists_cons_of_ne_nil hu₂
      rw [List.head?_cons, (List.cons.inj hsplit).1]
    obtain ⟨front, rfl, hvalue⟩ := split_behind (u := ['"', '\'']) hu.symm hhead (by decide)
    obtain ⟨t, rfl, rfl⟩ := split_before hvalue.symm hhead (by decide)
    refine hcs (Or.inr ⟨front, value', fun hmem => hquote (List.mem_append_left _ hmem), hne', hquote', ?_⟩)
    rw [hw]
    exact ⟨[], rest, by simp⟩

/-- No attribute with a second pair of quotes begins in a replacement. -/
theorem doubleQuoted?_swap (hcs : ¬ Entangled (w ++ rest)) (hmatch : doubleQuoted? (w ++ rest) = some (a, rest))
    (h : Replaced (fun _ => doubleQuoted?) w.getLast? rest out) {a₁ a₂ : List Char} (ha : a = a₁ ++ a₂) (hne : a₂ ≠ []) :
    doubleQuoted? (a₂ ++ out) = none := by
  cases hout : doubleQuoted? (a₂ ++ out) with
  | none => rfl
  | some found =>
    obtain ⟨a', r⟩ := found
    obtain ⟨value', hne', hquote', heq', -⟩ := doubleQuoted?_eq_some hout
    obtain ⟨value, hvalue, hquote, hw, rfl⟩ := doubleQuoted?_eq_some hmatch
    exfalso
    obtain ⟨d, a₂, rfl⟩ := List.exists_cons_of_ne_nil hne
    obtain ⟨rfl, htail⟩ := List.cons.inj heq'
    cases a₁ with
    | nil =>
      -- the whole replacement: its value does not begin with a quote
      obtain ⟨e, value, rfl⟩ := List.exists_cons_of_ne_nil hvalue
      obtain rfl := (List.cons.inj ha).2
      obtain ⟨rfl, -⟩ := List.cons.inj (List.cons.inj htail).2
      exact hquote (by simp)
    | cons e a₁ =>
      obtain ⟨front, rfl, hfront⟩ := split_behind (u := ['"']) (List.cons.inj ha).2.symm rfl (by decide)
      obtain ⟨t, ht, rfl⟩ := split_before hfront.symm rfl (by decide)
      cases t with
      | nil => cases ht
      | cons f t =>
        obtain ⟨rfl, rfl⟩ := List.cons.inj ht
        match t, htail with
        | [], htail =>
          -- the value ends with an equals sign, and a quote follows the replacement
          obtain ⟨-, rfl⟩ := List.cons.inj htail
          refine hcs (Or.inl ⟨front, fun hmem => hquote (by simp [hmem]), ?_⟩)
          rw [hw]
          rcases Replaced.split (u := ['\'']) h with ⟨cs', rfl, -⟩ | ⟨u₁, u₂, _, _, _, _, hu, hu₂, -, -, hmatch', hsplit, -⟩
          · exact ⟨[], cs', by simp⟩
          · obtain ⟨_, -, -, -, rfl⟩ := doubleQuoted?_eq_some hmatch'
            obtain ⟨g, u₂, rfl⟩ := List.exists_cons_of_ne_nil hu₂
            obtain rfl := (List.cons.inj hsplit).1
            exact absurd (hu ▸ List.mem_append_right u₁ List.mem_cons_self : '=' ∈ ['\'']) (by decide)
        | [g], htail => cases (List.cons.inj (List.cons.inj htail).2).1
        | g :: g' :: t, htail =>
          obtain ⟨rfl, -⟩ := List.cons.inj (List.cons.inj htail).2
          exact hquote (by simp)

end

/-- On texts without entangled attributes the rule for quotes changes nothing when it is applied again. -/
theorem stripDoubleQuotes_again {source : List Char} (h : ¬ Entangled source) :
    stripDoubleQuotes (stripDoubleQuotes source) = stripDoubleQuotes source := by
  refine Replaced.again (P := fun cs => ¬ Entangled cs) (fun h hv => h hv.append) doubleQuoted?_keep ?_ h
    (replaced_replaceAll doubleQuoted?_consumes source)
  intro before w rest a out hcs hmatch _ h
  obtain ⟨value, -, -, -, rfl⟩ := doubleQuoted?_eq_some hmatch
  exact ⟨List.cons_ne_nil _ _, rfl, Or.inr fun a₁ a₂ ha hne => doubleQuoted?_swap hcs hmatch h ha hne⟩

/-! ## Symbols that are not exported -/

section
variable {symbol : List Char}

theorem importEnd?_eq_some {cs r : List Char} (h : importEnd? cs = some r) :
    ∃ front blanks, '\x7d' ∉ front ∧ blanks.all isBlank = true ∧ cs = front ++ '\x7d' :: (blanks ++ ("from".toList ++ r)) := by
  simp only [importEnd?, Option.bind_eq_bind, Option.bind_eq_some_iff] at h
  obtain ⟨cs', hbrace, hfrom⟩ := h
  refine ⟨cs.takeWhile (· != '\x7d'), cs'.takeWhile isBlank, fun hmem => ?_, List.all_takeWhile, ?_⟩
  · have := List.all_eq_true.1 List.all_takeWhile _ hmem
    simp at this
  · have hdrop : cs.dropWhile (· != '\x7d') = '\x7d' :: cs' := after?_eq_some.1 hbrace
    have hskip : cs'.dropWhile isBlank = "from".toList ++ r := after?_eq_some.1 hfrom
    rw [← hskip, List.takeWhile_append_dropWhile, ← hdrop, List.takeWhile_append_dropWhile]

theorem symbolHere?_eq_some {before : Option Char} {cs r : List Char} (hsymbol : '\x7d' ∉ symbol)
    (h : symbolHere? symbol before cs = some r) :
    ∃ front blanks, '\x7d' ∉ front ∧ blanks.all isBlank = true ∧ cs = front ++ '\x7d' :: (blanks ++ ("from".toList ++ r)) := by
  rw [symbolHere?] at h
  split at h
  · split at h
    · next rest hafter =>
      split at h
      · obtain ⟨front, blanks, hfront, hblanks, rfl⟩ := importEnd?_eq_some h
        refine ⟨symbol ++ front, blanks, fun hmem => ?_, hblanks, ?_⟩
        · exact (List.mem_append.1 hmem).elim hsymbol hfront
        · rw [after?_eq_some.1 hafter, List.append_assoc]
      · cases h
    · cases h
  · cases h

/-- What is left after an import of names comes after its closing brace and `from`. -/
theorem symbolInBraces?_eq_some {before : Option Char} {cs r : List Char} (hsymbol : '\x7d' ∉ symbol)
    (h : symbolInBraces? symbol before cs = some r) :
    ∃ front blanks, '\x7d' ∉ front ∧ blanks.all isBlank = true ∧ cs = front ++ '\x7d' :: (blanks ++ ("from".toList ++ r)) := by
  induction cs generalizing before with
  | nil => exact symbolHere?_eq_some hsymbol h
  | cons c cs ih =>
    rw [symbolInBraces?, Option.or_eq_some_iff] at h
    rcases h with h | ⟨-, h⟩
    · split at h
      · cases h
      · next hc =>
        obtain ⟨front, blanks, hfront, hblanks, rfl⟩ := ih h
        refine ⟨c :: front, blanks, fun hmem => ?_, hblanks, rfl⟩
        rcases List.mem_cons.1 hmem with rfl | hmem
        · exact hc rfl
        · exact hfront hmem
    · exact symbolHere?_eq_some hsymbol h

/-- More names before a symbol do not hide it. -/
theorem symbolInBraces?_isSome {before : Option Char} {u v : List Char} (hu : '\x7d' ∉ u)
    (h : (symbolInBraces? symbol (u.getLast?.or before) v).isSome = true) :
    (symbolInBraces? symbol before (u ++ v)).isSome = true := by
  induction u generalizing before with
  | nil => exact h
  | cons c u ih =>
    have hc : ¬ (c == '\x7d') = true := fun e => hu (by simp [beq_iff_eq.1 e])
    rw [← getLast?_or_cons] at h
    rw [List.cons_append, symbolInBraces?, if_neg hc, Option.isSome_or, ih (fun hmem => hu (by simp [hmem])) h,
      Bool.true_or]

theorem toDefault_consumes (hsymbol : '\x7d' ∉ symbol) (text : List Char) : Consumes fun _ => toDefault text symbol := by
  intro _ cs a rest h
  obtain ⟨rest', himport, heq⟩ := Option.map_eq_some_iff.1 h
  obtain ⟨-, rfl⟩ := Prod.mk.inj heq
  obtain ⟨blanks, v, -, rfl, hv⟩ := namedImportOf?_eq_some himport
  obtain ⟨front, z, -, -, rfl⟩ := symbolInBraces?_eq_some hsymbol hv
  exact ⟨"import".toList ++ (blanks ++ '\x7b' :: (front ++ '\x7d' :: (z ++ "from".toList))), List.cons_ne_nil _ _, by simp⟩

variable {c : Char} {cs w rest out : List Char}

/-- Whether an import names the symbol does not depend on what comes after it. -/
theorem namedImportOf?_isSome_congr {blanks content z : List Char} (hsymbol : '\x7d' ∉ symbol)
    (hblanks : blanks.all isBlank = true) (hcontent : '\x7d' ∉ content) (hz : z.all isBlank = true) (r r' : List Char) :
    (namedImportOf? symbol ("import".toList ++ (blanks ++ '\x7b' :: (content ++ '\x7d' :: (z ++ ("from".toList ++ r)))))).isSome =
      (namedImportOf? symbol ("import".toList ++
        (blanks ++ '\x7b' :: (content ++ '\x7d' :: (z ++ ("from".toList ++ r')))))).isSome := by
  have hfrom : ∀ r, after? "from".toList (skipBlanks (z ++ ("from".toList ++ r))) = some r := fun r => by
    rw [skipBlanks, List.dropWhile_append_of_pos fun c hc => List.all_eq_true.1 hz c hc]
    rfl
  rw [namedImportOf?_append hblanks, namedImportOf?_append hblanks, symbolInBraces?_content hsymbol hcontent,
    symbolInBraces?_content hsymbol hcontent, hfrom, hfrom]
  split <;> rfl

/-- An import whose braces go on to another import names the symbol when the other one does. -/
theorem namedImportOf?_isSome_of_inner {blanks front w : List Char} (hblanks : blanks.all isBlank = true)
    (hfront : '\x7d' ∉ front) (hw : (namedImportOf? symbol w).isSome = true) :
    (namedImportOf? symbol ("import".toList ++ (blanks ++ '\x7b' :: (front ++ w)))).isSome = true := by
  obtain ⟨r, hr⟩ := Option.isSome_iff_exists.1 hw
  obtain ⟨blanks', v, hblanks', rfl, hv⟩ := namedImportOf?_eq_some hr
  have hinner : '\x7d' ∉ front ++ ("import".toList ++ blanks') ++ ['\x7b'] := by
    have hblank : '\x7d' ∉ blanks' := not_mem_of_class hblanks' (by decide)
    simp [hfront, hblank]
  have hparts : front ++ ("import".toList ++ (blanks' ++ '\x7b' :: v)) =
      (front ++ ("import".toList ++ blanks') ++ ['\x7b']) ++ v := by simp
  rw [namedImportOf?_append hblanks, hparts]
  refine symbolInBraces?_isSome hinner ?_
  rw [List.getLast?_concat, Option.some_or, hv]
  rfl

/-- No import of names begins at a character that was kept: one that begins there and goes on to a replaced import
held the symbol before. -/
theorem namedImportOf?_keep (hsymbol : '\x7d' ∉ symbol) (hnone : namedImportOf? symbol (c :: cs) = none)
    (h : Replaced (fun _ => toDefault (defaultText symbol) symbol) (some c) cs out) :
    namedImportOf? symbol (c :: out) = none := by
  cases hout : namedImportOf? symbol (c :: out) with
  | none => rfl
  | some r =>
    obtain ⟨blanks, v, hblanks, heq, hv⟩ := namedImportOf?_eq_some hout
    obtain ⟨content, z, hcontent, hz, rfl⟩ := symbolInBraces?_eq_some hsymbol hv
    exfalso
    have himport : "import".toList = 'i' :: "mport".toList := rfl
    have hparts : c :: out = 'i' :: ("mport".toList ++ (blanks ++ ['\x7b']) ++ (content ++ ('\x7d' :: (z ++ "from".toList))) ++ r) := by
      rw [heq, himport]
      simp
    obtain ⟨rfl, rfl⟩ := List.cons.inj hparts
    rcases h.split with ⟨cs', rfl, -⟩ | ⟨u₁, u₂, w, rest, a, out', hu, hu₂, rfl, -, hmatch, hsplit, -⟩
    · -- the whole import was kept
      have hkept : 'i' :: ("mport".toList ++ (blanks ++ ['\x7b']) ++ (content ++ ('\x7d' :: (z ++ "from".toList))) ++ cs') =
          "import".toList ++ (blanks ++ '\x7b' :: (content ++ '\x7d' :: (z ++ ("from".toList ++ cs')))) := by
        rw [himport]
        simp
      have hsame := namedImportOf?_isSome_congr hsymbol hblanks hcontent hz r cs'
      rw [← heq, hout, ← hkept, hnone] at hsame
      cases hsame
    · -- its braces go on to a replaced import
      obtain ⟨found, hinner, hfound⟩ := Option.map_eq_some_iff.1 hmatch
      obtain ⟨rfl, rfl⟩ := Prod.mk.inj hfound
      have hhead : u₂.head? = some 'i' := by
        obtain ⟨d, u₂, rfl⟩ := List.exists_cons_of_ne_nil hu₂
        rw [List.head?_cons, (List.cons.inj hsplit).1]
        rfl
      obtain ⟨front, rfl, hu'⟩ := split_behind hu.symm hhead (by simpa using not_mem_of_class hblanks rfl)
      obtain ⟨t, rfl, rfl⟩ := split_before hu'.symm hhead (by simpa using not_mem_of_class hz rfl)
      have hfront : '\x7d' ∉ front := fun hmem => hcontent (List.mem_append_left _ hmem)
      have hkept : 'i' :: ("mport".toList ++ (blanks ++ ['\x7b']) ++ front ++ (w ++ found)) =
          "import".toList ++ (blanks ++ '\x7b' :: (front ++ (w ++ found))) := by
        rw [himport]
        simp
      have hsome := namedImportOf?_isSome_of_inner hblanks hfront (Option.isSome_of_mem hinner)
      rw [← hkept, hnone] at hsome
      cases hsome

/-- A word before `from` does not begin an import of names. -/
theorem word_from_ne {x blanks v t : List Char} (hx : x.all isWordChar = true) (hblanks : blanks.all isBlank = true) :
    x ++ ' ' :: 'f' :: t ≠ "import".toList ++ (blanks ++ '\x7b' :: v) := by
  have hblank : ∀ c, isBlank c = true → isWordChar c = false := fun c hc => Bool.eq_false_iff.2 fun hw => by
    rw [isBlank_of_isNameChar (by rw [isNameChar, hw, Bool.or_true])] at hc
    cases hc
  intro heq
  cases blanks with
  | nil =>
    obtain ⟨-, h, -⟩ := eq_of_append_class hx (by decide) (by decide) (by decide) heq
    cases h
  | cons d blanks =>
    rw [List.all_cons, Bool.and_eq_true] at hblanks
    obtain ⟨-, -, h⟩ := eq_of_append_class hx (by decide) (by decide) (hblank d hblanks.1) heq
    obtain ⟨-, h, -⟩ := eq_of_append_class (u := []) rfl hblanks.2 (by decide) (by decide) h
    cases h

/-- No import of names begins in the import of a default. -/
theorem namedImportOf?_swap (hsymbol : IsWord symbol) {a₁ a₂ : List Char} (ha : defaultText symbol = a₁ ++ a₂)
    (hne : a₂ ≠ []) : namedImportOf? symbol (a₂ ++ out) = none := by
  cases hout : namedImportOf? symbol (a₂ ++ out) with
  | none => rfl
  | some r =>
    obtain ⟨blanks, v, hblanks, heq, -⟩ := namedImportOf?_eq_some hout
    exfalso
    have hhead : a₂.head? = some 'i' := by
      obtain ⟨d, a₂, rfl⟩ := List.exists_cons_of_ne_nil hne
      rw [List.head?_cons, (List.cons.inj heq).1]
      rfl
    have hfrom : 'i' ∉ " from".toList := by decide
    have hparts : a₁ ++ a₂ = ("import ".toList ++ symbol) ++ " from".toList :=
      ha.symm.trans (List.append_assoc _ _ _).symm
    obtain ⟨x, rfl, hx⟩ := split_before hparts hhead hfrom
    have himport : "import ".toList = "import".toList ++ [' '] := rfl
    have hspace : " from".toList = ' ' :: 'f' :: "rom".toList := rfl
    rw [List.append_assoc, hspace] at heq
    have hnot : ¬ x.all isWordChar = true := fun h => word_from_ne h hblanks heq
    rcases List.append_eq_append_iff.1 hx with ⟨x', rfl, hx'⟩ | ⟨x', hx', rfl⟩
    · -- from the symbol on
      have hall := hsymbol.2
      rw [hx', List.all_append, Bool.and_eq_true] at hall
      exact hnot hall.2
    · -- from `import` on: the symbol is no brace
      cases x' with
      | nil => exact hnot hsymbol.2
      | cons d x' =>
        obtain rfl : d = 'i' := by simpa using hhead
        cases a₁ with
        | nil =>
          rw [← show "import ".toList = 'i' :: x' from hx', himport, List.append_assoc, List.append_assoc] at heq
          obtain ⟨e, symbol, rfl⟩ := List.exists_cons_of_ne_nil hsymbol.1
          have he : isWordChar e = true := List.all_eq_true.1 hsymbol.2 e (by simp)
          have hblank : isBlank e = false := isBlank_of_isNameChar (by rw [isNameChar, he, Bool.or_true])
          obtain ⟨-, rfl, -⟩ := eq_of_append_class (u := [' ']) (by decide) hblanks hblank (by decide)
            (List.append_cancel_left heq)
          exact absurd he (by decide)
        | cons c a₁ =>
          have htail : "mport ".toList = a₁ ++ 'i' :: x' := (List.cons.inj hx').2
          have hnone : 'i' ∉ "mport ".toList := by decide
          exact hnone (htail ▸ List.mem_append_right _ List.mem_cons_self)

end

/-- The rule for symbols that are not exported changes nothing when it is applied again. -/
theorem defaultImport_again {symbol : String} (hsymbol : IsWord symbol.toList) (source : List Char) :
    ∃ revised, defaultImport symbol source = .ok revised ∧ defaultImport symbol revised = .ok revised := by
  have hbrace : '\x7d' ∉ symbol.toList := not_mem_of_class hsymbol.2 (by decide)
  have hslash : '\\' ∉ symbol.toList := not_mem_of_class hsymbol.2 (by decide)
  refine ⟨_, defaultImport_eq hslash source, ?_⟩
  rw [defaultImport_eq hslash]
  congr 1
  refine Replaced.again (P := fun _ => True) (fun _ => trivial) ?_ ?_ trivial
    (replaced_replaceAll (toDefault_consumes hbrace _) source)
  · intro before c cs out _ hnone h
    rw [toDefault, Option.map_eq_none_iff] at hnone ⊢
    exact namedImportOf?_keep hbrace hnone h
  · intro before w rest a out _ hmatch _ _
    obtain ⟨rest', -, heq⟩ := Option.map_eq_some_iff.1 hmatch
    obtain ⟨rfl, rfl⟩ := Prod.mk.inj heq
    refine ⟨List.cons_ne_nil _ _, rfl, Or.inr fun a₁ a₂ ha hne => ?_⟩
    rw [toDefault, Option.map_eq_none_iff]
    exact namedImportOf?_swap hsymbol ha hne

/-! ## Signals -/

/-- The rule of a signal gives a suite, and changes nothing when it is applied to it again. -/
def Signal.Idempotent (s : Signal) (m : Component) (path source : String) : Prop :=
  ∃ revised, s.mend source m path = .ok revised ∧ s.mend revised m path = .ok revised

theorem Signal.Idempotent.of_chars {s : Signal} {m : Component} {path source : String} {revised : List Char}
    (h : s.mendChars m path source.toList = .ok revised) (hagain : s.mendChars m path revised = .ok revised) :
    s.Idempotent m path source := by
  refine ⟨.ofList revised, ?_, ?_⟩
  · rw [mend, h]
    rfl
  · rw [mend, String.toList_ofList, hagain]
    rfl

/-- The rules for quotes and imports change nothing when they are applied again: the one for quotes on texts without
entangled attributes, the one for modules where no line imports the module and names it once more, and the one for
symbols always. -/
theorem quotes_imports_idempotent (m : Component) (path source : String) :
    (¬ Entangled source.toList → Signal.quotedLiteral.Idempotent m path source) ∧
    (∀ module, Unquoted module.toList → ¬ ImportsAgain module.toList source.toList →
      HoldsWhole module.toList (Json.quote (importPath path)).toList →
      (Signal.unresolvedImport module).Idempotent m path source) ∧
    ∀ symbol, IsWord symbol.toList → (Signal.namedImportMissing symbol).Idempotent m path source := by
  refine ⟨fun h => .of_chars rfl ?_, fun module hmodule hsource htarget => .of_chars rfl ?_, fun symbol hsymbol => ?_⟩
  · rw [Signal.mendChars, stripDoubleQuotes_again h]
  · rw [Signal.mendChars, redirectImport_again hmodule hsource htarget]
  · obtain ⟨revised, hrevised, hagain⟩ := defaultImport_again hsymbol source.toList
    exact .of_chars hrevised hagain

/-- A suite with an import and an attribute that the rules change. -/
def widgetSuite : String := "import \x7b Button \x7d from \"./widgets/Button\";\nrender(<Button label=\"'b'\" />);\n"

theorem quotes_imports_idempotent_widget :
    Signal.quotedLiteral.Idempotent plainButton "src/Button.tsx" widgetSuite ∧
    (Signal.unresolvedImport "./widgets/Button").Idempotent plainButton "src/Button.tsx" widgetSuite ∧
    (Signal.namedImportMissing "Button").Idempotent plainButton "src/Button.tsx" widgetSuite := by
  obtain ⟨hquotes, hmodules, hsymbols⟩ := quotes_imports_idempotent plainButton "src/Button.tsx" widgetSuite
  refine ⟨hquotes ?_, hmodules _ (by decide) ?_ ?_, hsymbols _ (by unfold IsWord; decide)⟩
  · -- entangled attributes hold three single quotes
    have hcount : widgetSuite.toList.count '\'' = 2 := by decide
    rintro (⟨front, -, hin⟩ | ⟨front, value, -, -, -, hin⟩)
    · have := hin.sublist.count_le '\''
      simp [twiceQuoted, List.count_append, hcount] at this
    · have := hin.sublist.count_le '\''
      simp [twiceQuoted, List.count_append, hcount] at this
      omega
  · -- the name of the directory stands in the suite only once
    have hcount : widgetSuite.toList.count 'w' = 1 := by decide
    rintro ⟨names, blanks, q, y, z, q', -, -, -, -, -, -, hin⟩
    have := hin.sublist.count_le 'w'
    rw [hcount] at this
    simp [List.count_append, List.count_cons] at this
    omega
  · -- the other module does not name the directory
    intro q _ hin
    have hmem : 'w' ∈ (Json.quote (importPath "src/Button.tsx")).toList :=
      hin.subset (List.mem_cons_of_mem _ (List.mem_append_left _ (by decide)))
    exact absurd hmem (by decide)

end Suitewright
