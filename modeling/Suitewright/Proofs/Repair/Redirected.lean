/-
  Redirecting the imports of a module twice.

  * `importOf?_eq_some`, `importOf?_isSome`: where an import of a module is found;
  * `module_kept`: a module that stands in the result of redirecting stood there before;
  * `no_earlier_module`, `no_later_module`: no module stands after `from` before or behind a redirected import;
  * `ImportsAgain`: lines that import a module and name it once more; `redirectImport_again`: on texts without them the
    rule changes nothing when it is applied again.

  The rule looks at one import of each line only, so that on other lines it goes on with the next one.
-/
import Suitewright.Proofs.Repair.Redirect
import Suitewright.Proofs.Text.Replaced
import Suitewright.Proofs.Text.Tame

namespace Suitewright

open Text

/-- The quotes that a module may stand between. -/
def isModuleQuote (c : Char) : Bool := c == '"' || c == '\''

theorem isModuleQuote_ne {q c : Char} (hq : isModuleQuote q = true) (hc : isModuleQuote c = false) : c ≠ q := by
  rintro rfl
  rw [hq] at hc
  cases hc

/-! ## Where an import of a module is found -/

/-- What stands between `import` and a quoted module: names on one line, `from` and blanks. -/
structure ImportsBy (names blanks : List Char) (q : Char) : Prop where
  line : '\n' ∉ names
  blanks : blanks.all isBlank = true
  quote : isModuleQuote q = true
  start : atWordEdge (some 't') (names ++ "from".toList).head? = true
  edge : atWordEdge (names.getLast?.or (some 't')) (some 'f') = true

theorem ImportsBy.not_blank {names blanks : List Char} {q : Char} (h : ImportsBy names blanks q) : isBlank q = false := by
  rcases Bool.or_eq_true_iff.1 h.quote with h | h <;> rw [beq_iff_eq.1 h] <;> rfl

section
variable {module names blanks target cs rest a text : List Char} {q : Char} {before : Option Char}

theorem fromModule?_isSome (hblanks : blanks.all isBlank = true) (hq : isModuleQuote q = true) :
    (fromModule? module ("from".toList ++ (blanks ++ q :: (module ++ q :: rest)))).isSome = true := by
  have hqblank : isBlank q = false := by
    rcases Bool.or_eq_true_iff.1 hq with h | h <;> rw [beq_iff_eq.1 h] <;> rfl
  have hskip : skipBlanks (blanks ++ q :: (module ++ q :: rest)) = q :: (module ++ q :: rest) := by
    rw [skipBlanks, List.dropWhile_append_of_pos fun c hc => List.all_eq_true.1 hblanks c hc,
      List.dropWhile_cons_of_neg (by simp [hqblank])]
  rw [fromModule?, after?_append]
  simp only [Option.bind_eq_bind, Option.bind_some, hskip]
  rw [if_pos (show (q == '"' || q == '\'') = true from hq), after?_append]
  simp [after?]

/-- The first module on a line stands after names on this line, `from` and blanks. -/
theorem fromOnLine?_eq_some (h : fromOnLine? module before cs = some (text, rest)) :
    ∃ names blanks q, '\n' ∉ names ∧ blanks.all isBlank = true ∧ isModuleQuote q = true ∧
      cs = names ++ ("from".toList ++ (blanks ++ q :: (module ++ q :: rest))) ∧ text = names ++ ("from".toList ++ blanks) ∧
      atWordEdge (names.getLast?.or before) (some 'f') = true ∧
      ∀ u v, names = u ++ v → v ≠ [] → atWordEdge (u.getLast?.or before) v.head? = true →
        fromModule? module (v ++ ("from".toList ++ (blanks ++ q :: (module ++ q :: rest)))) = none := by
  induction cs generalizing before text with
  | nil => cases h
  | cons c cs ih =>
    rw [fromOnLine?] at h
    split at h
    · next found hfound =>
      split at hfound
      · next hedge =>
        obtain ⟨blanks, q, rest', hblanks, hq, hcs, hfound⟩ := fromModule?_eq_some hfound
        obtain ⟨rfl, rfl⟩ := Prod.mk.inj ((Option.some.inj h).symm.trans hfound)
        refine ⟨[], blanks, q, List.not_mem_nil, hblanks, hq, hcs, rfl, ?_, fun u v huv hv => ?_⟩
        · rw [(List.cons.inj hcs).1] at hedge
          exact hedge
        · exact absurd (List.append_eq_nil_iff.1 huv.symm).2 hv
      · cases hfound
    · next hnone =>
      split at h
      · cases h
      · next hc =>
        obtain ⟨⟨text', rest'⟩, hlater, heq⟩ := Option.map_eq_some_iff.1 h
        obtain ⟨rfl, rfl⟩ := Prod.mk.inj heq
        obtain ⟨names, blanks, q, hline, hblanks, hq, rfl, rfl, hedge, hfirst⟩ := ih hlater
        refine ⟨c :: names, blanks, q, ?_, hblanks, hq, rfl, rfl, ?_, fun u v huv hv huv' => ?_⟩
        · rintro (_ | ⟨_, hmem⟩)
          · exact hc rfl
          · exact hline hmem
        · rw [← getLast?_or_cons]
          exact hedge
        · cases u with
          | nil =>
            obtain rfl : c :: names = v := huv
            rw [if_pos (show atWordEdge before (some c) = true from huv')] at hnone
            exact hnone
          | cons d u =>
            obtain ⟨rfl, rfl⟩ := List.cons.inj huv
            rw [← getLast?_or_cons] at huv'
            exact hfirst u v rfl hv huv'

theorem fromOnLine?_isSome (hline : '\n' ∉ names) (hblanks : blanks.all isBlank = true) (hq : isModuleQuote q = true)
    (hedge : atWordEdge (names.getLast?.or before) (some 'f') = true) :
    (fromOnLine? module before (names ++ ("from".toList ++ (blanks ++ q :: (module ++ q :: rest))))).isSome = true := by
  induction names generalizing before with
  | nil =>
    have hhere : (fromModule? module ('f' :: ("rom".toList ++ (blanks ++ q :: (module ++ q :: rest))))).isSome = true :=
      fromModule?_isSome hblanks hq
    show (fromOnLine? module before ('f' :: ("rom".toList ++ (blanks ++ q :: (module ++ q :: rest))))).isSome = true
    obtain ⟨found, hfound⟩ := Option.isSome_iff_exists.1 hhere
    rw [fromOnLine?, if_pos (show atWordEdge before (some 'f') = true from hedge), hfound]
    rfl
  | cons c names ih =>
    have hc : ¬ (c == '\n') = true := fun e => hline (by simp [beq_iff_eq.1 e])
    rw [← getLast?_or_cons] at hedge
    rw [List.cons_append, fromOnLine?]
    split
    · rfl
    · rw [if_neg hc, Option.isSome_map]
      exact ih (fun hmem => hline (List.mem_cons_of_mem c hmem)) hedge

theorem importOf?_eq_some (h : importOf? module target before cs = some (a, rest)) :
    before.any (· != '\n') = false ∧ ∃ names blanks q, ImportsBy names blanks q ∧
      cs = "import".toList ++ (names ++ ("from".toList ++ (blanks ++ q :: (module ++ q :: rest)))) ∧
      a = "import".toList ++ (names ++ ("from".toList ++ blanks)) ++ target ∧
      ∀ u v, names = u ++ v → v ≠ [] → atWordEdge (u.getLast?.or (some 't')) v.head? = true →
        fromModule? module (v ++ ("from".toList ++ (blanks ++ q :: (module ++ q :: rest)))) = none := by
  rw [importOf?] at h
  split at h
  · cases h
  · next hbefore =>
    simp only [Option.bind_eq_bind, Option.bind_eq_some_iff] at h
    obtain ⟨cs', himport, h⟩ := h
    split at h
    · next hstart =>
      obtain ⟨⟨text, rest'⟩, hfrom, heq⟩ := Option.bind_eq_some_iff.1 h
      obtain ⟨rfl, rfl⟩ := Prod.mk.inj (Option.some.inj heq)
      obtain ⟨names, blanks, q, hline, hblanks, hq, rfl, rfl, hedge, hfirst⟩ := fromOnLine?_eq_some hfrom
      refine ⟨Bool.eq_false_iff.2 hbefore, names, blanks, q, ⟨hline, hblanks, hq, ?_, hedge⟩, after?_eq_some.1 himport, rfl,
        hfirst⟩
      cases names <;> exact hstart
    · cases h

theorem importOf?_isSome (hbefore : before.any (· != '\n') = false) (h : ImportsBy names blanks q) :
    (importOf? module target before
      ("import".toList ++ (names ++ ("from".toList ++ (blanks ++ q :: (module ++ q :: rest)))))).isSome = true := by
  have hstart : atWordEdge (some 't') (names ++ ("from".toList ++ (blanks ++ q :: (module ++ q :: rest)))).head? = true := by
    have := h.start
    cases names <;> exact this
  have hfrom : (fromOnLine? module (some 't')
      (names ++ ("from".toList ++ (blanks ++ q :: (module ++ q :: rest))))).isSome = true :=
    fromOnLine?_isSome h.line h.blanks h.quote h.edge
  obtain ⟨⟨text, rest'⟩, hfound⟩ := Option.isSome_iff_exists.1 hfrom
  rw [importOf?, if_neg (by rw [hbefore]; exact Bool.false_ne_true), after?_append]
  simp only [Option.bind_eq_bind, Option.bind_some]
  rw [if_pos hstart, hfound]
  rfl

/-- The text that is redirected ends with the quote of its module. -/
theorem last_of_import (h : cs ++ rest = "import".toList ++ (names ++ ("from".toList ++ (blanks ++ q :: (module ++ q :: rest))))) :
    cs.getLast? = some q := by
  have hcs : cs = "import".toList ++ (names ++ ("from".toList ++ (blanks ++ q :: module))) ++ [q] := by
    refine List.append_cancel_right (h.trans ?_)
    simp
  rw [hcs, List.getLast?_concat]

theorem importOf?_consumes : Consumes (importOf? module target) := by
  intro before cs a rest h
  obtain ⟨-, names, blanks, q, -, rfl, -⟩ := importOf?_eq_some h
  exact ⟨"import".toList ++ (names ++ ("from".toList ++ (blanks ++ q :: (module ++ [q])))), List.cons_ne_nil _ _, by simp⟩

end

/-! ## Modules that were there before -/

section
variable {module target rest t y cs out w a : List Char} {q c : Char} {before : Option Char}

/-- Redirecting leaves a module in the result where it stood, or where it goes on to the quote of another such
module. No import may begin before the module. -/
theorem module_kept (h : Replaced (importOf? module ('"' :: target)) before rest (y ++ (module ++ q :: t)))
    (hnone : importOf? module ('"' :: target) before rest = none) (hmodule : Unquoted module)
    (hq : isModuleQuote q = true)
    (hy : ∀ y₁ y₂, y = y₁ ++ y₂ → y₂ ≠ [] → y₁.getLast? = some '\n' → y₂.head? ≠ some 'i') :
    ∃ r, rest = y ++ (module ++ r) ∧
      (r.head? = some q ∨ ∃ q' r', isModuleQuote q' = true ∧ r = q' :: (module ++ r')) := by
  have hparts : y ++ (module ++ q :: t) = y ++ (module ++ [q]) ++ t := by simp
  rw [hparts] at h
  rcases h.split with ⟨rest, rfl, -⟩ | ⟨u₁, u₂, w, rest, a, out, hu, hu₂, rfl, -, hmatch, hsplit, -⟩
  · exact ⟨q :: rest, by simp, Or.inl rfl⟩
  obtain ⟨hbefore, names, blanks, q', himport, hw, rfl, -⟩ := importOf?_eq_some hmatch
  have hlast : u₁.getLast? = some '\n' := by
    cases hl : u₁.getLast? with
    | none =>
      obtain rfl := List.getLast?_eq_none_iff.1 hl
      rw [List.nil_append] at hnone
      rw [show ([] : List Char).getLast?.or before = before from rfl, hnone] at hmatch
      cases hmatch
    | some d =>
      rw [hl] at hbefore
      simpa using hbefore
  have hhead : u₂.head? = some 'i' := by
    obtain ⟨d, u₂, rfl⟩ := List.exists_cons_of_ne_nil hu₂
    rw [List.head?_cons, (List.cons.inj hsplit).1]
    rfl
  -- the import begins in the module
  obtain ⟨m₁, rfl, hm₁⟩ : ∃ m₁, u₁ = y ++ m₁ ∧ module ++ [q] = m₁ ++ u₂ := by
    rcases List.append_eq_append_iff.1 hu with ⟨m₁, rfl, hm₁⟩ | ⟨y₂, hy₂, rfl⟩
    · exact ⟨m₁, rfl, hm₁⟩
    · cases y₂ with
      | nil => exact ⟨[], by simpa using hy₂.symm, rfl⟩
      | cons d y₂ => exact absurd hhead (hy u₁ (d :: y₂) hy₂ (by simp) hlast)
  obtain ⟨m₂, rfl, rfl⟩ := split_before hm₁.symm hhead (by
    rw [List.mem_singleton]
    exact isModuleQuote_ne hq (by decide))
  have hm₂ : '"' ∉ m₂ := fun hmem => hmodule.not_mem (List.mem_append_right _ hmem)
  have hcommon : m₂ ++ q :: t = ("import".toList ++ (names ++ ("from".toList ++ blanks))) ++ '"' :: (target ++ out) := by
    simpa using hsplit
  have hsource : w ++ rest = ("import".toList ++ (names ++ ("from".toList ++ blanks))) ++ q' :: (m₁ ++ m₂ ++ q' :: rest) := by
    rw [hw]
    simp
  rw [hsource]
  generalize "import".toList ++ (names ++ ("from".toList ++ blanks)) = front at hcommon
  have hright : m₂ = front → ∃ r, y ++ m₁ ++ (front ++ q' :: (m₁ ++ m₂ ++ q' :: rest)) = y ++ (m₁ ++ m₂ ++ r) ∧
      (r.head? = some q ∨ ∃ q' r', isModuleQuote q' = true ∧ r = q' :: (m₁ ++ m₂ ++ r')) := by
    rintro rfl
    exact ⟨_, by simp, Or.inr ⟨q', q' :: rest, himport.quote, rfl⟩⟩
  rcases List.append_eq_append_iff.1 hcommon with ⟨e, rfl, he⟩ | ⟨e, rfl, he⟩
  · cases e with
    | nil => exact hright (List.append_nil m₂).symm
    | cons d e =>
      obtain ⟨rfl, -⟩ := List.cons.inj he
      exact ⟨q :: (e ++ q' :: (m₁ ++ m₂ ++ q' :: rest)), by simp, Or.inl rfl⟩
  · cases e with
    | nil => exact hright (List.append_nil front)
    | cons d e =>
      obtain ⟨rfl, -⟩ := List.cons.inj he
      exact absurd (by simp) hm₂

/-- A line that imports a module and names it once more. -/
def ImportsAgain (module source : List Char) : Prop :=
  ∃ names blanks q y z q', '\n' ∉ names ∧ blanks.all isBlank = true ∧ isModuleQuote q = true ∧ '\n' ∉ y ∧
    z.all isBlank = true ∧ isModuleQuote q' = true ∧
    "import".toList ++ (names ++ ("from".toList ++ (blanks ++ q :: (module ++ (y ++ (z ++ q' :: module)))))) <:+: source

theorem ImportsAgain.append {u v : List Char} (h : ImportsAgain module v) : ImportsAgain module (u ++ v) := by
  obtain ⟨names, blanks, q, y, z, q', hnames, hblanks, hq, hy, hz, hq', hin⟩ := h
  exact ⟨names, blanks, q, y, z, q', hnames, hblanks, hq, hy, hz, hq', hin.trans (List.suffix_append u v).isInfix⟩

theorem importsAgain_of (module : List Char) {names blanks z : List Char} {q q' : Char} (h : ImportsBy names blanks q) (hy : '\n' ∉ y)
    (hz : z.all isBlank = true) (hq' : isModuleQuote q' = true) (r : List Char) : ImportsAgain module
      ("import".toList ++ (names ++ ("from".toList ++ (blanks ++ q :: (module ++ (y ++ (z ++ q' :: (module ++ r)))))))) :=
  ⟨names, blanks, q, y, z, q', h.line, h.blanks, h.quote, hy, hz, hq', [], r, by simp⟩

/-- No import begins within names and the blanks before a quote. -/
theorem no_import_inside {u v : List Char} (hu : '\n' ∉ u) (hv : 'i' ∉ v) : ∀ y₁ y₂, u ++ v = y₁ ++ y₂ → y₂ ≠ [] →
    y₁.getLast? = some '\n' → y₂.head? ≠ some 'i' := by
  intro y₁ y₂ h hne hlast hhead
  rcases List.append_eq_append_iff.1 h with ⟨t, rfl, rfl⟩ | ⟨t, rfl, rfl⟩
  · exact hv (List.mem_append_right _ (List.mem_of_head? hhead))
  · exact hu (List.mem_append_left _ (List.mem_of_getLast? hlast))

theorem names_line {names : List Char} (h : '\n' ∉ names) : '\n' ∉ "import".toList ++ (names ++ "from".toList) := by
  have himport : '\n' ∉ "import".toList := by decide
  have hfrom : '\n' ∉ "from".toList := by decide
  simp only [List.mem_append, not_or]
  exact ⟨himport, h, hfrom⟩

theorem blanks_quote {blanks : List Char} (hblanks : blanks.all isBlank = true) (hq : isModuleQuote q = true) :
    'i' ∉ blanks ++ [q] := by
  rw [List.mem_append, List.mem_singleton, not_or]
  exact ⟨not_mem_of_class hblanks (by decide), isModuleQuote_ne hq (by decide)⟩

theorem unquoted_from {blanks : List Char} (hblanks : blanks.all isBlank = true) : '"' ∉ "from".toList ++ blanks :=
  have hfrom : Unquoted "from".toList := by decide
  (hfrom.append (.of_blanks hblanks)).not_mem

/-- No import of the module begins at a character that was kept. -/
theorem importOf?_keep (hcs : ¬ ImportsAgain module (c :: cs)) (hmodule : Unquoted module)
    (hnone : importOf? module ('"' :: target) before (c :: cs) = none)
    (h : Replaced (importOf? module ('"' :: target)) (some c) cs out) :
    importOf? module ('"' :: target) before (c :: out) = none := by
  cases hout : importOf? module ('"' :: target) before (c :: out) with
  | none => rfl
  | some found =>
    obtain ⟨a, r⟩ := found
    obtain ⟨hbefore, names, blanks, q, himport, heq, -, -⟩ := importOf?_eq_some hout
    exfalso
    have hparts : c :: out = "import".toList ++ (names ++ "from".toList) ++ (blanks ++ [q]) ++ (module ++ q :: r) := by
      rw [heq]
      simp
    have hkeep := Replaced.keep hnone h
    rw [hparts] at hkeep
    obtain ⟨r', hsource, hr⟩ := module_kept hkeep hnone hmodule himport.quote
      (no_import_inside (names_line himport.line) (blanks_quote himport.blanks himport.quote))
    rcases hr with hr | ⟨q', r'', hq', rfl⟩
    · obtain ⟨r', rfl⟩ : ∃ t, r' = q :: t := by
        cases r' with
        | nil => cases hr
        | cons d t => exact ⟨t, by rw [Option.some.inj hr]⟩
      have hsome : (importOf? module ('"' :: target) before ("import".toList ++ (names ++ ("from".toList ++
        (blanks ++ q :: (module ++ q :: r')))))).isSome = true := importOf?_isSome hbefore himport
      rw [show "import".toList ++ (names ++ ("from".toList ++ (blanks ++ q :: (module ++ q :: r')))) = c :: cs by
        rw [hsource]; simp, hnone] at hsome
      cases hsome
    · refine hcs ?_
      rw [hsource]
      simpa using importsAgain_of module himport List.not_mem_nil (z := []) rfl hq' r''

/-- The text that redirects an import holds none after its first character. -/
theorem importOf?_within {names blanks : List Char} (hnames : '\n' ∉ names)
    (hblanks : blanks.all isBlank = true) (htarget : '\n' ∉ target)
    {a₁ a₂ : List Char} (ha : "import".toList ++ (names ++ ("from".toList ++ blanks)) ++ ('"' :: target) = a₁ ++ a₂)
    (ha₁ : a₁ ≠ []) (ha₂ : a₂ ≠ []) : importOf? module ('"' :: target) (a₁.getLast?.or before) (a₂ ++ out) = none := by
  have hlast := List.getLast?_eq_some_getLast ha₁
  by_cases hnewline : a₁.getLast ha₁ = '\n'
  · -- a line begins within the blanks, if at all
    rw [hnewline] at hlast
    have hparts : ("import".toList ++ (names ++ "from".toList)) ++ (blanks ++ '"' :: target) = a₁ ++ a₂ := by
      rw [← ha]
      simp
    refine importOf?_head fun hhead => ?_
    have hhead : a₂.head? = some 'i' := by
      obtain ⟨d, a₂, rfl⟩ := List.exists_cons_of_ne_nil ha₂
      exact hhead
    rcases List.append_eq_append_iff.1 hparts with ⟨t, rfl, ht⟩ | ⟨t, ht, -⟩
    · rcases List.append_eq_append_iff.1 ht with ⟨t', rfl, ht'⟩ | ⟨z, rfl, rfl⟩
      · cases t' with
        | nil =>
          rw [← show '"' :: target = a₂ from ht'] at hhead
          cases hhead
        | cons d t' =>
          obtain ⟨rfl, rfl⟩ := List.cons.inj ht'
          have hmem : '\n' ∈ '"' :: t' := by
            rw [← List.append_assoc, List.getLast?_append, Option.or_eq_some_iff] at hlast
            rcases hlast with hlast | ⟨hnone, -⟩
            · exact List.mem_of_getLast? hlast
            · exact absurd (List.getLast?_eq_none_iff.1 hnone) (List.cons_ne_nil _ _)
          rcases List.mem_cons.1 hmem with h | hmem
          · cases h
          · exact htarget (List.mem_append_left _ hmem)
      · cases z with
        | nil => cases hhead
        | cons d z =>
          obtain rfl : d = 'i' := by simpa using hhead
          exact not_mem_of_class hblanks (c := 'i') (by decide) (by simp)
    · have hmem : '\n' ∈ a₁ := List.mem_of_getLast? hlast
      exact names_line hnames (ht ▸ List.mem_append_left _ hmem)
  · rw [hlast, Option.some_or]
    exact importOf?_inside hnewline _

section

variable {x x₂ z z₂ : List Char} {q₂ : Char} {out' : List Char}

/-- No module stands after `from` before the place where the import was redirected. -/
theorem no_earlier_module (hmodule : Unquoted module) (hq₂ : isModuleQuote q₂ = true) (hz₂ : z₂.all isBlank = true)
    {d tail : List Char} (hd : d ≠ [])
    (hfirst : fromModule? module (d ++ ("from".toList ++ (z ++ q :: tail))) = none)
    (hagain : "from".toList ++ (z₂ ++ q₂ :: module) ≠ d ++ ("from".toList ++ z)) :
    "from".toList ++ (z₂ ++ q₂ :: (module ++ q₂ :: t)) ≠ d ++ ("from".toList ++ (z ++ '"' :: out)) := by
  intro heq
  have hparts : ("from".toList ++ (z₂ ++ q₂ :: module)) ++ q₂ :: t = (d ++ ("from".toList ++ z)) ++ '"' :: out := by
    simpa using heq
  rcases List.append_eq_append_iff.1 hparts with ⟨f, hf, hf'⟩ | ⟨f, hf, hf'⟩
  · -- the module ends before the quote
    cases f with
    | nil => exact hagain (by rw [hf, List.append_nil])
    | cons e f =>
      obtain ⟨rfl, -⟩ := List.cons.inj hf'
      have hsome : (fromModule? module ("from".toList ++ (z₂ ++ q₂ :: (module ++ q₂ :: (f ++ q :: tail))))).isSome = true :=
        fromModule?_isSome hz₂ hq₂
      rw [show "from".toList ++ (z₂ ++ q₂ :: (module ++ q₂ :: (f ++ q :: tail))) =
        d ++ ("from".toList ++ (z ++ q :: tail)) by
          have := congrArg (· ++ q :: tail) hf
          simpa using this.symm, hfirst] at hsome
      cases hsome
  · -- the quote stands before the module, or in it
    cases f with
    | nil => exact hagain (by rw [hf, List.append_nil])
    | cons e f =>
      obtain ⟨rfl, -⟩ := List.cons.inj hf'
      have hf : ("from".toList ++ z₂) ++ q₂ :: module = (d ++ ("from".toList ++ z)) ++ '"' :: f := by
        simpa using hf
      have hne := no_earlier_from (z := z) hd hz₂
      rcases List.append_eq_append_iff.1 hf with ⟨g, hg, hg'⟩ | ⟨g, hg, hg'⟩
      · cases g with
        | nil => exact hne (by rw [hg, List.append_nil])
        | cons e g =>
          obtain ⟨rfl, rfl⟩ := List.cons.inj hg'
          exact hmodule.not_mem (by simp)
      · cases g with
        | nil => exact hne (by rw [hg, List.append_nil])
        | cons e g =>
          obtain ⟨rfl, -⟩ := List.cons.inj hg'
          exact unquoted_from hz₂ (by rw [hg]; simp)

end

/-- A text that holds a module between quotes only as a whole, if at all. -/
def HoldsWhole (module text : List Char) : Prop :=
  ∀ q, isModuleQuote q = true → q :: (module ++ [q]) <:+: text → text = q :: (module ++ [q])

/-- A module at the quote of a text that holds it between quotes only as a whole is this text. -/
theorem quoted_same (hmodule : Unquoted module)
    (htarget : HoldsWhole module ('"' :: (target ++ ['"']))) (h : target ++ '"' :: out = module ++ '"' :: t) : t = out := by
  rcases List.append_eq_append_iff.1 h with ⟨e, rfl, he⟩ | ⟨e, rfl, he⟩
  · cases e with
    | nil => exact (List.cons.inj he).2.symm
    | cons d e =>
      obtain ⟨rfl, -⟩ := List.cons.inj he
      exact absurd (by simp) hmodule.not_mem
  · cases e with
    | nil => exact (List.cons.inj he).2
    | cons d e =>
      obtain ⟨rfl, -⟩ := List.cons.inj he
      have hwhole := htarget '"' rfl ⟨[], e ++ ['"'], by simp⟩
      have hlength := congrArg List.length hwhole
      simp at hlength

/-- In a text that holds a module between quotes only as a whole, no quote that comes before its end opens one that goes
on behind the text. -/
theorem HoldsWhole.not_open {q₂ : Char} {u v : List Char} (htarget : HoldsWhole module ('"' :: (target ++ ['"'])))
    (hmodule : Unquoted module) (hq₂ : isModuleQuote q₂ = true) (huv : target ++ ['"'] = u ++ q₂ :: v) (hv : '"' ∈ v) :
    module ++ q₂ :: t ≠ v ++ out := by
  intro heq
  rcases List.append_eq_append_iff.1 heq with ⟨k, rfl, hk⟩ | ⟨k, rfl, -⟩
  · cases k with
    | nil => exact hmodule.not_mem (by simpa using hv)
    | cons d k =>
      obtain ⟨rfl, -⟩ := List.cons.inj hk
      have hwhole := htarget q₂ hq₂ ⟨'"' :: u, k, by rw [huv]; simp⟩
      have hlength := congrArg List.length hwhole
      rw [huv] at hlength
      simp at hlength
      omega
  · exact hmodule.not_mem (List.mem_append_left _ hv)

section
variable {x z z₂ : List Char} {q₂ : Char} (hcs : ¬ ImportsAgain module (w ++ rest)) (hmodule : Unquoted module)
  (himport : ImportsBy x z q)
  (hw : w ++ rest = "import".toList ++ (x ++ ("from".toList ++ (z ++ q :: (module ++ q :: rest)))))
  (h : Replaced (importOf? module ('"' :: (target ++ ['"']))) w.getLast? rest out) (hq₂ : isModuleQuote q₂ = true)
include himport hw

theorem no_import_behind : importOf? module ('"' :: (target ++ ['"'])) w.getLast? rest = none := by
  have hlast : w.getLast? = some q := last_of_import hw
  rw [hlast]
  exact importOf?_inside (isModuleQuote_ne himport.quote (by decide)).symm _

include hcs hmodule h hq₂

/-- The module does not stand right behind the redirected import. -/
theorem no_module_behind : out ≠ module ++ q₂ :: t := by
  rintro rfl
  obtain ⟨r, rfl, -⟩ := module_kept (y := []) h (no_import_behind himport hw) hmodule hq₂ (fun y₁ y₂ h hne => by
    exact absurd (List.append_eq_nil_iff.1 h.symm).2 hne)
  refine hcs ?_
  rw [hw]
  simpa using importsAgain_of module himport List.not_mem_nil (z := []) rfl himport.quote r

/-- In the rest of the line no module stands after `from`. -/
theorem no_from_behind (hz₂ : z₂.all isBlank = true) (hy : '\n' ∉ y) :
    out ≠ y ++ ("from".toList ++ (z₂ ++ q₂ :: (module ++ q₂ :: t))) := by
  rintro rfl
  have hfrom : '\n' ∉ y ++ "from".toList := by
    have hfrom : '\n' ∉ "from".toList := by decide
    rw [List.mem_append, not_or]
    exact ⟨hy, hfrom⟩
  have hparts : y ++ ("from".toList ++ (z₂ ++ q₂ :: (module ++ q₂ :: t))) =
      (y ++ "from".toList) ++ (z₂ ++ [q₂]) ++ (module ++ q₂ :: t) := by simp
  rw [hparts] at h
  obtain ⟨r, rfl, -⟩ := module_kept h (no_import_behind himport hw) hmodule hq₂
    (no_import_inside hfrom (blanks_quote hz₂ hq₂))
  have hline : '\n' ∉ q :: (y ++ "from".toList) := by
    rw [List.mem_cons, not_or]
    exact ⟨isModuleQuote_ne himport.quote (by decide), hfrom⟩
  refine hcs ?_
  rw [hw]
  simpa using importsAgain_of module himport hline hz₂ hq₂ r

/-- No module stands after a `from` that begins in the quoted text. -/
theorem no_from_in_quoted (htarget : HoldsWhole module ('"' :: (target ++ ['"']))) (hz₂ : z₂.all isBlank = true)
    {e u : List Char} (hu : target ++ ['"'] = e ++ u) (hne : u ≠ []) :
    u ++ out ≠ "from".toList ++ (z₂ ++ q₂ :: (module ++ q₂ :: t)) := by
  intro heq
  have hends : ∀ {u e : List Char}, target ++ ['"'] = e ++ u → u ≠ [] → '"' ∈ u := fun {u e} hu hne => by
    have hlast := congrArg List.getLast? hu
    rw [List.getLast?_concat, List.getLast?_append, List.getLast?_eq_some_getLast hne, Option.some_or] at hlast
    exact Option.some.inj hlast ▸ List.getLast_mem hne
  have hparts : u ++ out = ("from".toList ++ z₂) ++ q₂ :: (module ++ q₂ :: t) := by
    rw [heq]
    simp
  rcases List.append_eq_append_iff.1 hparts with ⟨g, hg, -⟩ | ⟨g, rfl, hg⟩
  · exact unquoted_from hz₂ (hg ▸ List.mem_append_left _ (hends hu hne))
  · cases g with
    | nil => exact unquoted_from hz₂ (by simpa using hends hu hne)
    | cons d g =>
      obtain ⟨rfl, htail⟩ := List.cons.inj hg
      by_cases hclose : g = []
      · -- the quote at which the text ends opens the module
        subst hclose
        exact no_module_behind hcs hmodule himport hw h hq₂ htail.symm
      · have hend : '"' ∈ g := hends (e := e ++ ("from".toList ++ z₂) ++ [q₂]) (by rw [hu]; simp) hclose
        exact htarget.not_open hmodule hq₂ (u := e ++ ("from".toList ++ z₂)) (by rw [hu]; simp) hend htail

/-- No module stands after `from` behind the place where the import was redirected, in the same line. -/
theorem no_later_module (htarget : HoldsWhole module ('"' :: (target ++ ['"']))) (hz₂ : z₂.all isBlank = true)
    {d : List Char} (hne : d ≠ []) (hline : '\n' ∉ d) :
    "from".toList ++ (z ++ '"' :: (target ++ '"' :: out)) ≠ d ++ ("from".toList ++ (z₂ ++ q₂ :: (module ++ q₂ :: t))) := by
  intro heq
  obtain ⟨c, d, rfl⟩ := List.exists_cons_of_ne_nil hne
  have hletters : "from".toList = 'f' :: "rom".toList := rfl
  have hfront : d ++ ("from".toList ++ (z₂ ++ q₂ :: (module ++ q₂ :: t))) =
      ("rom".toList ++ (z ++ ['"'])) ++ (target ++ '"' :: out) := by
    rw [hletters] at heq ⊢
    have htail : "rom".toList ++ (z ++ '"' :: (target ++ '"' :: out)) = _ := (List.cons.inj heq).2
    refine htail.symm.trans ?_
    simp
  have hf : 'f' ∉ "rom".toList ++ (z ++ ['"']) := by
    have hrom : 'f' ∉ "rom".toList := by decide
    simp only [List.mem_append, List.mem_singleton, not_or]
    exact ⟨hrom, not_mem_of_class himport.blanks (by decide), by decide⟩
  obtain ⟨e, rfl, he⟩ := split_behind hfront rfl hf
  have hparts : (target ++ ['"']) ++ out = e ++ ("from".toList ++ (z₂ ++ q₂ :: (module ++ q₂ :: t))) := by
    rw [← he]
    simp
  rcases List.append_eq_append_iff.1 hparts with ⟨y, rfl, hy⟩ | ⟨u, hu, hu'⟩
  · exact no_from_behind hcs hmodule himport hw h hq₂ hz₂ (fun hmem => hline (by simp [hmem])) hy
  · by_cases hempty : u = []
    · subst hempty
      exact no_from_behind hcs hmodule himport hw h hq₂ hz₂ List.not_mem_nil hu'.symm
    · exact no_from_in_quoted hcs hmodule himport hw h hq₂ htarget hz₂ hu hempty hu'.symm

end

/-- The text that redirects an import is replaced by itself, or no import of the module begins with it. -/
theorem importOf?_swap (hcs : ¬ ImportsAgain module (w ++ rest)) (hmodule : Unquoted module)
    (htarget : HoldsWhole module ('"' :: (target ++ ['"'])))
    (hmatch : importOf? module ('"' :: (target ++ ['"'])) before (w ++ rest) = some (a, rest))
    (h : Replaced (importOf? module ('"' :: (target ++ ['"']))) w.getLast? rest out) :
    importOf? module ('"' :: (target ++ ['"'])) before (a ++ out) = some (a, out) ∨
      importOf? module ('"' :: (target ++ ['"'])) before (a ++ out) = none := by
  obtain ⟨hbefore, x, z, q, himport, hw, ha, hfirst⟩ := importOf?_eq_some hmatch
  cases hout : importOf? module ('"' :: (target ++ ['"'])) before (a ++ out) with
  | none => exact Or.inr rfl
  | some found =>
    obtain ⟨a', r⟩ := found
    obtain ⟨-, x₂, z₂, q₂, himport₂, hout', ha', -⟩ := importOf?_eq_some hout
    have heq : x ++ ("from".toList ++ (z ++ '"' :: (target ++ '"' :: out))) =
        x₂ ++ ("from".toList ++ (z₂ ++ q₂ :: (module ++ q₂ :: r))) := by
      rw [ha] at hout'
      refine (List.append_right_inj "import".toList).1 ?_
      simpa using hout'
    have hsame : x = x₂ → some (a', r) = some (a, out) := by
      rintro rfl
      obtain ⟨rfl, rfl, htail⟩ := eq_of_append_class himport.blanks himport₂.blanks rfl himport₂.not_blank
        (List.append_cancel_left (List.append_cancel_left heq))
      rw [ha', ha, quoted_same hmodule htarget htail]
    rcases List.append_eq_append_iff.1 heq with ⟨d, rfl, hd⟩ | ⟨d, rfl, hd⟩
    · by_cases hne : d = []
      · subst hne
        exact Or.inl (hsame (List.append_nil _).symm)
      · refine absurd hd (no_later_module hcs hmodule himport hw h himport₂.quote htarget himport₂.blanks hne fun hmem => ?_)
        exact himport₂.line (List.mem_append_right x hmem)
    · by_cases hne : d = []
      · subst hne
        exact Or.inl (hsame (List.append_nil _))
      · have hhead : d.head? = some 'f' := by
          obtain ⟨e, d, rfl⟩ := List.exists_cons_of_ne_nil hne
          rw [List.head?_cons, ← (List.cons.inj hd).1]
          rfl
        have hedge : atWordEdge (x₂.getLast?.or (some 't')) d.head? = true := by
          rw [hhead]
          exact himport₂.edge
        refine absurd hd (no_earlier_module hmodule himport₂.quote himport₂.blanks hne (hfirst x₂ d rfl hne hedge) ?_)
        intro hsplit
        refine hcs ?_
        have hagain := importsAgain_of module himport₂ List.not_mem_nil (z := []) rfl himport.quote (q :: rest)
        rw [hw]
        have hsplit := congrArg (· ++ q :: (module ++ q :: rest)) hsplit
        simp only [List.append_assoc, List.cons_append, List.nil_append] at hsplit hagain ⊢
        rw [← hsplit]
        exact hagain

end

/-- On texts in which no line imports the module and names it once more, redirecting changes nothing when it is done
again, unless the other module holds this one between quotes. -/
theorem redirectImport_again {module target : String} {source : List Char} (hmodule : Unquoted module.toList)
    (hsource : ¬ ImportsAgain module.toList source) (htarget : HoldsWhole module.toList (Json.quote target).toList) :
    redirectImport module target (redirectImport module target source) = redirectImport module target source := by
  rw [quote_toList] at htarget
  unfold redirectImport
  rw [quote_toList]
  refine Replaced.again (P := fun cs => ¬ ImportsAgain module.toList cs) (fun h hv => h hv.append)
    (fun h => importOf?_keep h hmodule) ?_ hsource (replaced_replaceFrom importOf?_consumes none source)
  intro before w rest a out hcs hmatch _ h
  obtain ⟨-, names, blanks, q, himport, hw, rfl, -⟩ := importOf?_eq_some hmatch
  refine ⟨List.cons_ne_nil _ _, ?_, ?_⟩
  · have hlast : w.getLast? = some q := last_of_import hw
    rw [hlast, ← List.cons_append, ← List.append_assoc, List.getLast?_concat]
    funext cs
    exact (importOf?_inside (isModuleQuote_ne himport.quote (by decide)).symm cs).trans (importOf?_inside (by decide) cs).symm
  · refine (importOf?_swap hcs hmodule htarget hmatch h).imp_right fun hnone a₁ a₂ ha hne => ?_
    cases a₁ with
    | nil =>
      rw [List.nil_append] at ha
      rw [← ha]
      exact hnone
    | cons c a₁ =>
      have hline : '\n' ∉ quoteBody target.toList ++ ['"'] := by
        rw [List.mem_append, not_or]
        exact ⟨newline_not_mem_quoteBody _, by decide⟩
      exact importOf?_within himport.line himport.blanks hline ha (List.cons_ne_nil _ _) hne

end Suitewright
