/-
  The usable values of settings.

  * `Yaml.Value.Printable`: values whose integers are short enough for a text;
  * `Yaml.Value.Under`, `settingAt?_eq_some_iff`: the value below two keys, where of equal keys the last one counts;
  * `IsText`, `IsArgument`, `IsCommand`, `IsCommands`, `IsTestDir`, `IsSuffix`: what the usable values of each setting give;
  * `Kept`: what the usable ones of some values give, in order;
  * `Takes`: a setting that is taken from below its keys, or else has its default;
  * `Settings.TakenFrom`, `settingsOf_taken`: settings of which each is taken from below its own keys; those of a mapping
    are;
  * `Settings.Sound`, `Settings.TakenFrom.sound`: such settings have commands, a directory and an ending;
  * `Settings.TakenFrom.commands_congr` and the like: no setting depends on what lies below other keys.
-/
import Suitewright.Project.SettingsFile
import Suitewright.Proofs.Results

namespace Suitewright

open Yaml (Value)

/-! ## Values and keys -/

namespace Yaml.Value

/-- Whether a value is a mapping; nothing counts as an empty one. -/
def isMapping : Value → Bool
  | null | map _ => true
  | _ => false

mutual

/-- Whether the integers of a value are short enough for a text. -/
def printable : Value → Bool
  | int n => n.natAbs < Nat.pow 10 Number.maxDigits
  | list items => printableAll items
  | map pairs => printablePairs pairs
  | _ => true

/-- Whether those of all items are. -/
def printableAll : List Value → Bool
  | [] => true
  | v :: items => printable v && printableAll items

/-- Whether those of all keys and their values are. -/
def printablePairs : List (Value × Value) → Bool
  | [] => true
  | (k, v) :: pairs => printable k && printable v && printablePairs pairs

end

/-- Values whose integers are short enough for a text. -/
def Printable (v : Value) : Prop := v.printable = true

instance (v : Value) : Decidable v.Printable := inferInstanceAs (Decidable (v.printable = true))

/-- What a mapping gives for a key; of equal keys the last one counts. -/
inductive Field (key : String) : Value → Value → Prop
  | last {before after : List (Value × Value)} {w : Value} : (∀ p ∈ after, p.1 ≠ .str key) →
      Field key (.map (before ++ (.str key, w) :: after)) w

/-- The value below two keys. -/
def Under (group key : String) (v w : Value) : Prop := ∃ g, Field group v g ∧ Field key g w

/-- Values that give the same below two keys, whatever they give elsewhere. -/
def AgreeUnder (group key : String) (v v' : Value) : Prop := ∀ w, Under group key v w ↔ Under group key v' w

section
variable {v w : Value} {key group : String}

theorem isText_iff : v.isText key = true ↔ v = .str key := by
  cases v with
  | str s =>
    rw [isText, beq_iff_eq]
    exact ⟨fun h => by rw [h], fun h => by cases h; rfl⟩
  | null | bool | int | float | bytes | moment | list | map | set | elided =>
    exact ⟨fun h => (nomatch h), fun h => (nomatch h)⟩

theorem field?_eq_some_iff : v.field? key = some w ↔ Field key v w := by
  rw [field?, Option.map_eq_some_iff]
  constructor
  · rintro ⟨⟨k, w⟩, hfind, rfl⟩
    -- the first pair from the end with the key is the last one from the front
    obtain ⟨hk, after, before, hpairs, hafter⟩ := List.find?_eq_some_iff_append.1 hfind
    obtain rfl := isText_iff.1 hk
    have hmap : v.pairs = before.reverse ++ (.str key, w) :: after.reverse := by
      rw [← List.reverse_reverse v.pairs, hpairs]
      simp
    cases v with
    | map pairs =>
      obtain rfl : pairs = _ := hmap
      refine .last fun p hp heq => ?_
      have hnot : (!p.1.isText key) = true := hafter p (List.mem_reverse.1 hp)
      rw [isText_iff.2 heq] at hnot
      cases hnot
    | null | bool | int | float | bytes | moment | list | str | set | elided => simp [pairs] at hmap
  · rintro ⟨hafter⟩
    rename_i before after
    refine ⟨(.str key, w), List.find?_eq_some_iff_append.2 ⟨isText_iff.2 rfl, after.reverse, before.reverse, ?_, ?_⟩, rfl⟩
    · simp [pairs]
    · intro p hp
      rw [Bool.not_eq_true', ← Bool.not_eq_true, isText_iff]
      exact hafter p (List.mem_reverse.1 hp)

theorem Printable.item {items : List Value} (h : (list items).Printable) : ∀ v ∈ items, v.Printable := by
  rw [Printable, printable] at h
  induction items with
  | nil => simp
  | cons v items ih =>
    rw [printableAll, Bool.and_eq_true] at h
    exact List.forall_mem_cons.2 ⟨h.1, ih h.2⟩

theorem Printable.value {pairs : List (Value × Value)} (h : (map pairs).Printable) : ∀ p ∈ pairs, p.2.Printable := by
  rw [Printable, printable] at h
  induction pairs with
  | nil => simp
  | cons p pairs ih =>
    obtain ⟨k, v⟩ := p
    rw [printablePairs, Bool.and_eq_true, Bool.and_eq_true] at h
    exact List.forall_mem_cons.2 ⟨h.1.2, ih h.2⟩

theorem Printable.field (h : v.Printable) (hw : Field key v w) : w.Printable := by
  obtain ⟨-⟩ := hw
  exact h.value (.str key, w) (by simp)

end

end Yaml.Value

open Yaml.Value

section
variable {v v' w w' : Value} {group key : String}

theorem settingAt?_eq_some_iff : settingAt? v group key = some w ↔ v.Under group key w := by
  rw [settingAt?, Option.bind_eq_some_iff]
  simp only [field?_eq_some_iff]
  rfl

theorem Yaml.Value.Under.unique (h : v.Under group key w) (h' : v.Under group key w') : w = w' := by
  rw [← settingAt?_eq_some_iff] at h h'
  exact Option.some.inj (h.symm.trans h')

theorem Yaml.Value.Printable.under (h : v.Printable) (hw : v.Under group key w) : w.Printable := by
  obtain ⟨g, hg, hw⟩ := hw
  exact (h.field hg).field hw

end

/-! ## Usable values -/

/-- The text of a text or a number. -/
inductive IsText : Value → String → Prop
  | str (s : String) : IsText (.str s) s
  | int (n : Int) : IsText (.int n) (toString n)
  | float (x : Binary64) : IsText (.float x) x.toText

/-- The text of an argument of a command. -/
inductive IsArgument : Value → String → Prop
  | text {v : Value} {s : String} : IsText v s → IsArgument v s
  | truth (b : Bool) : IsArgument (.bool b) (if b then "True" else "False")

/-- What a list consists of; bytes are a list of numbers. -/
inductive Items : Value → List Value → Prop
  | list (items : List Value) : Items (.list items) items
  | bytes (bs : List UInt8) : Items (.bytes bs) (bs.map fun b => .int b.toNat)

/-- What the usable ones of some values give, in order; the others are left out. -/
inductive Kept {α β : Type} (R : α → β → Prop) : List α → List β → Prop
  | nil : Kept R [] []
  | keep {a : α} {b : β} {as : List α} {bs : List β} : R a b → Kept R as bs → Kept R (a :: as) (b :: bs)
  | drop {a : α} {as : List α} {bs : List β} : (∀ b, ¬ R a b) → Kept R as bs → Kept R (a :: as) bs

/-- The arguments of a command: the words of a text, or the usable ones among the parts of a list. -/
inductive Arguments : Value → List String → Prop
  | words (s : String) : Arguments (.str s) (Text.words s)
  | list {v : Value} {items : List Value} {arguments : List String} : Items v items → Kept IsArgument items arguments →
      Arguments v arguments

/-- A usable command has arguments. -/
def IsCommand (v : Value) (command : List String) : Prop := command ≠ [] ∧ Arguments v command

/-- A usable list of commands has a usable one. -/
def IsCommands (v : Value) (commands : List (List String)) : Prop :=
  commands ≠ [] ∧ ∃ items, Items v items ∧ Kept IsCommand items commands

/-- A usable name of a directory is not empty. -/
def IsTestDir (v : Value) (name : String) : Prop := name ≠ "" ∧ IsText v name

/-- A usable ending is not empty; it is given a point if it has none. -/
def IsSuffix (v : Value) (suffix : String) : Prop :=
  ∃ s, s ≠ "" ∧ IsText v s ∧ (suffix = s ∧ s.toList.head? = some '.' ∨ suffix = "." ++ s ∧ s.toList.head? ≠ some '.')

/-- A setting that is taken from below two keys, or else has its default. -/
inductive Takes {α : Type} (R : Value → α → Prop) (v : Value) (group key : String) (byDefault : α) : α → Prop
  | given {w : Value} {a : α} : v.Under group key w → R w a → Takes R v group key byDefault a
  | otherwise : (∀ w a, v.Under group key w → ¬ R w a) → Takes R v group key byDefault byDefault

/-- Settings of which each is taken from below its own keys. -/
structure Settings.TakenFrom (s : Settings) (v : Value) : Prop where
  commands : Takes IsCommands v "runner" "commands" defaultCommands s.commands
  testDir : Takes IsTestDir v "output" "test_dir" "__tests__" s.testDir
  suffix : Takes IsSuffix v "output" "suffix" ".test.tsx" s.suffix

/-- Settings with commands that have arguments, a directory, and an ending that begins with a point. -/
structure Settings.Sound (s : Settings) : Prop where
  commands : s.commands ≠ []
  arguments : ∀ c ∈ s.commands, c ≠ []
  testDir : s.testDir ≠ ""
  suffix : s.suffix ≠ ""
  point : s.suffix.toList.head? = some '.'

/-! ## What is usable is unique -/

section
variable {α β : Type} {v : Value}

theorem Kept.unique {R : α → β → Prop} {as : List α} {bs bs' : List β} (h : Kept R as bs) (h' : Kept R as bs')
    (hR : ∀ a b b', R a b → R a b' → b = b') : bs = bs' := by
  induction h generalizing bs' with
  | nil => cases h'; rfl
  | keep hab _ ih =>
    cases h' with
    | keep hab' h' => rw [hR _ _ _ hab hab', ih h']
    | drop hno _ => exact absurd hab (hno _)
  | drop hno _ ih =>
    cases h' with
    | keep hab _ => exact absurd hab (hno _)
    | drop _ h' => exact ih h'

theorem Kept.exists_mem {R : α → β → Prop} {as : List α} {bs : List β} (h : Kept R as bs) : ∀ b ∈ bs, ∃ a ∈ as, R a b := by
  induction h with
  | nil => simp
  | keep hab _ ih =>
    rw [List.forall_mem_cons]
    refine ⟨⟨_, List.mem_cons_self, hab⟩, fun b hb => ?_⟩
    obtain ⟨a, ha, hab⟩ := ih b hb
    exact ⟨a, List.mem_cons_of_mem _ ha, hab⟩
  | drop _ _ ih =>
    intro b hb
    obtain ⟨a, ha, hab⟩ := ih b hb
    exact ⟨a, List.mem_cons_of_mem _ ha, hab⟩

theorem IsText.unique {s s' : String} (h : IsText v s) (h' : IsText v s') : s = s' := by
  cases h with
  | _ => cases h'; rfl

theorem IsArgument.unique {s s' : String} (h : IsArgument v s) (h' : IsArgument v s') : s = s' := by
  cases h with
  | text h =>
    cases h' with
    | text h' => exact h.unique h'
    | truth => cases h
  | truth =>
    cases h' with
    | text h' => cases h'
    | truth => rfl

theorem Items.unique {items items' : List Value} (h : Items v items) (h' : Items v items') : items = items' := by
  cases h with
  | _ => cases h'; rfl

theorem Arguments.unique {c c' : List String} (h : Arguments v c) (h' : Arguments v c') : c = c' := by
  cases h with
  | words =>
    cases h' with
    | words => rfl
    | list hitems => cases hitems
  | list hitems h =>
    cases h' with
    | words => cases hitems
    | list hitems' h' =>
      obtain rfl := hitems.unique hitems'
      exact h.unique h' fun _ _ _ => IsArgument.unique

theorem IsCommands.unique {cs cs' : List (List String)} (h : IsCommands v cs) (h' : IsCommands v cs') : cs = cs' := by
  obtain ⟨-, items, hitems, h⟩ := h
  obtain ⟨-, items', hitems', h'⟩ := h'
  obtain rfl := hitems.unique hitems'
  exact h.unique h' fun _ _ _ hc hc' => hc.2.unique hc'.2

theorem IsTestDir.unique {s s' : String} (h : IsTestDir v s) (h' : IsTestDir v s') : s = s' := h.2.unique h'.2

theorem isSuffix_iff {suffix : String} : IsSuffix v suffix ↔ ∃ s, s ≠ "" ∧ IsText v s ∧ suffix = pointed s := by
  have hpointed : ∀ s, suffix = pointed s ↔
      (suffix = s ∧ s.toList.head? = some '.' ∨ suffix = "." ++ s ∧ s.toList.head? ≠ some '.') := by
    intro s
    rw [pointed]
    by_cases hpoint : s.toList.head? = some '.'
    · simp [hpoint]
    · simp [hpoint]
  simp only [IsSuffix, hpointed]

theorem IsSuffix.unique {s s' : String} (h : IsSuffix v s) (h' : IsSuffix v s') : s = s' := by
  obtain ⟨t, -, ht, rfl⟩ := isSuffix_iff.1 h
  obtain ⟨t', -, ht', rfl⟩ := isSuffix_iff.1 h'
  rw [ht.unique ht']

end

/-! ## Settings by their keys -/

section
variable {α : Type} {R : Value → α → Prop} {v v' : Value} {group key : String} {byDefault a a' : α}

/-- What is taken is what a usable value gives, or the default. -/
theorem Takes.cases_on_value {P : α → Prop} (h : Takes R v group key byDefault a) (hgiven : ∀ w a, R w a → P a)
    (hdefault : P byDefault) : P a := by
  cases h with
  | given _ ha => exact hgiven _ _ ha
  | otherwise => exact hdefault

/-- Where two values agree below the keys, the same is taken from both. -/
theorem Takes.congr (h : Takes R v group key byDefault a) (h' : Takes R v' group key byDefault a')
    (hagree : v.AgreeUnder group key v') (hR : ∀ w a a', R w a → R w a' → a = a') : a = a' := by
  cases h with
  | given hw ha =>
    cases h' with
    | given hw' ha' =>
      obtain rfl := ((hagree _).1 hw).unique hw'
      exact hR _ _ _ ha ha'
    | otherwise hno => exact absurd ha (hno _ _ ((hagree _).1 hw))
  | otherwise hno =>
    cases h' with
    | given hw' ha' => exact absurd ha' (hno _ _ ((hagree _).2 hw'))
    | otherwise => rfl

end

namespace Settings.TakenFrom

variable {s s' : Settings} {v v' : Value}

/-- Settings that are taken from a value are sound, whatever the value is. -/
theorem sound (h : s.TakenFrom v) : s.Sound where
  commands := h.commands.cases_on_value (fun _ _ hc => hc.1) (by decide)
  arguments := by
    refine h.commands.cases_on_value (P := fun commands => ∀ c ∈ commands, c ≠ []) (fun w commands hc c hmem => ?_) (by decide)
    obtain ⟨-, items, -, hkept⟩ := hc
    obtain ⟨item, -, hitem⟩ := hkept.exists_mem c hmem
    exact hitem.1
  testDir := h.testDir.cases_on_value (fun _ _ hname => hname.1) (by decide)
  suffix := by
    refine h.suffix.cases_on_value (P := (· ≠ "")) (fun w suffix hsuffix => ?_) (by decide)
    obtain ⟨t, ht, -, ⟨rfl, -⟩ | ⟨rfl, -⟩⟩ := hsuffix
    · exact ht
    · exact fun h => ht (String.append_eq_empty_iff.1 h).2
  point := by
    refine h.suffix.cases_on_value (P := fun suffix => suffix.toList.head? = some '.') (fun w suffix hsuffix => ?_) (by decide)
    obtain ⟨t, -, -, ⟨rfl, ht⟩ | ⟨rfl, -⟩⟩ := hsuffix
    · exact ht
    · rw [String.toList_append]
      rfl

theorem commands_congr (h : s.TakenFrom v) (h' : s'.TakenFrom v') (hagree : v.AgreeUnder "runner" "commands" v') :
    s.commands = s'.commands :=
  h.commands.congr h'.commands hagree fun _ _ _ => IsCommands.unique

theorem testDir_congr (h : s.TakenFrom v) (h' : s'.TakenFrom v') (hagree : v.AgreeUnder "output" "test_dir" v') :
    s.testDir = s'.testDir :=
  h.testDir.congr h'.testDir hagree fun _ _ _ => IsTestDir.unique

theorem suffix_congr (h : s.TakenFrom v) (h' : s'.TakenFrom v') (hagree : v.AgreeUnder "output" "suffix" v') :
    s.suffix = s'.suffix :=
  h.suffix.congr h'.suffix hagree fun _ _ _ => IsSuffix.unique

end Settings.TakenFrom

/-! ## Reading -/

section
variable {α β γ ε : Type} {v : Value}

/-- A reader that does not fail and tells which result, if any, a usable value gives. -/
def Gives (x : Except ε γ) (pick : γ → Option β) (R : β → Prop) : Prop := ∃ c, x = .ok c ∧ ∀ b, pick c = some b ↔ R b

/-- Reading some values one after another keeps what the usable ones give. -/
theorem kept_mapM {f : α → Except ε γ} {pick : γ → Option β} {R : α → β → Prop} {as : List α}
    (h : ∀ a ∈ as, Gives (f a) pick (R a)) : ∃ cs, as.mapM f = .ok cs ∧ Kept R as (cs.filterMap pick) := by
  induction as with
  | nil => exact ⟨[], rfl, .nil⟩
  | cons a as ih =>
    obtain ⟨c, hc, hpick⟩ := h a List.mem_cons_self
    obtain ⟨cs, hcs, hkept⟩ := ih fun a ha => h a (List.mem_cons_of_mem _ ha)
    refine ⟨c :: cs, by rw [List.mapM_cons, hc, hcs]; rfl, ?_⟩
    cases hb : pick c with
    | none =>
      rw [List.filterMap_cons_none hb]
      refine .drop (fun b hab => ?_) hkept
      rw [(hpick b).2 hab] at hb
      cases hb
    | some b =>
      rw [List.filterMap_cons_some hb]
      exact .keep ((hpick b).1 hb) hkept

theorem text?_gives (hv : v.Printable) : Gives v.text? id (IsText v) := by
  cases v with
  | str s => exact ⟨some s, rfl, fun b => ⟨fun h => by cases h; exact .str s, fun h => by cases h; rfl⟩⟩
  | int n =>
    have hshort : n.natAbs < Nat.pow 10 Number.maxDigits := by
      rwa [Printable, printable, decide_eq_true_iff] at hv
    refine ⟨some (toString n), ?_, fun b => ⟨fun h => by cases h; exact .int n, fun h => by cases h; rfl⟩⟩
    rw [text?, Number.integerText, if_pos hshort]
    rfl
  | float x => exact ⟨some x.toText, rfl, fun b => ⟨fun h => by cases h; exact .float x, fun h => by cases h; rfl⟩⟩
  | null | bool | bytes | moment | list | map | set | elided =>
    exact ⟨none, rfl, fun b => ⟨fun h => (nomatch h), fun h => (nomatch h)⟩⟩

theorem argument?_gives (hv : v.Printable) : Gives v.argument? id (IsArgument v) := by
  cases v with
  | bool t =>
    refine ⟨_, rfl, fun b => ⟨fun h => ?_, fun h => ?_⟩⟩
    · obtain rfl := Option.some.inj h
      exact .truth t
    · cases h with
      | text h => cases h
      | truth => rfl
  | null | str | int | float | bytes | moment | list | map | set | elided =>
    obtain ⟨r, hr, hgives⟩ := text?_gives hv
    refine ⟨r, hr, fun b => (hgives b).trans ⟨.text, fun h => ?_⟩⟩
    cases h with
    | text h => exact h

theorem items?_eq_some_iff {items : List Value} : v.items? = some items ↔ Items v items := by
  cases v with
  | list items' => exact ⟨fun h => by cases h; exact .list _, fun h => by cases h; rfl⟩
  | bytes bs => exact ⟨fun h => by cases h; exact .bytes bs, fun h => by cases h; rfl⟩
  | null | bool | int | float | str | moment | map | set | elided =>
    exact ⟨fun h => (nomatch h), fun h => (nomatch h)⟩

theorem Yaml.Value.Printable.items {items : List Value} (hv : v.Printable) (h : Items v items) :
    ∀ w ∈ items, w.Printable := by
  cases h with
  | list => exact hv.item
  | bytes bs =>
    rw [List.forall_mem_map]
    intro b _
    have hpower : ∀ digits, 3 ≤ digits → 256 ≤ Nat.pow 10 digits := fun digits h =>
      Nat.le_trans (by decide : 256 ≤ 10 ^ 3) (Nat.pow_le_pow_right (by decide) h)
    rw [Printable, printable, decide_eq_true_iff]
    exact Nat.lt_of_lt_of_le b.toNat_lt (hpower _ (by decide))

/-- The result of a reader that gives nothing for a value by an empty list. -/
def nonempty? (l : List β) : Option (List β) := if l.isEmpty then none else some l

theorem nonempty?_eq_some_iff {l l' : List β} : nonempty? l = some l' ↔ l' ≠ [] ∧ l = l' := by
  rw [nonempty?]
  cases l with
  | nil => exact ⟨fun h => (nomatch h), fun ⟨hne, heq⟩ => absurd heq.symm hne⟩
  | cons a l => exact ⟨fun h => by cases h; exact ⟨List.cons_ne_nil a l, rfl⟩, fun ⟨_, heq⟩ => congrArg some heq⟩

theorem filterMap_nonempty? (ls : List (List β)) : ls.filterMap nonempty? = ls.filter fun l => !l.isEmpty := by
  rw [← List.filterMap_eq_filter]
  congr 1
  funext l
  cases l <;> rfl

/-- What the reader of a command gives is empty or the arguments of the command. -/
theorem command_reads (hv : v.Printable) : ∃ c, v.command = .ok c ∧ ∀ b, b ≠ [] → (c = b ↔ Arguments v b) := by
  have hitems : ∀ {items}, Items v items → v.command = (items.mapM argument?).map (fun rs => rs.filterMap id) →
      ∃ c, v.command = .ok c ∧ ∀ b, b ≠ [] → (c = b ↔ Arguments v b) := by
    intro items h hcommand
    obtain ⟨rs, hrs, hkept⟩ := kept_mapM (f := argument?) (R := IsArgument) fun w hw => argument?_gives (hv.items h w hw)
    have harguments := Arguments.list h hkept
    exact ⟨_, by rw [hcommand, hrs]; rfl, fun b _ => ⟨fun h => h ▸ harguments, fun h => harguments.unique h⟩⟩
  cases v with
  | str s => exact ⟨_, rfl, fun b _ => ⟨fun h => h ▸ .words s, fun h => (Arguments.words s).unique h⟩⟩
  | list items => exact hitems (.list items) rfl
  | bytes bs => exact hitems (.bytes bs) rfl
  | null | bool | int | float | moment | map | set | elided =>
    refine ⟨[], rfl, fun b hb => ⟨fun h => absurd h.symm hb, fun h => ?_⟩⟩
    cases h with
    | list h => cases h

theorem command_gives (hv : v.Printable) : Gives v.command nonempty? (IsCommand v) := by
  obtain ⟨c, hc, hgives⟩ := command_reads hv
  exact ⟨c, hc, fun b => nonempty?_eq_some_iff.trans (and_congr_right (hgives b))⟩

theorem commands_gives (hv : v.Printable) : Gives v.commands nonempty? (IsCommands v) := by
  cases hitems : v.items? with
  | some items =>
    have h := items?_eq_some_iff.1 hitems
    obtain ⟨cs, hcs, hkept⟩ := kept_mapM (f := command) (R := IsCommand) fun w hw => command_gives (hv.items h w hw)
    rw [filterMap_nonempty?] at hkept
    refine ⟨cs.filter fun c => !c.isEmpty, by rw [Value.commands, hitems, Option.getD_some, hcs]; rfl, fun b => ?_⟩
    rw [nonempty?_eq_some_iff]
    refine and_congr_right fun hb => ⟨fun heq => ⟨items, h, heq ▸ hkept⟩, fun ⟨items', h', hkept'⟩ => ?_⟩
    obtain rfl := h.unique h'
    exact hkept.unique hkept' fun _ _ _ hc hc' => hc.2.unique hc'.2
  | none =>
    refine ⟨[], by rw [Value.commands, hitems]; rfl, fun b => ⟨fun h => (nomatch h), fun ⟨_, items, h, _⟩ => ?_⟩⟩
    rw [items?_eq_some_iff.2 h] at hitems
    cases hitems

end

/-! ## Taking settings -/

section
variable {α : Type} {R : Value → α → Prop} {v : Value} {group key : String} {byDefault : α}

theorem Takes.of_option {r : Option α} (h : ∀ a, r = some a ↔ ∃ w, v.Under group key w ∧ R w a) :
    Takes R v group key byDefault (r.getD byDefault) := by
  cases r with
  | some a =>
    obtain ⟨w, hw, ha⟩ := (h a).1 rfl
    exact .given hw ha
  | none => exact .otherwise fun w a hw ha => nomatch (h a).2 ⟨w, hw, ha⟩

/-- The value below two keys is read if it is there. -/
theorem under_gives {β γ ε : Type} {f : Value → Except ε γ} {missing : γ} {pick : γ → Option β} {R : Value → β → Prop}
    (hmissing : pick missing = none) (h : ∀ w, v.Under group key w → Gives (f w) pick (R w)) :
    Gives (match settingAt? v group key with | some w => f w | none => .ok missing) pick
      fun b => ∃ w, v.Under group key w ∧ R w b := by
  cases hw : settingAt? v group key with
  | some w =>
    rw [settingAt?_eq_some_iff] at hw
    obtain ⟨c, hc, hgives⟩ := h w hw
    refine ⟨c, hc, fun b => (hgives b).trans ⟨fun hb => ⟨w, hw, hb⟩, fun ⟨w', hw', hb⟩ => ?_⟩⟩
    rwa [hw.unique hw']
  | none =>
    refine ⟨missing, rfl, fun b => ⟨fun hb => ?_, fun ⟨w, hw', _⟩ => ?_⟩⟩
    · rw [hmissing] at hb
      cases hb
    · rw [settingAt?_eq_some_iff.2 hw'] at hw
      cases hw

theorem textSetting?_gives (hv : v.Printable) (group key : String) :
    Gives (textSetting? v group key) id fun s => ∃ w, v.Under group key w ∧ s ≠ "" ∧ IsText w s := by
  refine under_gives (R := fun w s => s ≠ "" ∧ IsText w s) rfl fun w hw => ?_
  obtain ⟨r, hr, hgives⟩ := text?_gives (hv.under hw)
  refine ⟨r.filter fun s => !s.isEmpty, by rw [hr]; rfl, fun s => ?_⟩
  rw [id, Option.filter_eq_some_iff, and_comm, Bool.not_eq_true', ← Bool.not_eq_true, String.isEmpty_iff]
  exact and_congr_right fun _ => hgives s

theorem commandsSetting_gives (hv : v.Printable) (group key : String) :
    Gives (match settingAt? v group key with | some w => w.commands | none => .ok []) nonempty?
      fun commands => ∃ w, v.Under group key w ∧ IsCommands w commands :=
  under_gives rfl fun _ hw => commands_gives (hv.under hw)

/-- The settings of a mapping whose integers have a text are taken from it. -/
theorem settingsOf_taken (hv : v.Printable) : ∃ s, settingsOf v = .ok s ∧ s.TakenFrom v := by
  obtain ⟨commands, hcommands, hgives⟩ := commandsSetting_gives hv "runner" "commands"
  obtain ⟨testDir, htestDir, hdirectory⟩ := textSetting?_gives hv "output" "test_dir"
  obtain ⟨suffix, hsuffix, hending⟩ := textSetting?_gives hv "output" "suffix"
  have hpointed : ∀ s, suffix.map pointed = some s ↔ ∃ w, v.Under "output" "suffix" w ∧ IsSuffix w s := by
    intro s
    simp only [Option.map_eq_some_iff, isSuffix_iff]
    constructor
    · rintro ⟨t, ht, rfl⟩
      obtain ⟨w, hw, hne, htext⟩ := (hending t).1 ht
      exact ⟨w, hw, t, hne, htext, rfl⟩
    · rintro ⟨w, hw, t, hne, htext, rfl⟩
      exact ⟨t, (hending t).2 ⟨w, hw, hne, htext⟩, rfl⟩
  refine ⟨⟨(nonempty? commands).getD defaultCommands, testDir.getD "__tests__", (suffix.map pointed).getD ".test.tsx"⟩, ?_,
    .of_option hgives, .of_option hdirectory, .of_option hpointed⟩
  have hchosen : (if commands.isEmpty then defaultCommands else commands) = (nonempty? commands).getD defaultCommands := by
    rw [nonempty?]
    split
    · rfl
    · rfl
  rw [settingsOf, ← hchosen, htestDir, hsuffix]
  cases hsetting : settingAt? v "runner" "commands" with
  | some w =>
    have hread : w.commands = .ok commands := by rwa [hsetting] at hcommands
    dsimp only
    rw [hread]
    rfl
  | none =>
    obtain rfl : [] = commands := by
      rw [hsetting] at hcommands
      exact Except.ok.inj hcommands
    rfl

end

end Suitewright
