/-
  Which signals an output gives, and in which order.

  * `Detects`: the signals of one kind, by the phrases that stand in an output; `detects_ofKind`: the detectors give them;
  * `signals_detected`: the signals of an output are, kind by kind, the detected ones without repetitions; a missing
    property is told with the first line number on the line that misses it.
-/
import Mathlib.Data.List.Forall2
import Mathlib.Data.String.Basic
import Suitewright.Proofs.Failure.Reading

namespace Suitewright

open Text

/-! ## Signals by phrases -/

/-- A signal that an output gives once when all of some phrases stand in it. -/
inductive Noticed (text : List Char) (phrases : List String) (s : Signal) : List Signal → Prop
  /-- Every phrase stands in the output. -/
  | once : (∀ p ∈ phrases, p.toList <:+: text) → Noticed text phrases s [s]
  /-- A phrase is not there. -/
  | never {p : String} : p ∈ phrases → ¬ p.toList <:+: text → Noticed text phrases s []

/-- The missing properties of one line, all with the line number that the line tells. -/
inductive DetectsOnLine (line : List Char) : List Signal → Prop
  /-- The line tells one number for all its properties. -/
  | props {names : List (List Char)} {l : Option Int} : Found PropertyAt line names → LineOf line l →
      DetectsOnLine line (names.map fun name => .missingProp (.ofList name) l)

/-- The signals of each kind in an output, in the order of the phrases that give them and with repetitions. -/
inductive Detects (text : List Char) : Nat → List Signal → Prop
  /-- A value with a second pair of quotes is not assignable, and another one is proposed. -/
  | quotedLiteral {found : List Signal} :
      Noticed text ["is not assignable to type", "Did you mean"] .quotedLiteral found → Detects text 0 found
  /-- An identifier is expected, and an arrow stands somewhere. -/
  | malformedClosure {found : List Signal} :
      Noticed text ["Identifier expected", "=>"] .malformedClosure found → Detects text 1 found
  /-- Modules that are not found, of which only relative ones count. -/
  | unresolvedImport {modules : List (List Char)} : Found ModuleAt text modules → Detects text 2
      ((modules.filter fun m => m.head? = some '.').map fun m => .unresolvedImport (.ofList m))
  /-- Exports that are not found, and behind them members that are not exported. -/
  | namedImportMissing {exports members : List (List Char)} : Found ExportAt text exports →
      Found MemberAt text members → Detects text 3 ((exports ++ members).map fun s => .namedImportMissing (.ofList s))
  /-- Roles that no element has. -/
  | roleNotFound {roles : List (List Char)} : Found RoleAt text roles →
      Detects text 4 (roles.map fun r => .roleNotFound (.ofList r))
  /-- Missing properties, line by line. -/
  | missingProp {found : List (List Signal)} : List.Forall₂ DetectsOnLine (lines text) found →
      Detects text 5 found.flatten
  /-- A style class is expected. -/
  | classMismatch {found : List Signal} :
      Noticed text ["toHaveClass", "Expected"] .classMismatch found → Detects text 6 found
  /-- No element shows a text. -/
  | textNotFound {found : List Signal} :
      Noticed text ["Unable to find an element with the text"] .textNotFound found → Detects text 7 found
  /-- Roles that no element has, of which only those of a status or an image count. -/
  | statusOrImageRole {roles : List (List Char)} : Found RoleAt text roles → Detects text 8
      ((roles.filter fun r => r = "status".toList ∨ r = "img".toList).map fun r => .statusOrImageRole (.ofList r))

/-! ## Detectors -/

section
variable {text line : List Char}

theorem noticed_signalIf {condition : Bool} {phrases : List String} (s : Signal)
    (h : condition = phrases.all fun p => mentions p text) : Noticed text phrases s (signalIf condition s) := by
  subst h
  have hmention : ∀ p, mentions p text = true ↔ p.toList <:+: text := fun _ => occursIn_iff
  rw [signalIf]
  split
  · next hall => exact .once fun p hp => (hmention p).1 (List.all_eq_true.1 hall p hp)
  · next hnot =>
    obtain ⟨p, hp, hno⟩ : ∃ p ∈ phrases, ¬ mentions p text = true := by simpa using hnot
    exact .never hp fun hin => hno ((hmention p).2 hin)

theorem mapM_forall₂ {α β ε : Type} {f : α → Except ε β} {as : List α} {bs : List β} (h : as.mapM f = .ok bs) :
    List.Forall₂ (fun a b => f a = .ok b) as bs := by
  induction as generalizing bs with
  | nil =>
    obtain rfl : [] = bs := Except.ok.inj h
    exact .nil
  | cons a as ih =>
    rw [List.mapM_cons] at h
    obtain ⟨b, ha, h⟩ := bind_eq_ok.1 h
    obtain ⟨bs', has, h⟩ := bind_eq_ok.1 h
    obtain rfl : b :: bs' = bs := Except.ok.inj h
    exact .cons ha (ih has)

theorem lineNumber_eq_ok {digits : List Char} {n : Int} (h : lineNumber digits = .ok n) : n = decimalValue digits := by
  rw [lineNumber] at h
  split at h
  · cases h
  · exact (Except.ok.inj h).symm

theorem detectsOnLine {found : List Signal} (h : missingPropsOfLine line = .ok found) : DetectsOnLine line found := by
  obtain ⟨l, hline⟩ : ∃ l, LineOf line l := ⟨_, lineOf_iff.2 rfl⟩
  have hfound : List.Forall₂ Eq ((findAll missingProp? line).map fun name => Signal.missingProp (.ofList name) l) found := by
    refine List.forall₂_map_left_iff.2 ((mapM_forall₂ h).imp fun name s hs => ?_)
    rw [lineOf_iff.1 hline]
    cases hlocation : location? line with
    | none =>
      rw [hlocation] at hs
      exact Except.ok.inj hs
    | some digits =>
      rw [hlocation] at hs
      obtain ⟨n, hn, hs⟩ := bind_eq_ok.1 hs
      rw [Option.map_some, ← lineNumber_eq_ok hn]
      exact Except.ok.inj hs
  rw [List.forall₂_eq_eq_eq] at hfound
  rw [← hfound]
  exact .props (missingProp?_recognizes.found line) hline

theorem detects_missingProps {missing : List Signal} (h : missingProps text = .ok missing) : Detects text 5 missing := by
  obtain ⟨found, hlines, h⟩ := bind_eq_ok.1 h
  obtain rfl : found.flatten = missing := Except.ok.inj h
  exact .missingProp ((mapM_forall₂ hlines).imp fun _ _ => detectsOnLine)

theorem isPrefixOf_dot (cs : List Char) : ['.'].isPrefixOf cs = decide (cs.head? = some '.') := by
  cases cs with
  | nil => rfl
  | cons c cs => simp [List.isPrefixOf, eq_comm, BEq.beq]

theorem contains_fallbackRoles (cs : List Char) :
    fallbackRoles.contains (String.ofList cs) = decide (cs = "status".toList ∨ cs = "img".toList) := by
  rw [Bool.eq_iff_iff, List.contains_iff_mem, decide_eq_true_eq]
  simp only [fallbackRoles, List.mem_cons, List.not_mem_nil, or_false, String.ofList_eq]

/-- The detectors give the signals that the phrases of an output call for. -/
theorem detects_ofKind {missing : List Signal} (h : missingProps text = .ok missing) {k : Nat} (hk : k < 9) :
    Detects text k (signalsOfKind text missing k) := by
  have hroles := missingRole?_recognizes.found text
  match k with
  | 0 => exact .quotedLiteral (noticed_signalIf _ (by simp))
  | 1 => exact .malformedClosure (noticed_signalIf _ (by simp))
  | 2 =>
    rw [signalsOfKind, unresolvedImports]
    simp only [isPrefixOf_dot]
    exact .unresolvedImport (moduleNotFound?_recognizes.found text)
  | 3 => exact .namedImportMissing (exportNotFound?_recognizes.found text) (noExportedMember?_recognizes.found text)
  | 4 =>
    rw [signalsOfKind, missingRoles, List.map_map]
    exact .roleNotFound hroles
  | 5 => exact detects_missingProps h
  | 6 => exact .classMismatch (noticed_signalIf _ (by simp))
  | 7 => exact .textNotFound (noticed_signalIf _ (by simp))
  | 8 =>
    rw [signalsOfKind, missingRoles, List.filter_map, List.map_map]
    simp only [Function.comp_def, contains_fallbackRoles]
    exact .statusOrImageRole hroles
  | k + 9 => omega

end

/-! ## What is detected -/

section
variable {text line : List Char} {found : List Signal}

theorem forall₂_mem_left {α β : Type} {R : α → β → Prop} {as : List α} {bs : List β} (h : List.Forall₂ R as bs) :
    ∀ a ∈ as, ∃ b ∈ bs, R a b := by
  induction h with
  | nil => exact fun a ha => (List.not_mem_nil ha).elim
  | @cons a b as bs hab _ ih =>
    intro a' ha'
    rcases List.mem_cons.1 ha' with rfl | ha'
    · exact ⟨b, by simp, hab⟩
    · obtain ⟨b', hb', hab'⟩ := ih a' ha'
      exact ⟨b', List.mem_cons_of_mem b hb', hab'⟩

theorem DetectsOnLine.mem_iff (h : DetectsOnLine line found) {p : String} {l : Option Int} :
    .missingProp p l ∈ found ↔ (∃ names, Found PropertyAt line names ∧ p.toList ∈ names) ∧ LineOf line l := by
  obtain @⟨names, l', hnames, hline⟩ := h
  rw [List.mem_map]
  constructor
  · rintro ⟨name, hname, heq⟩
    obtain ⟨rfl, rfl⟩ := Signal.missingProp.inj heq
    exact ⟨⟨names, hnames, by rwa [String.toList_ofList]⟩, hline⟩
  · rintro ⟨⟨names', hnames', hmem⟩, hline'⟩
    obtain rfl := missingProp?_recognizes.found_unique hnames hnames'
    obtain rfl : l' = l := (lineOf_iff.1 hline).trans (lineOf_iff.1 hline').symm
    exact ⟨_, hmem, by rw [String.ofList_toList]⟩

theorem Detects.missingProp_iff (h : Detects text 5 found) {p : String} {l : Option Int} : .missingProp p l ∈ found ↔
    ∃ line ∈ lines text, (∃ names, Found PropertyAt line names ∧ p.toList ∈ names) ∧ LineOf line l := by
  obtain - | - | - | - | - | @⟨founds, hlines⟩ := h
  rw [List.mem_flatten]
  constructor
  · rintro ⟨ofLine, hmem, hs⟩
    obtain ⟨line, hline, hdetects⟩ := forall₂_mem_left hlines.flip ofLine hmem
    exact ⟨line, hline, hdetects.mem_iff.1 hs⟩
  · rintro ⟨line, hline, hs⟩
    obtain ⟨ofLine, hmem, hdetects⟩ := forall₂_mem_left hlines line hline
    exact ⟨ofLine, hmem, hdetects.mem_iff.2 hs⟩

theorem Detects.unresolvedImport_mem (h : Detects text 2 found) {m : String} (hm : .unresolvedImport m ∈ found) :
    m.toList.head? = some '.' ∧ '\'' ∉ m.toList ∧ '"' ∉ m.toList := by
  obtain - | - | @⟨modules, hmodules⟩ := h
  obtain ⟨cs, hcs, heq⟩ := List.mem_map.1 hm
  obtain rfl := Signal.unresolvedImport.inj heq
  obtain ⟨hmem, hdot⟩ := List.mem_filter.1 hcs
  obtain ⟨_, _, _, -, _, -, -, hfree, -⟩ := hmodules.exists_stands hmem
  rw [String.toList_ofList]
  exact ⟨of_decide_eq_true hdot, hfree '\'' (by decide), hfree '"' (by decide)⟩

theorem Detects.statusOrImageRole_iff {missing : List Signal} (h : Detects text 8 found) (h' : Detects text 4 missing)
    {r : String} : .statusOrImageRole r ∈ found ↔ (r = "status" ∨ r = "img") ∧ .roleNotFound r ∈ missing := by
  obtain - | - | - | - | - | - | - | - | @⟨roles, hroles⟩ := h
  obtain - | - | - | - | @⟨roles', hroles'⟩ := h'
  obtain rfl := missingRole?_recognizes.found_unique hroles hroles'
  simp only [List.mem_map, List.mem_filter, decide_eq_true_eq, Signal.statusOrImageRole.injEq, Signal.roleNotFound.injEq,
    String.ofList_eq, String.toList_inj, exists_eq_right]
  exact and_comm

/-- A property that misses at some place of a line is found there, unless its name is what may end another phrase. -/
theorem found_of_place {u v rest p : List Char} (h : PropertyAt v p rest) (hp : ¬ " is missing in type".toList <+: p) :
    ∃ names, Found PropertyAt (u ++ v) names ∧ p ∈ names := by
  refine ⟨_, missingProp?_recognizes.found (u ++ v), ?_⟩
  refine (missingProp?_recognizes.mem_or_overlap (missingProp?_recognizes.found _) h).resolve_right ?_
  rintro ⟨u₁, u₂, name, v₁, v₂, -, hu₂, hv, hv₁, hover⟩
  exact hp (hover.overlap h hu₂ hv hv₁)

-- the second phrase begins in the name that the first one takes
example : findAll missingProp? "Property 'Property ' is missing in type' is missing in type".toList =
    ["Property ".toList] := by decide

end

/-- An output that can be classified gives distinct signals in the order of their kinds. Those of each kind are the first
occurrences of the signals that its phrases call for. A role that no element has also gives a signal of its own kind when
it is that of a status or an image; modules are relative and without quotes; a missing property is told just with the
number that its line tells, and at any place of a line where its name is not what ends an earlier phrase. -/
theorem signals_detected {output : String} {signals : List Signal} (h : classify output = .ok signals) :
    signals.Nodup ∧ Sorted signals ∧
    (∀ k < 9, ∃ found, Detects output.toList k found ∧
      signals.filter (fun s => s.rank = k) = found.eraseDups) ∧
    (∀ r, .statusOrImageRole r ∈ signals ↔ (r = "status" ∨ r = "img") ∧ .roleNotFound r ∈ signals) ∧
    (∀ m, .unresolvedImport m ∈ signals → m.toList.head? = some '.' ∧ '\'' ∉ m.toList ∧ '"' ∉ m.toList) ∧
    (∀ p l, .missingProp p l ∈ signals ↔ ∃ line ∈ lines output.toList,
      (∃ names, Found PropertyAt line names ∧ p.toList ∈ names) ∧ LineOf line l) ∧
    ∀ p l u v rest, u ++ v ∈ lines output.toList → PropertyAt v p.toList rest → LineOf (u ++ v) l →
      ¬ " is missing in type".toList <+: p.toList → .missingProp p l ∈ signals := by
  obtain ⟨missing, hmissing, hkinds⟩ := classify_ofKind h
  have hdetects : ∀ k < 9, Detects output.toList k (signalsOfKind output.toList missing k) := fun k =>
    detects_ofKind hmissing
  have hmem : ∀ s, s ∈ signals ↔ s ∈ signalsOfKind output.toList missing s.rank := fun s =>
    mem_iff_of_filter s (hkinds s.rank s.rank_lt)
  have hprop : ∀ p l, .missingProp p l ∈ signals ↔ ∃ line ∈ lines output.toList,
      (∃ names, Found PropertyAt line names ∧ p.toList ∈ names) ∧ LineOf line l := fun p l =>
    (hmem _).trans (hdetects 5 (by decide)).missingProp_iff
  refine ⟨classify_nodup h, classify_sorted h, fun k hk => ⟨_, hdetects k hk, hkinds k hk⟩, fun r => ?_, fun m hm => ?_,
    hprop, fun p l u v rest hline hstands htold hname => ?_⟩
  · rw [hmem, hmem]
    exact (hdetects 8 (by decide)).statusOrImageRole_iff (hdetects 4 (by decide))
  · exact (hdetects 2 (by decide)).unresolvedImport_mem ((hmem _).1 hm)
  · exact (hprop p l).2 ⟨u ++ v, hline, found_of_place hstands hname, htold⟩

/-- A message that misses an image, and on its second line a property at a place. -/
def imageMissing : String :=
  "Unable to find an element with the role \"img\"\na.tsx:12:5 Property 'title' is missing in type"

theorem classify_imageMissing : classify imageMissing =
    .ok [.roleNotFound "img", .missingProp "title" (some 12), .statusOrImageRole "img"] :=
  eq_ok_of_toOption (by decide)

/-- The role of an image gives a second signal, and the line of the property tells its number. -/
theorem signals_detected_image :
    (∃ found, Detects imageMissing.toList 8 found ∧ found.eraseDups = [.statusOrImageRole "img"]) ∧
    ∃ line ∈ lines imageMissing.toList,
      (∃ names, Found PropertyAt line names ∧ "title".toList ∈ names) ∧ LineOf line (some 12) := by
  obtain ⟨-, -, hkinds, -, -, hprop, -⟩ := signals_detected classify_imageMissing
  obtain ⟨found, hdetects, hfound⟩ := hkinds 8 (by decide)
  exact ⟨⟨found, hdetects, hfound.symm.trans (by decide)⟩, (hprop "title" (some 12)).1 (by decide)⟩

end Suitewright
