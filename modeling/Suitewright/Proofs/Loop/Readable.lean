/-
  Outputs that repairs can read.

  * `Readable`: outputs whose line numbers are short enough and whose symbols can stand in a template;
  * `classify_ok_iff`, `mem_classify`: when an output can be classified, and what its signals are;
  * `mendAll_ok_iff`: when the rules of signals give a suite, whatever the suite before them is;
  * `repair_readable`: repairs by an output succeed just when it can be read, for every suite and component, and a loop
    whose outputs can all be read ends.
-/
import Suitewright.Proofs.Failure.Reading
import Suitewright.Proofs.Loop.Stalling

namespace Suitewright

open Text

/-! ## Line numbers -/

/-- Whether the line number that comes with the properties of a line of output can be read. -/
def numberFits (line : List Char) : Bool :=
  (findAll missingProp? line).isEmpty || (location? line).all fun digits => digits.length ≤ maxLineDigits

theorem lineNumber_ok_iff {digits : List Char} :
    (∃ n, lineNumber digits = .ok n) ↔ digits.length ≤ maxLineDigits := by
  rw [lineNumber]
  split
  · next h => exact ⟨fun ⟨_, h⟩ => (nomatch h), fun hle => absurd h (Nat.not_lt.2 hle)⟩
  · next h => exact ⟨fun _ => Nat.not_lt.1 h, fun _ => ⟨_, rfl⟩⟩

theorem missingPropsOfLine_ok_iff {line : List Char} :
    (∃ signals, missingPropsOfLine line = .ok signals) ↔ numberFits line = true := by
  rw [missingPropsOfLine, mapM_ok_iff, numberFits]
  cases hnames : findAll missingProp? line with
  | nil => exact ⟨fun _ => rfl, fun _ _ h => (List.not_mem_nil h).elim⟩
  | cons name names =>
    rw [List.isEmpty_cons, Bool.false_or]
    cases hlocation : location? line with
    | none => exact ⟨fun _ => rfl, fun _ name _ => ⟨_, rfl⟩⟩
    | some digits =>
      rw [Option.all_some, decide_eq_true_eq, ← lineNumber_ok_iff]
      constructor
      · intro h
        obtain ⟨signal, hsignal⟩ := h name (by simp)
        obtain ⟨n, hn, -⟩ := bind_eq_ok.1 hsignal
        exact ⟨n, hn⟩
      · rintro ⟨n, hn⟩ name -
        exact ⟨.missingProp (.ofList name) (some n), bind_eq_ok.2 ⟨n, hn, rfl⟩⟩

theorem missingProps_ok_iff {text : List Char} :
    (∃ signals, missingProps text = .ok signals) ↔ ∀ line ∈ lines text, numberFits line = true := by
  have hlines : (∃ found, (lines text).mapM missingPropsOfLine = .ok found) ↔
      ∀ line ∈ lines text, numberFits line = true := by
    rw [mapM_ok_iff]
    exact forall₂_congr fun line _ => missingPropsOfLine_ok_iff
  rw [← hlines]
  constructor
  · rintro ⟨signals, h⟩
    obtain ⟨found, hfound, -⟩ := bind_eq_ok.1 h
    exact ⟨found, hfound⟩
  · rintro ⟨found, hfound⟩
    exact ⟨found.flatten, bind_eq_ok.2 ⟨found, hfound, rfl⟩⟩

/-! ## Signals of an output -/

theorem classify_ok_iff {output : String} :
    (∃ signals, classify output = .ok signals) ↔ ∀ line ∈ lines output.toList, numberFits line = true := by
  rw [← missingProps_ok_iff]
  constructor
  · rintro ⟨signals, h⟩
    obtain ⟨all, hall, -⟩ := bind_eq_ok.1 h
    obtain ⟨missing, hmissing, -⟩ := bind_eq_ok.1 hall
    exact ⟨missing, hmissing⟩
  · rintro ⟨missing, hmissing⟩
    exact ⟨_, bind_eq_ok.2 ⟨_, bind_eq_ok.2 ⟨missing, hmissing, rfl⟩, rfl⟩⟩

/-- The symbols that an output says are not exported. -/
def missingSymbols (text : List Char) : List (List Char) := findAll exportNotFound? text ++ findAll noExportedMember? text

/-- Signals of missing symbols are those of an output's missing symbols. -/
theorem mem_classify {output : String} {signals : List Signal} (h : classify output = .ok signals) {symbol : String} :
    .namedImportMissing symbol ∈ signals ↔ symbol.toList ∈ missingSymbols output.toList := by
  obtain ⟨_, -, hmem⟩ := mem_classify_iff h
  rw [hmem]
  change _ ∈ namedImportsMissing output.toList ↔ _
  rw [namedImportsMissing, List.mem_map]
  constructor
  · rintro ⟨cs, hcs, hsymbol⟩
    obtain rfl : String.ofList cs = symbol := Signal.namedImportMissing.inj hsymbol
    rwa [String.toList_ofList]
  · exact fun h => ⟨_, h, by rw [String.ofList_toList]⟩

/-! ## Templates -/

/-- The template for imports of a symbol as the default export. -/
def importTemplate (symbol : String) : String := "import " ++ symbol ++ " from"

/-- Whether the template that the rule of a signal uses, if it uses one, can be read. -/
def Signal.hasTemplate : Signal → Bool
  | namedImportMissing symbol => (Template.read (importTemplate symbol)).isOk
  | _ => true

/-- Symbols without a backslash can stand in a template. -/
theorem read_importTemplate {symbol : String} (h : '\\' ∉ symbol.toList) :
    (Template.read (importTemplate symbol)).isOk = true := by
  obtain ⟨parts, hparts, -⟩ := bind_eq_ok.1 (defaultImport_eq h [])
  exact isOk_iff.2 ⟨parts, hparts⟩

-- a backslash may begin an escape that has no meaning
example : (Template.read (importTemplate "C:\\widgets")).isOk = false := by decide

section
variable {m : Component} {path : String} {s : Signal} {signals : List Signal}

theorem mend_ok_iff (source : String) : (∃ revised, s.mend source m path = .ok revised) ↔ s.hasTemplate = true := by
  cases s with
  | namedImportMissing symbol =>
    rw [Signal.hasTemplate, isOk_iff]
    constructor
    · rintro ⟨revised, h⟩
      obtain ⟨chars, hchars, -⟩ := bind_eq_ok.1 h
      obtain ⟨parts, hparts, -⟩ := bind_eq_ok.1 hchars
      exact ⟨parts, hparts⟩
    · rintro ⟨parts, hparts⟩
      exact ⟨_, bind_eq_ok.2 ⟨_, bind_eq_ok.2 ⟨parts, hparts, rfl⟩, rfl⟩⟩
  | _ => exact ⟨fun _ => rfl, fun _ => ⟨_, rfl⟩⟩

/-- Rules give a suite when their templates can be read, whatever the suite before them is. -/
theorem mendAll_ok_iff (source : String) :
    (∃ revised, mendAll m path signals source = .ok revised) ↔ ∀ s ∈ signals, s.hasTemplate = true := by
  induction signals generalizing source with
  | nil => exact ⟨fun _ _ h => (List.not_mem_nil h).elim, fun _ => ⟨source, rfl⟩⟩
  | cons s signals ih =>
    rw [List.forall_mem_cons, ← mend_ok_iff source]
    constructor
    · rintro ⟨revised, h⟩
      rw [mendAll, List.foldlM_cons] at h
      obtain ⟨next, hnext, h⟩ := bind_eq_ok.1 h
      exact ⟨⟨next, hnext⟩, (ih next).1 ⟨revised, h⟩⟩
    · rintro ⟨⟨next, hnext⟩, hrest⟩
      obtain ⟨revised, h⟩ := (ih next).2 hrest
      exact ⟨revised, by rw [mendAll, List.foldlM_cons]; exact bind_eq_ok.2 ⟨next, hnext, h⟩⟩

end

/-! ## Repairs -/

/-- Outputs that repairs can read. -/
structure Readable (output : String) : Prop where
  /-- Line numbers that come with missing properties are short enough. -/
  numbers : ∀ line ∈ lines output.toList, numberFits line = true
  /-- Symbols that are not exported can stand in a template. -/
  symbols : ∀ symbol ∈ missingSymbols output.toList, (Template.read (importTemplate (.ofList symbol))).isOk = true

theorem repair_ok_iff (source output : String) (m : Component) (path : Option String) :
    (∃ revised, repair source output m path = .ok revised) ↔ Readable output := by
  constructor
  · rintro ⟨revised, h⟩
    obtain ⟨signals, hsignals, h⟩ := bind_eq_ok.1 h
    rw [mapError_eq_ok] at hsignals h
    refine ⟨classify_ok_iff.1 ⟨signals, hsignals⟩, fun symbol hmem => ?_⟩
    refine (mendAll_ok_iff source).1 ⟨revised, h⟩ (.namedImportMissing (.ofList symbol)) ((mem_classify hsignals).2 ?_)
    rwa [String.toList_ofList]
  · intro hread
    obtain ⟨signals, hsignals⟩ := classify_ok_iff.2 hread.numbers
    have htemplates : ∀ s ∈ signals, s.hasTemplate = true := by
      intro s hs
      cases s with
      | namedImportMissing symbol =>
        have := hread.symbols _ ((mem_classify hsignals).1 hs)
        rwa [String.ofList_toList] at this
      | _ => rfl
    obtain ⟨revised, h⟩ := (mendAll_ok_iff source).2 htemplates
    exact ⟨revised, bind_eq_ok.2 ⟨signals, mapError_eq_ok.2 hsignals, mapError_eq_ok.2 h⟩⟩

/-- The suites that repairs by the outputs of a verifier make, one after another; a repair that fails keeps its suite. -/
def suitesBy (m : Component) (path : String) (told : Nat → List UInt8 → Verdict) : Nat → String
  | 0 => m.suite
  | k + 1 =>
    let source := suitesBy m path told k
    (repair source (told k (Utf8.encode source)).diagnostics m (some path)).toOption.getD source

theorem repair_suitesBy {m : Component} {path : String} {told : Nat → List UInt8 → Verdict} {k : Nat}
    (hread : Readable (verdictsOn told (suitesBy m path told) k).diagnostics) :
    repair (suitesBy m path told k) (verdictsOn told (suitesBy m path told) k).diagnostics m (some path) =
      .ok (suitesBy m path told (k + 1)) := by
  obtain ⟨revised, hrevised⟩ := (repair_ok_iff (suitesBy m path told k) _ m (some path)).2 hread
  have hnext : suitesBy m path told (k + 1) = (repair (suitesBy m path told k)
      (verdictsOn told (suitesBy m path told) k).diagnostics m (some path)).toOption.getD (suitesBy m path told k) := rfl
  rw [hnext, hrevised]
  rfl

/-- A loop whose outputs can be read ends. -/
theorem generate_ends {limit : Int} {order : Order} {verifier : Option Verifier} {w w₁ : Workspace} {s : LoopSetting}
    {told : Nat → List UInt8 → Verdict} {turn : Nat → Workspace → Prop} (hverify : order.verify = true)
    (hprepare : (prepare limit order verifier).runOn w = (.ok s, w₁))
    (htells : s.verifier.Tells s.testPath s.root told turn) (hturn : turn 0 w)
    (hread : ∀ k bytes, (told k bytes).success = false → Readable (told k bytes).diagnostics)
    (hsave : (w.files.save s.testPath (Utf8.encode s.component.suite)).2 = none) :
    ∃ o w' ending, (generate limit order verifier).runOn w = (.ok o, w') ∧ o.ending = some ending := by
  let suites := suitesBy s.component order.file told
  have hrepair : ∀ k : Nat, (k : Int) < limit → Busy suites (verdictsOn told suites) k →
      (verdictsOn told suites k).success = false →
      repair (suites k) (verdictsOn told suites k).diagnostics s.component (some order.file) = .ok (suites (k + 1)) :=
    fun k _ _ hfail => repair_suitesBy (hread k _ hfail)
  obtain ⟨runs, o, w', hrun, -, -, -, hb⟩ :=
    generate_told hverify hprepare htells hturn (rfl : suites 0 = _) hrepair hsave
  refine ⟨o, w', ?_⟩
  cases hb with
  | passed => exact ⟨_, hrun, rfl⟩
  | stalled => exact ⟨_, hrun, rfl⟩
  | exhausted => exact ⟨_, hrun, rfl⟩

/-- Repairs by an output succeed, for any suite, component and path, just when the output can be read; so can every
output whose symbols have no backslash and whose line numbers are short enough. A loop whose outputs can be read ends. -/
theorem repair_readable (source output : String) (m : Component) (path : Option String) :
    ((∃ revised, repair source output m path = .ok revised) ↔ Readable output) ∧
    ((∀ symbol ∈ missingSymbols output.toList, '\\' ∉ symbol) →
      (∀ line ∈ lines output.toList, numberFits line = true) → Readable output) ∧
    ∀ {limit : Int} {order : Order} {verifier : Option Verifier} {w w₁ : Workspace} {s : LoopSetting}
      {told : Nat → List UInt8 → Verdict} {turn : Nat → Workspace → Prop}, order.verify = true →
      (prepare limit order verifier).runOn w = (.ok s, w₁) → s.verifier.Tells s.testPath s.root told turn →
      turn 0 w → (∀ k bytes, (told k bytes).success = false → Readable (told k bytes).diagnostics) →
      (w.files.save s.testPath (Utf8.encode s.component.suite)).2 = none →
      ∃ o w' ending, (generate limit order verifier).runOn w = (.ok o, w') ∧ o.ending = some ending := by
  refine ⟨repair_ok_iff source output m path, fun hsymbols hnumbers => ⟨hnumbers, fun symbol hmem => ?_⟩, generate_ends⟩
  refine read_importTemplate ?_
  rw [String.toList_ofList]
  exact hsymbols symbol hmem

/-- The loop on a project without a word ends, when its verifier asks for one property every time. -/
theorem repair_readable_mute : (∃ revised, repair "" titleMissing muteSetting.component (some "A.ts") = .ok revised) ∧
    ∃ o w' ending, (generate 2 muteOrder (some titleVerifier)).runOn mutePlace = (.ok o, w') ∧
      o.ending = some ending := by
  obtain ⟨hrepair, hplain, hends⟩ := repair_readable "" titleMissing muteSetting.component (some "A.ts")
  have hread : Readable titleMissing := hplain (by decide) (by decide)
  obtain ⟨notes, hprepare⟩ := prepare_mute (some titleVerifier)
  exact ⟨hrepair.2 hread, hends rfl hprepare (titleVerifier_tells _ _) trivial (fun _ _ _ => hread) rfl⟩

end Suitewright
