/-
  What signals an output can give.

  * `Signal.rank`: the place of a kind of signals; `signalsOfKind`: the signals of one kind that an output gives;
  * `distinct_eq`, `distinct_nodup`, `filter_eraseDups`: what is left without repetitions;
  * `classify_sorted`, `classify_nodup`: signals come in the order of their kinds, and none comes twice;
    `classify_ofKind`: those of one kind are the distinct ones that an output gives;
  * `classify_plain`: modules that are not found are relative and have no quotes, so that signals are plain when the
    symbols and properties that they name are words.
-/
import Suitewright.Proofs.Failure.Phrases
import Suitewright.Proofs.Repair.Mending
import Suitewright.Proofs.Results

namespace Suitewright

open Text

/-! ## Kinds of signals -/

/-- The place of a kind of signals in the order of repairs. -/
def Signal.rank : Signal → Nat
  | quotedLiteral => 0
  | malformedClosure => 1
  | unresolvedImport _ => 2
  | namedImportMissing _ => 3
  | roleNotFound _ => 4
  | missingProp _ _ => 5
  | classMismatch => 6
  | textNotFound => 7
  | statusOrImageRole _ => 8

theorem Signal.rank_lt (s : Signal) : s.rank < 9 := by
  cases s <;> simp only [Signal.rank] <;> decide

/-- Signals in the order of their kinds. -/
def Sorted (signals : List Signal) : Prop := signals.Pairwise fun s t => s.rank ≤ t.rank

/-- The signals of one kind that an output gives, where those of missing properties are known. -/
def signalsOfKind (text : List Char) (missing : List Signal) : Nat → List Signal
  | 0 => signalIf (mentions "is not assignable to type" text && mentions "Did you mean" text) .quotedLiteral
  | 1 => signalIf (mentions "Identifier expected" text && mentions "=>" text) .malformedClosure
  | 2 => unresolvedImports text
  | 3 => namedImportsMissing text
  | 4 => (missingRoles text).map .roleNotFound
  | 5 => missing
  | 6 => signalIf (mentions "toHaveClass" text && mentions "Expected" text) .classMismatch
  | 7 => signalIf (mentions "Unable to find an element with the text" text) .textNotFound
  | 8 => ((missingRoles text).filter fallbackRoles.contains).map .statusOrImageRole
  | _ => []

theorem rank_signalIf (condition : Bool) (signal : Signal) : ∀ s ∈ signalIf condition signal, s.rank = signal.rank := by
  intro s hs
  cases condition with
  | true =>
    rw [List.mem_singleton.1 hs]
  | false => cases hs

theorem missingProps_mem {text : List Char} {missing : List Signal} (h : missingProps text = .ok missing) :
    ∀ s ∈ missing, ∃ prop line, s = .missingProp prop line := by
  intro s hs
  obtain ⟨found, hlines, h⟩ := bind_eq_ok.1 h
  obtain rfl : found.flatten = missing := Except.ok.inj h
  obtain ⟨ofLine, hmem, hs⟩ := List.mem_flatten.1 hs
  obtain ⟨line, -, hline⟩ := mem_mapM_ok hlines hmem
  obtain ⟨name, -, hname⟩ := mem_mapM_ok hline hs
  split at hname
  · obtain ⟨n, -, hname⟩ := bind_eq_ok.1 hname
    exact ⟨_, _, (Except.ok.inj hname).symm⟩
  · exact ⟨_, _, (Except.ok.inj hname).symm⟩

theorem rank_signalsOfKind {text : List Char} {missing : List Signal} (h : missingProps text = .ok missing) (k : Nat) :
    ∀ s ∈ signalsOfKind text missing k, s.rank = k := by
  match k with
  | 0 | 1 | 6 | 7 => exact rank_signalIf _ _
  | 2 | 3 | 4 | 8 => exact List.forall_mem_map.2 fun _ _ => rfl
  | 5 =>
    intro s hs
    obtain ⟨prop, line, rfl⟩ := missingProps_mem h s hs
    rfl
  | _ + 9 => exact fun s hs => (List.not_mem_nil hs).elim

section
variable {ofKind : Nat → List Signal} {n : Nat}

/-- Kinds in their order give signals in their order. -/
theorem sorted_flatMap (h : ∀ k, ∀ s ∈ ofKind k, s.rank = k) : Sorted ((List.range n).flatMap ofKind) := by
  refine List.pairwise_flatMap.2 ⟨fun k _ => ?_, List.pairwise_lt_range.imp fun {j k} hjk s hs t ht => ?_⟩
  · refine List.pairwise_of_forall_mem_list fun s hs t ht => ?_
    exact Nat.le_of_eq ((h k s hs).trans (h k t ht).symm)
  · rw [h j s hs, h k t ht]
    exact Nat.le_of_lt hjk

theorem filter_flatMap (h : ∀ k, ∀ s ∈ ofKind k, s.rank = k) {k : Nat} (hk : k < n) :
    ((List.range n).flatMap ofKind).filter (fun s => s.rank = k) = ofKind k := by
  have hother : ∀ j, j ≠ k → (ofKind j).filter (fun s => s.rank = k) = [] := fun j hj => by
    refine List.filter_eq_nil_iff.2 fun s hs => ?_
    rw [decide_eq_true_eq, h j s hs]
    exact hj
  have hself : (ofKind k).filter (fun s => s.rank = k) = ofKind k :=
    List.filter_eq_self.2 fun s hs => decide_eq_true (h k s hs)
  rw [List.filter_flatMap]
  induction n with
  | zero => cases hk
  | succ n ih =>
    rw [List.range_succ, List.flatMap_append, List.flatMap_singleton]
    rcases Nat.lt_or_eq_of_le (Nat.le_of_lt_succ hk) with hlt | rfl
    · rw [ih hlt, hother n (by omega), List.append_nil]
    · rw [List.flatMap_eq_nil_iff.2 fun j hj => hother j (Nat.ne_of_lt (List.mem_range.1 hj)), hself, List.nil_append]

end

/-! ## Repetitions -/

theorem distinct_sublist (seen rest : List Signal) : (distinct seen rest).Sublist rest := by
  induction rest generalizing seen with
  | nil => exact List.Sublist.refl _
  | cons s rest ih =>
    rw [distinct]
    split
    · exact (ih seen).cons s
    · exact (ih (s :: seen)).cons_cons s

/-- The distinct signals are the first occurrences of those that were not seen before. -/
theorem distinct_eq (seen rest : List Signal) : distinct seen rest = (rest.removeAll seen).eraseDups := by
  induction rest generalizing seen with
  | nil => simp [distinct, List.removeAll]
  | cons s rest ih =>
    rw [distinct, ih, ih]
    split
    · next hseen => simp [List.removeAll, List.contains_iff_mem.1 hseen]
    · next hnew =>
      have hmem : s ∉ seen := fun h => hnew (List.contains_iff_mem.2 h)
      have hrest : rest.removeAll (s :: seen) = (rest.removeAll seen).filter fun t => !t == s := by
        simp [List.removeAll, List.filter_filter, BEq.beq]
      rw [hrest, ← List.eraseDups_cons]
      simp [List.removeAll, hmem]

theorem distinct_nodup (seen rest : List Signal) : (distinct seen rest).Nodup := by
  induction rest generalizing seen with
  | nil => exact List.nodup_nil
  | cons s rest ih =>
    rw [distinct]
    split
    · exact ih seen
    · refine List.nodup_cons.2 ⟨?_, ih (s :: seen)⟩
      rw [distinct_eq, List.mem_eraseDups]
      simp [List.removeAll]

theorem filter_eraseDups (p : Signal → Bool) (l : List Signal) : l.eraseDups.filter p = (l.filter p).eraseDups := by
  induction hn : l.length using Nat.strongRecOn generalizing l with
  | _ n ih =>
    cases l with
    | nil => rfl
    | cons s l =>
      have hlen : (l.filter fun t => !t == s).length < n := by
        rw [← hn, List.length_cons]
        exact Nat.lt_succ_of_le (List.length_filter_le _ l)
      rw [List.eraseDups_cons, List.filter_cons, List.filter_cons, ih _ hlen _ rfl]
      split
      · rw [List.eraseDups_cons, List.filter_filter, List.filter_filter]
        simp only [Bool.and_comm]
      · next hp =>
        -- a signal that is filtered out has no repetitions that are not
        have hrest : (l.filter fun t => !t == s).filter p = l.filter p := by
          rw [List.filter_filter]
          refine List.filter_congr fun t _ => ?_
          by_cases ht : t = s
          · subst ht
            simp [hp]
          · simp [ht]
        rw [hrest]

/-! ## Signals of an output -/

section
variable {output : String} {signals : List Signal}

/-- The signals of an output are the distinct ones of all kinds in order. -/
theorem classify_eq_ok (h : classify output = .ok signals) : ∃ missing, missingProps output.toList = .ok missing ∧
    signals = distinct [] ((List.range 9).flatMap (signalsOfKind output.toList missing)) := by
  obtain ⟨all, hall, h⟩ := bind_eq_ok.1 h
  obtain rfl : distinct [] all = signals := Except.ok.inj h
  obtain ⟨missing, hmissing, hall⟩ := bind_eq_ok.1 hall
  obtain rfl := Except.ok.inj hall
  refine ⟨missing, hmissing, congrArg (distinct []) ?_⟩
  simp [List.range_succ, signalsOfKind]

/-- Signals come in the order of their kinds. -/
theorem classify_sorted (h : classify output = .ok signals) : Sorted signals := by
  obtain ⟨missing, hmissing, rfl⟩ := classify_eq_ok h
  exact List.Pairwise.sublist (distinct_sublist _ _) (sorted_flatMap (rank_signalsOfKind hmissing))

theorem classify_nodup (h : classify output = .ok signals) : signals.Nodup := by
  obtain ⟨_, -, rfl⟩ := classify_eq_ok h
  exact distinct_nodup _ _

/-- The signals of one kind are the distinct ones of this kind that an output gives. -/
theorem classify_ofKind (h : classify output = .ok signals) : ∃ missing, missingProps output.toList = .ok missing ∧
    ∀ k < 9, signals.filter (fun s => s.rank = k) = (signalsOfKind output.toList missing k).eraseDups := by
  obtain ⟨missing, hmissing, rfl⟩ := classify_eq_ok h
  refine ⟨missing, hmissing, fun k hk => ?_⟩
  have hall : ∀ l : List Signal, l.removeAll [] = l := fun l => List.filter_eq_self.2 fun _ _ => rfl
  rw [distinct_eq, hall, filter_eraseDups, filter_flatMap (rank_signalsOfKind hmissing) hk]

theorem mem_iff_of_filter (s : Signal) {found : List Signal}
    (h : signals.filter (fun t => t.rank = s.rank) = found.eraseDups) : s ∈ signals ↔ s ∈ found := by
  rw [← List.mem_eraseDups (l := found), ← h, List.mem_filter, decide_eq_true_eq, and_iff_left rfl]

theorem mem_classify_iff (h : classify output = .ok signals) : ∃ missing, missingProps output.toList = .ok missing ∧
    ∀ s, s ∈ signals ↔ s ∈ signalsOfKind output.toList missing s.rank := by
  obtain ⟨missing, hmissing, hkinds⟩ := classify_ofKind h
  exact ⟨missing, hmissing, fun s => mem_iff_of_filter s (hkinds s.rank s.rank_lt)⟩

end

/-! ## Plain signals -/

/-- The symbol or property that a signal names, if it names one, is a word. -/
def Signal.NamesWord : Signal → Prop
  | namedImportMissing symbol => IsWord symbol.toList
  | missingProp prop _ => IsWord prop.toList
  | _ => True

/-- Signals of an output are plain when what they name are words. -/
theorem classify_plain {output : String} {signals : List Signal} (h : classify output = .ok signals)
    (hs : ∀ signal ∈ signals, signal.NamesWord) : ∀ signal ∈ signals, signal.IsPlain := by
  intro signal hmem
  have hword := hs signal hmem
  obtain ⟨missing, -, hmem_iff⟩ := mem_classify_iff h
  cases signal with
  | unresolvedImport module =>
    have hmodule : .unresolvedImport module ∈ unresolvedImports output.toList := (hmem_iff _).1 hmem
    obtain ⟨cs, hcs, hsignal⟩ := List.mem_map.1 hmodule
    obtain ⟨hfound, hdot⟩ := List.mem_filter.1 hcs
    obtain rfl : String.ofList cs = module := by simpa using hsignal
    obtain ⟨_, _, _, -, _, -, -, hfree, -⟩ := (moduleNotFound?_recognizes.found _).exists_stands hfound
    rw [Signal.IsPlain, String.toList_ofList]
    refine ⟨?_, hfree '"' (by decide)⟩
    cases cs with
    | nil => cases hdot
    | cons c cs =>
      obtain rfl : '.' = c := by simpa using hdot
      rfl
  | namedImportMissing symbol => exact hword
  | missingProp prop line => exact hword
  | _ => exact trivial

end Suitewright
