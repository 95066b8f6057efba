/-
  What the rules make of the lines of a suite.

  * `Signal.IsPlain`: signals whose names can stand in a suite as they are;
  * `Line.mend`, `mendLines`: the lines of a suite after the rule of a signal; `mend_textOf`: the rule does this to the
    text;
  * `mendLines_formed`: the lines after it are lines of a suite again.
-/
import Suitewright.Proofs.Repair.Assertions
import Suitewright.Proofs.Repair.DefaultImport
import Suitewright.Proofs.Repair.Injection
import Suitewright.Proofs.Repair.Queries
import Suitewright.Proofs.Repair.Redirect
import Suitewright.Proofs.Suite.Plain

namespace Suitewright

open Text

/-- Signals of relative modules without quotes, and of symbols and properties that are words. -/
def Signal.IsPlain : Signal → Prop
  | unresolvedImport module => module.toList.head? = some '.' ∧ '"' ∉ module.toList
  | namedImportMissing symbol => IsWord symbol.toList
  | missingProp prop _ => IsWord prop.toList
  | _ => True

/-- The query without a role of its own. -/
def Query.withoutFallback (role : String) : Query → Query :=
  if role == "status" then withoutStatus else withoutImage

/-- A line that the rule of a signal reaches, after it. -/
def Line.mend (m : Component) (path : String) (l : Line) : Signal → Line
  | .quotedLiteral | .malformedClosure => l
  | .unresolvedImport module => l.redirect module.toList (importPath path).toList
  | .namedImportMissing symbol => l.byDefault m.displayName.toList symbol.toList
  | .roleNotFound role => l.onQuery (Query.withoutRole role.toList)
  | .missingProp prop _ => l.inject (attributeOf m prop)
  | .classMismatch => l.onAssertion replacingClass
  | .textNotFound => l.onQuery (Query.withoutText m)
  | .statusOrImageRole role => l.onQuery (Query.withoutFallback role)

/-- The lines of a suite after the rule of a signal. A missing property reaches one line, other signals reach all. -/
def mendLines (m : Component) (path : String) (d : List Line) : Signal → List Line
  | .missingProp prop line => injectInto (attributeOf m prop) line d
  | signal => d.map fun l => l.mend m path signal

/-! ## Queries -/

section
variable {component : List Char} {d : List Line}

theorem Line.onQuery_formed {f : Query → Query} {l : Line} (h : l.Formed component)
    (hf : ∀ q : Query, q.Formed → (f q).Formed) : (l.onQuery f).Formed component := by
  cases l with
  | query frame q => exact hf q h
  | _ => exact h

theorem Query.withoutRole_formed (role : List Char) {q : Query} (h : q.Formed) : (q.withoutRole role).Formed := by
  cases q with
  | role r =>
    rw [withoutRole]
    split
    · show fallbackTestId.toList.all isTame = true
      decide
    · exact h
  | _ => exact h

theorem Query.withoutFallback_formed (role : String) {q : Query} (h : q.Formed) :
    (q.withoutFallback role).Formed := by
  rw [withoutFallback]
  split
  · cases q with
    | status =>
      show statusTestId.toList.all isTame = true
      decide
    | _ => exact h
  · cases q with
    | image =>
      show iconTestId.toList.all isTame = true
      decide
    | _ => exact h

theorem lower_mild {s : String} (h : s.toList.all isMild = true) : (lower s).toList.all isMild = true := by
  rw [lower, String.toList_ofList]
  exact lowerFrom_mild h []

theorem all_mild_of_tame {cs : List Char} (h : cs.all isTame = true) : cs.all isMild = true :=
  List.all_eq_true.2 fun c hc => isMild_of_isTame (List.all_eq_true.1 h c hc)

/-- The property of a variable has a tame name. -/
theorem propOfVariable_mild {m : Component} (hm : m.IsPlain) {v : List Char} (hv : v.all Char.isAlphanum = true) :
    (propOfVariable m v).toList.all isMild = true := by
  rw [propOfVariable]
  split
  · next p hp =>
    have hmem : p ∈ m.props := List.mem_reverse.1 (List.mem_of_find?_eq_some hp)
    exact all_mild_of_tame (Line.all_tame_of_nameChar (hm.propName p hmem).2)
  · split
    · next c cs hdrop =>
      have hall : (c :: cs).all isMild = true := by
        rw [← hdrop]
        refine List.all_eq_true.2 fun e he => ?_
        exact isMild_of_isTame (Line.isTame_of_isAlphanum (List.all_eq_true.1 hv e (List.mem_of_mem_drop he)))
      obtain ⟨hc, hcs⟩ : isMild c = true ∧ cs.all isMild = true := by simpa using hall
      rw [append_ofList, List.all_append, hcs, Bool.and_true]
      exact lower_mild (by simpa using hc)
    · rfl

theorem Query.withoutText_formed {m : Component} (hm : m.IsPlain) {q : Query} (h : q.Formed) :
    (q.withoutText m).Formed := by
  cases q with
  | text v =>
    rw [withoutText]
    split
    · exact className_tame (propOfVariable_mild hm h)
    · exact h
  | _ => exact h

theorem replaceStatusOrImage_textOf (role : String) (hc : IsWord component) (hd : ∀ l ∈ d, l.Formed component) :
    replaceStatusOrImage role (Line.textOf component d) =
      Line.textOf component (d.map (Line.onQuery (Query.withoutFallback role))) := by
  rw [replaceStatusOrImage, Query.withoutFallback]
  split
  · exact (statusRule.actsOn hc).textOf hd
  · exact (imageRule.actsOn hc).textOf hd

end

/-! ## Rules -/

variable {m : Component} {path : String} {signal : Signal} {d : List Line}

/-- After a rule a line is a line of a suite again. -/
theorem Line.mend_formed {l : Line} (hm : m.IsPlain) (hpath : IsPlainPath path) (hs : signal.IsPlain)
    (hl : l.Formed m.displayName.toList) : (l.mend m path signal).Formed m.displayName.toList := by
  cases signal with
  | quotedLiteral | malformedClosure => exact hl
  | unresolvedImport module => exact redirect_formed hl (importPath_plain hpath).2
  | namedImportMissing symbol => exact byDefault_formed hl hs
  | roleNotFound role => exact onQuery_formed hl fun q hq => Query.withoutRole_formed _ hq
  | missingProp prop line => exact inject_formed hl (attributeOf_formed hm hs)
  | classMismatch => exact formed_onAssertion hl fun n hn => replacingClass_formed hn
  | textNotFound => exact onQuery_formed hl fun q hq => Query.withoutText_formed hm hq
  | statusOrImageRole role => exact onQuery_formed hl fun q hq => Query.withoutFallback_formed _ hq

theorem mendLines_formed (hm : m.IsPlain) (hpath : IsPlainPath path) (hs : signal.IsPlain)
    (hd : ∀ l ∈ d, l.Formed m.displayName.toList) :
    ∀ l ∈ mendLines m path d signal, l.Formed m.displayName.toList := by
  cases signal with
  | missingProp prop line => exact injectInto_formed hd (attributeOf_formed hm hs)
  | _ => exact List.forall_mem_map.2 fun l hl => Line.mend_formed hm hpath hs (hd l hl)

/-- What the rule of a signal makes of the text of a suite. -/
theorem mend_textOf (hm : m.IsPlain) (hpath : IsPlainPath path) (hs : signal.IsPlain)
    (hd : ∀ l ∈ d, l.Formed m.displayName.toList) :
    signal.mendChars m path (Line.textOf m.displayName.toList d) =
      .ok (Line.textOf m.displayName.toList (mendLines m path d signal)) := by
  cases signal with
  | quotedLiteral =>
    have hsame : mendLines m path d .quotedLiteral = d := List.map_id d
    rw [hsame]
    exact congrArg Except.ok (stripDoubleQuotes_textOf hm.name hd)
  | malformedClosure =>
    have hsame : mendLines m path d .malformedClosure = d := List.map_id d
    rw [hsame]
    exact congrArg Except.ok (normalizeClosures_textOf hm.name hd)
  | unresolvedImport module =>
    exact congrArg Except.ok (Line.redirectImport_textOf hm.name hd hs.2 hs.1 (importPath_plain hpath).1)
  | namedImportMissing symbol => exact defaultImport_textOf hm.name hs hd
  | roleNotFound role => exact congrArg Except.ok (((roleRule role).actsOn hm.name).textOf hd)
  | missingProp prop line =>
    exact congrArg Except.ok (injectProp_textOf hm.name hd (attributeOf_name m prop)
      (attributeOf_chars hm hs.nameChars) line)
  | classMismatch => exact congrArg Except.ok (replaceClassAssertions_textOf hm.name hd)
  | textNotFound => exact congrArg Except.ok (((textRule m).actsOn hm.name).textOf hd)
  | statusOrImageRole role => exact congrArg Except.ok (replaceStatusOrImage_textOf role hm.name hd)

/-- What the rules of signals make of the text of a suite. -/
theorem mendAll_textOf (hm : m.IsPlain) (hpath : IsPlainPath path) {signals : List Signal}
    (hs : ∀ signal ∈ signals, signal.IsPlain) (hd : ∀ l ∈ d, l.Formed m.displayName.toList) {source : String}
    (hsource : source.toList = Line.textOf m.displayName.toList d) :
    mendAll m path signals source =
        .ok (.ofList (Line.textOf m.displayName.toList (signals.foldl (mendLines m path) d))) ∧
      ∀ l ∈ signals.foldl (mendLines m path) d, l.Formed m.displayName.toList := by
  induction signals generalizing d source with
  | nil =>
    refine ⟨?_, hd⟩
    rw [List.foldl_nil, ← hsource, String.ofList_toList]
    rfl
  | cons signal signals ih =>
    have hsignal := hs signal (by simp)
    have hstep : signal.mend source m path =
        .ok (.ofList (Line.textOf m.displayName.toList (mendLines m path d signal))) := by
      rw [Signal.mend, hsource, mend_textOf hm hpath hsignal hd]
      rfl
    have hall := ih (fun s hmem => hs s (by simp [hmem])) (mendLines_formed hm hpath hsignal hd) String.toList_ofList
    rw [mendAll, List.foldlM_cons, hstep]
    exact hall

end Suitewright
