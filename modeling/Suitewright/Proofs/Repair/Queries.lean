/-
  What the rules for queries make of a line.

  * `QueryRule`: a rule that replaces queries by others; `QueryRule.actsOn`: what it makes of any line;
  * `roleRule`, `statusRule`, `imageRule`, `textRule`: the rules for queries are of this kind.
-/
import Suitewright.Proofs.Repair.Patterns

namespace Suitewright

open Text

/-! ## Queries -/

/-- What every query begins with. -/
def queryStart : List Char := "screen.".toList

theorem Query.chars_eq (q : Query) : ∃ rest, q.chars = queryStart ++ rest := by
  cases q with
  | role r => exact ⟨"getByRole(\"".toList ++ (r ++ "\")".toList), rfl⟩
  | status => exact ⟨statusQuery.toList.drop 7, rfl⟩
  | image => exact ⟨iconQuery.toList.drop 7, rfl⟩
  | text v => exact ⟨"getByText(".toList ++ (v ++ [')']), rfl⟩
  | testId b => exact ⟨"getByTestId(\"".toList ++ (b ++ "\")".toList), rfl⟩

section
variable {pattern : List Char → Option (List Char × List Char)} {mark : Mark} {key rest : List Char} {c : Char}
  {frame : Frame} {q q' : Query}

/-- Before its query a line holds no query. -/
theorem replaceAll_frame (hp : Needs pattern queryStart) (q : Query) (v : List Char) :
    replaceAll pattern (frame.before ++ (q.chars ++ v)) = frame.before ++ replaceAll pattern (q.chars ++ v) := by
  refine replaceAll_pass fun w hw hne => hp.none fun hstart => ?_
  obtain ⟨t, ht⟩ := q.chars_eq
  have htable : ∀ n < frame.before.length,
      ¬ queryStart.isPrefixOf (frame.before.drop n ++ queryStart) = true := by
    cases frame <;> decide
  have hshort : queryStart <+: w ++ queryStart := by
    rw [ht, List.append_assoc, ← List.append_assoc] at hstart
    exact List.prefix_of_prefix_length_le hstart ⟨_, rfl⟩ (by simp)
  rw [List.suffix_iff_eq_drop.1 hw, ← List.isPrefixOf_iff_prefix] at hshort
  refine htable _ ?_ hshort
  have := hw.length_le
  have := List.length_pos_iff.2 hne
  omega

/-- A rule that replaces queries by others, and looks for them by one mark. -/
structure QueryRule (pattern : List Char → Option (List Char × List Char)) (f : Query → Query) (mark : Mark)
    (key : List Char) : Prop where
  needs : Needs pattern (key ++ ['('])
  start : queryStart <+: key
  ends : mark.Ends key '('
  isQuery : mark = .roleQuery ∨ mark = .textQuery
  acts : ∀ q : Query, q.Formed → ∀ v,
    (f q = q ∧ pattern (q.chars ++ v) = none) ∨ pattern (q.chars ++ v) = some ((f q).chars, v)

/-- A line with its query replaced. -/
def Line.onQuery (f : Query → Query) : Line → Line
  | query frame q => query frame (f q)
  | l => l

/-- What a rule for queries makes of a line. -/
theorem QueryRule.actsOn {f : Query → Query} (hrule : QueryRule pattern f mark key) {component : List Char}
    (hc : IsWord component) : ActsOn pattern component (Line.onQuery f) := by
  intro l h rest
  have habsent : mark ∉ l.marks → replaceAll pattern (l.chars component ++ '\n' :: rest) =
      l.chars component ++ '\n' :: replaceAll pattern rest := fun hm =>
    replaceAll_absent hrule.needs hrule.ends (Line.absent hc h hm) rest
  have hstart : Needs pattern queryStart := hrule.needs.trans (hrule.start.trans ⟨_, rfl⟩)
  cases l with
  | query frame q =>
    obtain ⟨t, ht⟩ := q.chars_eq
    have hcons : q.chars = 's' :: q.chars.tail := by
      rw [ht]
      rfl
    rw [Line.onQuery, Line.chars_query, Line.chars_query, List.append_assoc, List.append_assoc,
      replaceAll_frame hstart]
    rcases hrule.acts q h (frame.after ++ '\n' :: rest) with ⟨hsame, hnone⟩ | hsome
    · have htail : replaceAll pattern (q.chars.tail ++ (frame.after ++ '\n' :: rest)) =
          q.chars.tail ++ (frame.after ++ '\n' :: replaceAll pattern rest) := by
        rw [← List.append_assoc, replaceAll_absent hrule.needs hrule.ends (Line.absent_queryTail h),
          List.append_assoc]
      rw [hsame]
      rw [hcons, List.cons_append] at hnone
      rw [hcons, List.cons_append, replaceAll_cons hnone, htail]
      simp
    · have hafter : mark.Absent frame.after := by cases frame <;> cases mark <;> rfl
      have hne : q.chars ≠ [] := by
        rw [hcons]
        exact List.cons_ne_nil _ _
      rw [replaceAll_match hsome hne, replaceAll_absent hrule.needs hrule.ends hafter]
      simp
  | fixed | named | default | render | classed =>
    refine habsent fun hmem => ?_
    rcases hrule.isQuery with rfl | rfl <;> simp [Line.marks] at hmem

end

/-! ### Roles -/

theorem roleQuery_ends : Mark.Ends .roleQuery "screen.getByRole".toList '(' :=
  ⟨fun _ => rfl, by decide⟩

/-- The query without a role that is not found. -/
def Query.withoutRole (role : List Char) : Query → Query
  | .role r => if quoteBody role = r then .testId fallbackTestId.toList else .role r
  | q => q

/-- What stands between quotes is a role when it stands where the role does. -/
theorem quoteBody_prefix {role r x y : List Char} (h : r.all Char.isAlphanum = true)
    (hp : quoteBody role ++ '"' :: x <+: r ++ '"' :: y) : quoteBody role = r ∧ x <+: y :=
  eq_of_prefix_stop (not_mem_of_class h (by decide))
    (fun _ hv => not_mem_of_class h (by decide) (quoteBody_quote hv)) hp

theorem roleText (role : String) : ("screen.getByRole(" ++ Json.quote role ++ ")").toList =
    "screen.getByRole(\"".toList ++ (quoteBody role.toList ++ ('"' :: [')'])) := by
  rw [String.toList_append, String.toList_append, quote_toList]
  simp

theorem roleRule (role : String) :
    QueryRule (fixed? ("screen.getByRole(" ++ Json.quote role ++ ")").toList
      (testIdQuery fallbackTestId).toList) (Query.withoutRole role.toList) .roleQuery
      "screen.getByRole".toList where
  needs := (fixed?_needs _ _).trans (by
    rw [roleText]
    exact ⟨'"' :: (quoteBody role.toList ++ ('"' :: [')'])), by simp⟩)
  start := by decide
  ends := roleQuery_ends
  isQuery := Or.inl rfl
  acts := by
    intro q hq v
    have hnone : ∀ {r x}, r.all Char.isAlphanum = true →
        (quoteBody role.toList = r → ¬ [')'] <+: x) →
        fixed? ("screen.getByRole(" ++ Json.quote role ++ ")").toList (testIdQuery fallbackTestId).toList
          ("screen.getByRole(\"".toList ++ (r ++ '"' :: x)) = none := by
      intro r x hr hx
      refine (fixed?_needs _ _).none fun hp => ?_
      rw [roleText, List.prefix_append_right_inj] at hp
      obtain ⟨heq, hbracket⟩ := quoteBody_prefix hr hp
      exact hx heq hbracket
    cases q with
    | role r =>
      rw [Query.withoutRole]
      split
      · next heq =>
        refine Or.inr ?_
        rw [fixed?, roleText, heq]
        have : (Query.role r).chars ++ v = "screen.getByRole(\"".toList ++ (r ++ ('"' :: [')'])) ++ v := by
          rw [Query.chars_role]
          rfl
        rw [this, after?_append]
        rfl
      · next hne =>
        refine Or.inl ⟨rfl, ?_⟩
        have : (Query.role r).chars ++ v = "screen.getByRole(\"".toList ++ (r ++ '"' :: (')' :: v)) := by
          rw [Query.chars_role]
          simp
        rw [this]
        exact hnone hq fun h => absurd h hne
    | status =>
      refine Or.inl ⟨rfl, ?_⟩
      rw [Query.chars_status, List.append_assoc, List.append_assoc]
      exact hnone (by decide) fun _ h => absurd (List.cons_prefix_cons.1 h).1 (by decide)
    | image =>
      refine Or.inl ⟨rfl, ?_⟩
      rw [Query.chars_image, List.append_assoc, List.append_assoc]
      exact hnone (by decide) fun _ h => absurd (List.cons_prefix_cons.1 h).1 (by decide)
    | text w => exact Or.inl ⟨rfl, by rw [roleText]; rfl⟩
    | testId b => exact Or.inl ⟨rfl, by rw [roleText]; rfl⟩

/-! ### Statuses and images -/

/-- The query without a status. -/
def Query.withoutStatus : Query → Query
  | .status => .testId statusTestId.toList
  | q => q

/-- The query without an image. -/
def Query.withoutImage : Query → Query
  | .image => .testId iconTestId.toList
  | q => q

/-- A query by a role is no query for another word with a comma after it. -/
theorem role_not_hidden {word r v : List Char} (hword : word.all Char.isAlphanum = true)
    (hr : r.all Char.isAlphanum = true) {tail : List Char} :
    ¬ "screen.getByRole(\"".toList ++ (word ++ ('"' :: ',' :: tail)) <+: (Query.role r).chars ++ v := by
  intro hp
  have hchars : (Query.role r).chars ++ v = "screen.getByRole(\"".toList ++ (r ++ '"' :: (')' :: v)) := by
    rw [Query.chars_role]
    simp
  rw [hchars, List.prefix_append_right_inj] at hp
  have hno : ∀ w, word ≠ r ++ '"' :: w := by
    rintro w rfl
    exact not_mem_of_class hword (by decide) (by simp : '"' ∈ r ++ '"' :: w)
  obtain ⟨-, h⟩ := eq_of_prefix_stop (not_mem_of_class hr (by decide)) hno hp
  exact absurd (List.cons_prefix_cons.1 h).1 (by decide)

theorem statusRule :
    QueryRule (fixed? statusQuery.toList (testIdQuery statusTestId).toList) Query.withoutStatus .roleQuery
      "screen.getByRole".toList where
  needs := (fixed?_needs _ _).trans ⟨statusQuery.toList.drop 17, by decide⟩
  start := by decide
  ends := roleQuery_ends
  isQuery := Or.inl rfl
  acts := by
    intro q hq v
    cases q with
    | role r =>
      refine Or.inl ⟨rfl, (fixed?_needs _ _).none ?_⟩
      have : statusQuery.toList = "screen.getByRole(\"".toList ++ ("status".toList ++ ('"' :: Query.hiddenEnd)) :=
        Query.chars_status
      rw [this]
      exact role_not_hidden (by decide) hq
    | status =>
      refine Or.inr ?_
      show (after? statusQuery.toList (statusQuery.toList ++ v)).map _ = _
      rw [after?_append]
      rfl
    | image => exact Or.inl ⟨rfl, rfl⟩
    | text w => exact Or.inl ⟨rfl, rfl⟩
    | testId b => exact Or.inl ⟨rfl, rfl⟩

/-- What replaces the query for an image. -/
def imageToIcon (cs : List Char) : Option (List Char × List Char) :=
  (imageQuery? cs).map ((testIdQuery iconTestId).toList, ·)

theorem imageToIcon_needs :
    Needs imageToIcon ("screen.getByRole(\"".toList ++ ("img".toList ++ ('"' :: Query.hiddenEnd))) := by
  intro cs found h
  obtain ⟨rest, hr, -⟩ := Option.map_eq_some_iff.1 h
  simp only [imageQuery?, Option.bind_eq_bind, Option.bind_eq_some_iff] at hr
  obtain ⟨r, hafter, -⟩ := hr
  have htext : ("screen.getByRole(\"img\", " ++ braced " hidden: true " ++ ")").toList =
      "screen.getByRole(\"".toList ++ ("img".toList ++ ('"' :: Query.hiddenEnd)) := by decide
  rw [htext] at hafter
  exact ⟨r, (after?_eq_some.1 hafter).symm⟩

theorem imageRule :
    QueryRule imageToIcon Query.withoutImage .roleQuery "screen.getByRole".toList where
  needs := imageToIcon_needs.trans ⟨'"' :: ("img".toList ++ ('"' :: Query.hiddenEnd)), by decide⟩
  start := by decide
  ends := roleQuery_ends
  isQuery := Or.inl rfl
  acts := by
    intro q hq v
    cases q with
    | role r => exact Or.inl ⟨rfl, imageToIcon_needs.none (role_not_hidden (by decide) hq)⟩
    | status => exact Or.inl ⟨rfl, rfl⟩
    | image => exact Or.inr rfl
    | text w => exact Or.inl ⟨rfl, rfl⟩
    | testId b => exact Or.inl ⟨rfl, rfl⟩

/-! ### Texts -/

/-- Variables that a query by a text is replaced for. -/
def isTestVariable (v : List Char) : Bool :=
  match after? "test".toList v with
  | some (c :: _) => c.isUpper
  | _ => false

theorem testIdQuery_toList (id : String) :
    (testIdQuery id).toList = (Query.testId (quoteBody id.toList)).chars := by
  have hopen : "screen.getByTestId(\"".toList = "screen.getByTestId(".toList ++ ['"'] := by decide
  have hclose : "\")".toList = ['"'] ++ ")".toList := by decide
  have hquery : (testIdQuery id).toList =
      "screen.getByTestId(".toList ++ ('"' :: (quoteBody id.toList ++ ['"'])) ++ ")".toList := by
    show ("screen.getByTestId(" ++ Json.quote id ++ ")").toList = _
    rw [String.toList_append, String.toList_append, quote_toList]
  rw [hquery, Query.chars_testId, hopen, hclose]
  generalize "screen.getByTestId(".toList = u
  simp

/-- The query without the text of a property. -/
def Query.withoutText (m : Component) : Query → Query
  | .text v => if isTestVariable v then .testId (quoteBody (className (propOfVariable m v)).toList) else .text v
  | q => q

/-- What replaces a query by a text. -/
def textToTestId (m : Component) (cs : List Char) : Option (List Char × List Char) :=
  (textQuery? cs).map fun (variable_, rest) => ((testIdQuery (className (propOfVariable m variable_))).toList, rest)

theorem textToTestId_needs (m : Component) : Needs (textToTestId m) ("screen.getByText".toList ++ ['(']) := by
  intro cs found h
  obtain ⟨⟨v, r⟩, hr, -⟩ := Option.map_eq_some_iff.1 h
  simp only [textQuery?, Option.bind_eq_bind, Option.bind_eq_some_iff] at hr
  obtain ⟨rest, hafter, -⟩ := hr
  exact ⟨rest, (after?_eq_some.1 hafter).symm⟩

theorem textQuery?_text {v : List Char} (hv : v.all Char.isAlphanum = true) (rest : List Char) :
    textQuery? ((Query.text v).chars ++ rest) = if isTestVariable v then some (v, rest) else none := by
  have hchars : (Query.text v).chars ++ rest = "screen.getByText(".toList ++ (v ++ ')' :: rest) := by
    rw [Query.chars_text]
    simp
  rw [textQuery?, hchars, after?_append]
  simp only [Option.bind_eq_bind, Option.bind_some]
  cases h : after? "test".toList v with
  | none =>
    have htest : isTestVariable v = false := by rw [isTestVariable, h]
    have hnone : after? "test".toList (v ++ ')' :: rest) = none :=
      after?_eq_none.2 fun hp => after?_eq_none.1 h (prefix_of_stop (by decide) hp)
    rw [hnone, htest]
    rfl
  | some more =>
    have hv' := after?_eq_some.1 h
    rw [hv', List.append_assoc, after?_append]
    rw [hv'] at h hv
    cases more with
    | nil => rfl
    | cons c more =>
      have hmore : more.all Char.isAlphanum = true := by
        rw [List.all_append] at hv
        simp only [List.all_cons, Bool.and_eq_true] at hv
        exact hv.2.2
      have hdrop : (more ++ ')' :: rest).dropWhile Char.isAlphanum = ')' :: rest := by
        rw [List.dropWhile_append_of_pos fun d hd => List.all_eq_true.1 hmore d hd]
        rfl
      have htake : (more ++ ')' :: rest).takeWhile Char.isAlphanum = more := by
        rw [List.takeWhile_append_of_pos fun d hd => List.all_eq_true.1 hmore d hd]
        simp [show ')'.isAlphanum = false from rfl]
      have htest : isTestVariable ("test".toList ++ c :: more) = c.isUpper := by rw [isTestVariable, h]
      rw [htest]
      simp only [Option.bind_some, List.cons_append, hdrop, htake]
      split <;> rfl

theorem textRule (m : Component) :
    QueryRule (textToTestId m) (Query.withoutText m) .textQuery "screen.getByText".toList where
  needs := textToTestId_needs m
  start := by decide
  ends := ⟨fun _ => rfl, by decide⟩
  isQuery := Or.inr rfl
  acts := by
    intro q hq v
    cases q with
    | text w =>
      have hmap : textToTestId m ((Query.text w).chars ++ v) =
          (if isTestVariable w then some (w, v) else none).map fun (variable_, rest) =>
            ((testIdQuery (className (propOfVariable m variable_))).toList, rest) := by
        rw [← textQuery?_text hq]
        rfl
      cases htest : isTestVariable w with
      | false =>
        rw [htest] at hmap
        exact Or.inl ⟨by simp [Query.withoutText, htest], hmap⟩
      | true =>
        have hquery : Query.withoutText m (.text w) =
            .testId (quoteBody (className (propOfVariable m w)).toList) := by
          simp [Query.withoutText, htest]
        rw [htest] at hmap
        rw [hquery, ← testIdQuery_toList]
        exact Or.inr hmap
    | role r => exact Or.inl ⟨rfl, (textToTestId_needs m).none (after?_eq_none.1 rfl)⟩
    | status => exact Or.inl ⟨rfl, (textToTestId_needs m).none (after?_eq_none.1 rfl)⟩
    | image => exact Or.inl ⟨rfl, (textToTestId_needs m).none (after?_eq_none.1 rfl)⟩
    | testId b => exact Or.inl ⟨rfl, (textToTestId_needs m).none (after?_eq_none.1 rfl)⟩

end Suitewright
