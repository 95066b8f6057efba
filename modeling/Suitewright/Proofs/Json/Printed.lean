/-
  What printed values consist of.

  * `Json.isPrinted`: the characters of ASCII that show, and the space;
  * `Json.compact_printed`: a value on one line consists of such characters alone.
-/
import Suitewright.Json.Printer
import Suitewright.Proofs.Text.Tame

namespace Suitewright

/-- The characters of ASCII that show, and the space. -/
def Json.isPrinted (c : Char) : Bool := 32 ≤ c.toNat && c.toNat < 127

/-- Texts of such characters. -/
def Json.Printed (s : String) : Prop := s.toList.all isPrinted = true

namespace Json

instance (s : String) : Decidable (Printed s) := inferInstanceAs (Decidable (s.toList.all isPrinted = true))

theorem Printed.not_mem {s : String} {c : Char} (h : Printed s) (hc : isPrinted c = false) : c ∉ s.toList :=
  Text.not_mem_of_class h hc

theorem Printed.append {s t : String} (hs : Printed s) (ht : Printed t) : Printed (s ++ t) := by
  rw [Printed, String.toList_append, List.all_append, hs, ht]
  rfl

theorem Printed.intercalate {sep : String} {parts : List String} (hsep : Printed sep) (h : ∀ s ∈ parts, Printed s) :
    Printed (sep.intercalate parts) := by
  induction parts with
  | nil => rfl
  | cons s parts ih =>
    cases parts with
    | nil =>
      rw [String.intercalate_singleton]
      exact h s (by simp)
    | cons t parts =>
      rw [String.intercalate_cons_cons]
      exact ((h s (by simp)).append hsep).append (ih fun s hs => h s (List.mem_cons_of_mem _ hs))

/-! ## Numbers -/

theorem isPrinted_of_isDigit {c : Char} (h : c.isDigit = true) : isPrinted c = true := by
  have hlt : c.toNat < 128 := Text.toNat_of_isAlphanum (by simp [Char.isAlphanum, h])
  have := Text.forall_ascii (p := fun c => !c.isDigit || isPrinted c) (by decide) hlt
  simpa [h] using this

theorem toDigits_printed (n : Nat) : (Nat.toDigits 10 n).all isPrinted = true := by
  rw [List.all_eq_true]
  intro c hc
  exact isPrinted_of_isDigit (Nat.isDigit_of_mem_toDigits (by decide) (by decide) hc)

theorem natText_printed (n : Nat) : Printed (toString n) := by
  rw [Printed, Nat.toString_eq_repr, Nat.toList_repr]
  exact toDigits_printed n

theorem intText_printed (n : Int) : Printed (toString n) := by
  cases n with
  | ofNat n => exact natText_printed n
  | negSucc n => exact Printed.append (s := "-") rfl (natText_printed (n + 1))

theorem layout_printed {digits : List Char} (h : digits.all isPrinted = true) (point : Int) :
    (Binary64.layout digits point).all isPrinted = true := by
  have hzeros : ∀ k, (List.replicate k '0').all isPrinted = true := by
    intro k
    rw [List.all_replicate]
    split <;> rfl
  have hpart : ∀ {part : List Char}, part ⊆ digits → part.all isPrinted = true := fun hsub =>
    List.all_eq_true.2 fun c hc => List.all_eq_true.1 h c (hsub hc)
  unfold Binary64.layout
  split
  · split
    · simp only [List.all_cons, List.all_append, hzeros, h]
      rfl
    split
    · simp only [List.all_cons, List.all_append, hzeros, h]
      rfl
    · simp only [List.all_cons, List.all_append, hpart (List.take_subset _ _), hpart (List.drop_subset _ _)]
      rfl
  · have hexponent : (Binary64.exponentText (point - 1)).all isPrinted = true := by
      unfold Binary64.exponentText
      dsimp only
      rw [List.all_cons]
      split <;> split <;> simp only [List.all_cons, toDigits_printed] <;> rfl
    obtain - | ⟨d, - | ⟨e, ds⟩⟩ := digits
    · simp only [List.all_append, List.all_cons, hexponent]
      rfl
    · simp only [List.all_append, List.all_cons, hexponent] at h ⊢
      rw [(Bool.and_eq_true_iff.1 h).1]
      rfl
    · simp only [List.all_append, List.all_cons, hexponent, Bool.and_eq_true] at h ⊢
      simp only [h.1, h.2.1, h.2.2]
      decide

theorem floatText_printed (x : Binary64) : Printed (floatText x) := by
  have hsign : ∀ negative : Bool, Printed (if negative then "-" else "") := by decide
  cases x with
  | finite negative m e =>
    refine (hsign negative).append ?_
    rw [Printed, String.toList_ofList, Binary64.magnitudeText]
    split
    · rfl
    · exact layout_printed (List.all_eq_true.2 fun c hc => List.all_eq_true.1 (toDigits_printed _) c
        (List.mem_reverse.1 ((List.dropWhile_sublist _).subset (List.mem_reverse.1 hc)))) _
  | infinite negative => exact (hsign negative).append rfl
  | nan => rfl

/-! ## Values -/

theorem quote_printed (s : String) : Printed (quote s) := by
  have hchar : ∀ c, (escapeChar c).all isPrinted = true := fun c =>
    Text.escapeChar_all (fun _ => Text.forall_escapeChars (by decide))
      (Text.forall_ascii (p := fun c => (escapeChar c).all isPrinted) (by decide))
  have hbody : s.toList.all (fun c => (escapeChar c).all isPrinted) = true := List.all_eq_true.2 fun c _ => hchar c
  rw [Printed, Text.quote_toList, List.all_cons, List.all_append, Text.quoteBody, List.all_flatMap, hbody]
  rfl

mutual

/-- A value on one line holds no line break and nothing outside ASCII. -/
theorem compact_printed : ∀ v : Json, Printed v.compact
  | .null | .bool true | .bool false => rfl
  | .int n => intText_printed n
  | .float x => floatText_printed x
  | .str s => quote_printed s
  | .arr items =>
    (Printed.append (s := "[") rfl (.intercalate (by decide) (compactItems_printed items))).append (by decide)
  | .obj fields =>
    (Printed.append (s := "\x7b") rfl (.intercalate (by decide) (compactFields_printed fields))).append (by decide)

theorem compactItems_printed : ∀ items : List Json, ∀ s ∈ compactItems items, Printed s
  | [] => by simp [compactItems]
  | v :: vs => by
    rw [compactItems, List.forall_mem_cons]
    exact ⟨compact_printed v, compactItems_printed vs⟩

theorem compactFields_printed : ∀ fields : List (String × Json), ∀ s ∈ compactFields fields, Printed s
  | [] => by simp [compactFields]
  | (k, v) :: rest => by
    rw [compactFields, List.forall_mem_cons]
    exact ⟨((quote_printed k).append (by decide)).append (compact_printed v), compactFields_printed rest⟩

end

end Json

end Suitewright
