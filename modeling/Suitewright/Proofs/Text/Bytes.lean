/-
  Texts as bytes, and their lines.

  * `decode_encode`: the bytes of a text are read back as the text;
  * `splitAfter_append`: a sequence that ends with the stop falls into its parts and those of what follows it;
  * `splitAfter_encode`: the lines of the bytes of a text are the bytes of its lines.
-/
import Suitewright.Text.Line
import Suitewright.Text.Utf8

namespace Suitewright

namespace Utf8

theorem toNat_ofNat {n : Nat} (h : n < 256) : (UInt8.ofNat n).toNat = n := by
  simp [Nat.mod_eq_of_lt h]

theorem isContinuation_iff {b : UInt8} : isContinuation b = true ↔ 0x80 ≤ b.toNat ∧ b.toNat < 0xC0 := by
  simp [isContinuation, UInt8.le_iff_toNat_le, UInt8.lt_iff_toNat_lt]

theorem secondAllowed_iff {first second : UInt8} : secondAllowed first second = true ↔
    (0x80 ≤ second.toNat ∧ second.toNat < 0xC0) ∧ (first.toNat = 0xE0 → 0xA0 ≤ second.toNat) ∧
      (first.toNat = 0xED → second.toNat < 0xA0) ∧ (first.toNat = 0xF0 → 0x90 ≤ second.toNat) ∧
      (first.toNat = 0xF4 → second.toNat < 0x90) := by
  simp only [secondAllowed, Bool.and_eq_true, Bool.or_eq_true, bne_iff_ne, ne_eq, decide_eq_true_eq,
    isContinuation_iff, UInt8.le_iff_toNat_le, UInt8.lt_iff_toNat_lt, ← UInt8.toNat_inj, UInt8.reduceToNat]
  omega

section
variable {a b d e : UInt8} {n : Nat} {c : Char} (rest : List UInt8)

theorem part_one (ha : a.toNat < 0x80) : part a rest = (.inl (.ofNat a.toNat), 1) := by
  unfold part
  simp only [ha, if_true]

theorem part_two (ha : 0xC2 ≤ a.toNat ∧ a.toNat < 0xE0) (hb : isContinuation b = true) :
    part a (b :: rest) = (.inl (.ofNat ((a.toNat - 0xC0) * 64 + low b)), 2) := by
  unfold part
  dsimp only
  rw [if_neg (by omega), if_neg (by simp; omega), if_pos ha.2, hb]
  rfl

theorem part_three (ha : 0xE0 ≤ a.toNat ∧ a.toNat < 0xF0) (hb : secondAllowed a b = true)
    (hd : isContinuation d = true) :
    part a (b :: d :: rest) = (.inl (.ofNat ((a.toNat - 0xE0) * 4096 + low b * 64 + low d)), 3) := by
  unfold part
  dsimp only
  rw [if_neg (by omega), if_neg (by simp; omega), if_neg (by omega), if_pos ha.2, hb, hd]
  rfl

theorem part_four (ha : 0xF0 ≤ a.toNat ∧ a.toNat ≤ 0xF4) (hb : secondAllowed a b = true)
    (hd : isContinuation d = true) (he : isContinuation e = true) :
    part a (b :: d :: e :: rest) =
      (.inl (.ofNat ((a.toNat - 0xF0) * 262144 + low b * 4096 + low d * 64 + low e)), 4) := by
  unfold part
  dsimp only
  rw [if_neg (by omega), if_neg (by simp; omega), if_neg (by omega), if_neg (by omega), hb, hd, he]
  rfl

/-- The bytes of a character are read as this character. -/
theorem part_encodeChar (c : Char) (rest : List UInt8) :
    ∃ b bs, String.utf8EncodeChar c = b :: bs ∧ part b (bs ++ rest) = (.inl c, bs.length + 1) := by
  obtain ⟨n, hn⟩ : ∃ n, n = c.val.toNat := ⟨_, rfl⟩
  have hvalid : n < 0xD800 ∨ 0xDFFF < n ∧ n < 0x110000 := hn ▸ c.valid
  have hc : ∀ {k}, k = n → Char.ofNat k = c := fun h => by rw [h, hn]; exact Char.ofNat_toNat c
  have hbyte : ∀ {k}, k < 256 → (UInt8.ofNat k).toNat = k := toNat_ofNat
  have hlow : ∀ {k}, low (.ofNat (k % 64 + 128)) = k % 64 := by
    intro k
    rw [low, hbyte (by omega)]
    omega
  have hcontinues : ∀ k, isContinuation (.ofNat (k % 64 + 128)) = true := by
    intro k
    rw [isContinuation_iff, hbyte (by omega)]
    omega
  simp only [String.utf8EncodeChar, ← hn]
  split
  · refine ⟨_, [], rfl, ?_⟩
    rw [part_one _ (by rw [hbyte] <;> omega), hbyte (by omega), hc rfl]
    rfl
  split
  · refine ⟨_, [_], rfl, ?_⟩
    have ha := @hbyte (n / 64 % 32 + 192) (by omega)
    rw [List.singleton_append, part_two _ (by omega) (hcontinues n), ha, hlow, hc (by omega)]
    rfl
  split
  · refine ⟨_, [_, _], rfl, ?_⟩
    have ha := @hbyte (n / 4096 % 16 + 224) (by omega)
    have hb := @hbyte (n / 64 % 64 + 128) (by omega)
    rw [List.cons_append, List.singleton_append,
      part_three _ (by omega) (secondAllowed_iff.2 (by omega)) (hcontinues n), ha, hlow, hlow, hc (by omega)]
    rfl
  · refine ⟨_, [_, _, _], rfl, ?_⟩
    have ha := @hbyte (n / 262144 % 8 + 240) (by omega)
    have hb := @hbyte (n / 4096 % 64 + 128) (by omega)
    rw [List.cons_append, List.cons_append, List.singleton_append,
      part_four _ (by omega) (secondAllowed_iff.2 (by omega)) (hcontinues _) (hcontinues n), ha, hlow, hlow, hlow,
      hc (by omega)]
    rfl

end

/-! ## Texts -/

theorem partsFrom_skip (bs rest : List UInt8) (position : Nat) :
    partsFrom bs.length position (bs ++ rest) = partsFrom 0 (position + bs.length) rest := by
  induction bs generalizing position with
  | nil => rfl
  | cons b bs ih =>
    rw [List.length_cons, List.cons_append, partsFrom, ih]
    congr 1
    omega

theorem partsFrom_encodeChar (c : Char) (rest : List UInt8) (position : Nat) :
    ∃ next, partsFrom 0 position (String.utf8EncodeChar c ++ rest) = .inl c :: partsFrom 0 next rest := by
  obtain ⟨b, bs, hbytes, hpart⟩ := part_encodeChar c rest
  refine ⟨position + 1 + bs.length, ?_⟩
  rw [hbytes, List.cons_append, partsFrom, hpart]
  exact congrArg _ (partsFrom_skip bs rest _)

theorem partsFrom_encodeChars (cs : List Char) (position : Nat) :
    partsFrom 0 position (cs.flatMap String.utf8EncodeChar) = cs.map .inl := by
  induction cs generalizing position with
  | nil => rfl
  | cons c cs ih =>
    obtain ⟨next, h⟩ := partsFrom_encodeChar c (cs.flatMap String.utf8EncodeChar) position
    rw [List.flatMap_cons, h, ih, List.map_cons]

theorem textOf_chars (cs : List Char) : textOf (cs.map .inl) = .ok cs := by
  induction cs with
  | nil => rfl
  | cons c cs ih =>
    rw [List.map_cons, textOf, ih]
    rfl

/-- The bytes of a text are read back as the text. -/
theorem decode_encode (s : String) : decode (encode s) = .ok s := by
  rw [decode, encode, partsFrom_encodeChars, textOf_chars]
  exact congrArg _ (String.ofList_toList)

end Utf8

/-! ## Lines -/

namespace Text

section
variable {α : Type} {stop x : α} {front xs ys : List α}

/-- Puts elements in front of the first part. -/
def frontPart (front : List α) : List (List α) → List (List α)
  | [] => [front]
  | part :: rest => (front ++ part) :: rest

theorem frontPart_append {parts : List (List α)} (h : parts ≠ []) (more : List (List α)) :
    frontPart front (parts ++ more) = frontPart front parts ++ more := by
  cases parts with
  | nil => exact absurd rfl h
  | cons part rest => rfl

theorem frontPart_cons (x : α) (front : List α) (parts : List (List α)) :
    frontPart [x] (frontPart front parts) = frontPart (x :: front) parts := by
  cases parts <;> rfl

variable [BEq α] [LawfulBEq α]

theorem splitAfter_stop (xs : List α) : splitAfter stop (stop :: xs) = [stop] :: splitAfter stop xs := by
  rw [splitAfter, if_pos (beq_self_eq_true stop)]

theorem splitAfter_cons (hx : x ≠ stop) (xs : List α) :
    splitAfter stop (x :: xs) = frontPart [x] (splitAfter stop xs) := by
  rw [splitAfter, if_neg (by simpa using hx)]
  cases splitAfter stop xs <;> rfl

theorem splitAfter_front (h : stop ∉ front) (hne : front ≠ []) (xs : List α) :
    splitAfter stop (front ++ xs) = frontPart front (splitAfter stop xs) := by
  induction front with
  | nil => exact absurd rfl hne
  | cons x front ih =>
    have hx : x ≠ stop := fun hx => h (by simp [hx])
    rw [List.cons_append, splitAfter_cons hx]
    cases front with
    | nil => rfl
    | cons y front => rw [ih (fun hmem => h (List.mem_cons_of_mem x hmem)) (List.cons_ne_nil y front), frontPart_cons]

/-- A part is cut nowhere. -/
theorem splitAfter_part (h : stop ∉ front) : splitAfter stop (front ++ [stop]) = [front ++ [stop]] := by
  by_cases hne : front = []
  · rw [hne, List.nil_append, splitAfter_stop]
    rfl
  · rw [splitAfter_front h hne, splitAfter_stop]
    rfl

theorem splitAfter_ne_nil (h : xs ≠ []) : splitAfter stop xs ≠ [] := by
  obtain ⟨x, rest, rfl⟩ := List.exists_cons_of_ne_nil h
  by_cases hx : x = stop
  · rw [hx, splitAfter_stop]
    exact List.cons_ne_nil _ _
  · rw [splitAfter_cons hx]
    cases splitAfter stop rest <;> exact List.cons_ne_nil _ _

/-- A sequence that ends with the stop, or holds nothing, falls into its parts and those of what follows it. -/
theorem splitAfter_append (h : ∀ x ∈ xs.getLast?, x = stop) (ys : List α) :
    splitAfter stop (xs ++ ys) = splitAfter stop xs ++ splitAfter stop ys := by
  induction xs with
  | nil => rfl
  | cons x xs ih =>
    cases xs with
    | nil =>
      obtain rfl : x = stop := h x rfl
      rw [List.singleton_append, splitAfter_stop, splitAfter_stop]
      rfl
    | cons y xs =>
      rw [List.getLast?_cons_cons] at h
      by_cases hx : x = stop
      · rw [hx, List.cons_append, splitAfter_stop, splitAfter_stop, ih h]
        rfl
      · rw [List.cons_append, splitAfter_cons hx, splitAfter_cons hx, ih h,
          frontPart_append (splitAfter_ne_nil (List.cons_ne_nil y xs))]

end

theorem encodeChar_newline : String.utf8EncodeChar '\n' = [10] := by decide

/-- The byte of a line feed stands for nothing else. -/
theorem newline_not_mem_encodeChar {c : Char} (hc : c ≠ '\n') : 10 ∉ String.utf8EncodeChar c := by
  have hn : c.val.toNat ≠ 10 := fun h => hc (Char.ext (UInt32.toNat_inj.1 h))
  have hne : ∀ {k}, k < 256 → k ≠ 10 → (10 : UInt8) ≠ .ofNat k := by
    intro k hk h10 h
    have := congrArg UInt8.toNat h
    rw [Utf8.toNat_ofNat hk] at this
    exact h10 this.symm
  unfold String.utf8EncodeChar
  dsimp only
  split
  · exact fun h => hne (by omega) hn (List.mem_singleton.1 h)
  split
  · simp only [List.mem_cons, List.not_mem_nil, or_false, not_or]
    exact ⟨hne (by omega) (by omega), hne (by omega) (by omega)⟩
  split
  · simp only [List.mem_cons, List.not_mem_nil, or_false, not_or]
    exact ⟨hne (by omega) (by omega), hne (by omega) (by omega), hne (by omega) (by omega)⟩
  · simp only [List.mem_cons, List.not_mem_nil, or_false, not_or]
    exact ⟨hne (by omega) (by omega), hne (by omega) (by omega), hne (by omega) (by omega),
      hne (by omega) (by omega)⟩

/-- The lines of the bytes of a text are the bytes of its lines. -/
theorem splitAfter_encode (cs : List Char) : splitAfter 10 (cs.flatMap String.utf8EncodeChar) =
    (splitAfter '\n' cs).map fun line => line.flatMap String.utf8EncodeChar := by
  induction cs with
  | nil => rfl
  | cons c cs ih =>
    rw [List.flatMap_cons]
    by_cases hc : c = '\n'
    · subst hc
      rw [encodeChar_newline, List.singleton_append, splitAfter_stop, splitAfter_stop, ih]
      rfl
    · obtain ⟨b, bs, hbytes, -⟩ := Utf8.part_encodeChar c []
      rw [splitAfter_front (newline_not_mem_encodeChar hc) (by simp [hbytes]), splitAfter_cons hc, ih]
      cases splitAfter '\n' cs <;> simp [frontPart]

end Text

end Suitewright
