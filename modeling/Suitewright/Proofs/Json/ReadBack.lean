/-
  Reading what was printed.

  * `readText_quote`: a quoted text is read as the text, and what follows it is left; `readText_length`: it is longer than
    the text;
  * `readNumber_toDigits`: the digits of a number are read as the number;
  * `Json.fits`: values without a finite fraction that are not larger than what can be read;
  * `read_compact`: such a value on one line is read as the value.
-/
import Mathlib.Data.List.TakeWhile
import Suitewright.Json.Reader
import Suitewright.Proofs.Json.Printed
import Suitewright.Proofs.Results

namespace Suitewright.Json

/-! ## Quoted texts -/

theorem hexValue?_hexDigit (n : Nat) : hexValue? (hexDigit n) = some (n % 16) := by
  have htable : ∀ k < 16, hexValue? (Nat.digitChar k) = some k := by decide
  exact htable _ (Nat.mod_lt n (by decide))

/-- An escape of a unit is read as the unit. -/
theorem hexUnit?_unitEscape {n : Nat} (hn : n < 0x10000) (rest : List Char) :
    hexUnit? (hexDigit (n / 4096) :: hexDigit (n / 256) :: hexDigit (n / 16) :: hexDigit n :: rest) =
      some (n, rest) := by
  simp only [hexUnit?, hexValue?_hexDigit, Option.bind_eq_bind, Option.bind_some, Option.pure_def, Option.some.injEq,
    Prod.mk.injEq, and_true]
  omega

section
variable {opening fuel : Nat} {done rest : List Char} {c : Char}

/-- The escape of a character of the basic plane. -/
theorem readUnit_basic (hc : c.toNat < 0x10000) (hrest : rest ≠ []) (start : List Char) :
    readUnit start (hexDigit (c.toNat / 4096) :: hexDigit (c.toNat / 256) :: hexDigit (c.toNat / 16) ::
      hexDigit c.toNat :: rest) = .ok (c, rest) := by
  have hvalid : c.toNat < 0xD800 ∨ 0xDFFF < c.toNat ∧ c.toNat < 0x110000 := c.valid
  have hunit : ofUnit c.toNat = c := by
    rw [ofUnit, if_neg (by simp; omega), Char.ofNat_toNat]
  obtain ⟨d, ds, rfl⟩ := List.exists_cons_of_ne_nil hrest
  rw [readUnit, hexUnit?_unitEscape hc]
  dsimp only
  rw [if_neg (by simp; omega), hunit]

/-- The two escapes of a character beyond it. -/
theorem readUnit_pair (hc : 0x10000 ≤ c.toNat) (hrest : rest ≠ []) (start : List Char) {hi lo : Nat}
    (hhi : hi = 0xD800 + (c.toNat - 0x10000) / 1024) (hlo : lo = 0xDC00 + (c.toNat - 0x10000) % 1024) :
    readUnit start (hexDigit (hi / 4096) :: hexDigit (hi / 256) :: hexDigit (hi / 16) :: hexDigit hi ::
      (unitEscape lo ++ rest)) = .ok (c, rest) := by
  have hvalid : c.toNat < 0xD800 ∨ 0xDFFF < c.toNat ∧ c.toNat < 0x110000 := c.valid
  have hpos : 0 < rest.length := List.length_pos_iff.2 hrest
  have hc' : 0x10000 + (hi - 0xD800) * 1024 + (lo - 0xDC00) = c.toNat := by omega
  rw [readUnit, hexUnit?_unitEscape (by omega)]
  simp only [unitEscape, List.cons_append, List.nil_append]
  rw [if_pos (by simp; omega), hexUnit?_unitEscape (by omega)]
  dsimp only
  rw [if_pos (by simp; omega), hc', Char.ofNat_toNat]

/-- One character between quotes is read in one step. -/
theorem readQuoted_escapeChar (c : Char) (hrest : rest ≠ []) :
    readQuoted opening (fuel + 1) done (escapeChar c ++ rest) = readQuoted opening fuel (c :: done) rest := by
  have hunit : ∀ {u more : List Char}, readUnit ('u' :: u) u = .ok (c, more) →
      readQuoted opening (fuel + 1) done ('\\' :: 'u' :: u) = readQuoted opening fuel (c :: done) more := by
    intro u more h
    change (readUnit ('u' :: u) u >>= fun p => readQuoted opening fuel (p.1 :: done) p.2) = _
    rw [h]
    rfl
  have hnat : ∀ {n}, (c.toNat == n) = true → c = Char.ofNat n := fun h => by
    rw [← beq_iff_eq.1 h, Char.ofNat_toNat]
  -- the short escapes come first, then the characters that stand for themselves, then one unit or two
  unfold escapeChar
  split
  · next h => obtain rfl := beq_iff_eq.1 h; rfl
  split
  · next h => obtain rfl := beq_iff_eq.1 h; rfl
  split
  · next h => obtain rfl := beq_iff_eq.1 h; rfl
  split
  · next h => obtain rfl := beq_iff_eq.1 h; rfl
  split
  · next h => obtain rfl := beq_iff_eq.1 h; rfl
  split
  · next h => obtain rfl := hnat h; rfl
  split
  · next h => obtain rfl := hnat h; rfl
  split
  · next hquote hslash _ _ _ _ _ h =>
    rw [List.singleton_append, readQuoted.eq_def]
    dsimp only
    rw [if_neg hquote, if_neg hslash, if_neg (by simp at h; omega)]
  split
  · next hc => exact hunit (readUnit_basic hc hrest _)
  · next hc =>
    rw [List.append_assoc]
    exact hunit (readUnit_pair (by omega) hrest _ rfl rfl)

theorem readQuoted_quoteBody (cs : List Char) (hfuel : cs.length < fuel) :
    readQuoted opening fuel done (Text.quoteBody cs ++ '"' :: rest) = .ok (.ofList (done.reverse ++ cs), rest) := by
  induction cs generalizing fuel done with
  | nil =>
    obtain ⟨fuel, rfl⟩ := Nat.exists_eq_add_of_lt hfuel
    rw [List.append_nil]
    rfl
  | cons c cs ih =>
    obtain ⟨fuel, rfl⟩ : ∃ k, fuel = k + 1 := ⟨fuel - 1, by simp at hfuel; omega⟩
    rw [Text.quoteBody, List.flatMap_cons, List.append_assoc, readQuoted_escapeChar c (by simp)]
    rw [← Text.quoteBody, ih (by simpa using hfuel), List.reverse_cons, List.append_assoc]
    rfl

end

theorem length_le_quoteBody (cs : List Char) : cs.length ≤ (Text.quoteBody cs).length := by
  induction cs with
  | nil => exact Nat.le_refl 0
  | cons c cs ih =>
    have hpos : 0 < (escapeChar c).length := by
      obtain ⟨h, -⟩ | ⟨more, h⟩ := Text.escapeChar_cases c <;> simp [h]
    rw [Text.quoteBody, List.flatMap_cons, List.length_append, List.length_cons, ← Text.quoteBody]
    omega

/-- A quoted text is read as the text. -/
theorem readText_quote (s : String) (rest : List Char) :
    readText (Text.quoteBody s.toList ++ '"' :: rest) = .ok (s, rest) := by
  have hlength := length_le_quoteBody s.toList
  rw [readText, readQuoted_quoteBody _ (by simp; omega)]
  simp

section
variable {opening fuel : Nat} {done cs rest start : List Char} {c : Char} {s : String}

theorem hexUnit?_length {n : Nat} (h : hexUnit? cs = some (n, rest)) : rest.length < cs.length := by
  unfold hexUnit? at h
  split at h
  · simp only [Option.bind_eq_bind, Option.bind_eq_some_iff, Option.pure_def, Option.some.injEq, Prod.mk.injEq] at h
    obtain ⟨_, -, _, -, _, -, _, -, -, rfl⟩ := h
    simp only [List.length_cons]
    omega
  · cases h

theorem readUnit_length (h : readUnit start cs = .ok (c, rest)) : rest.length < cs.length := by
  unfold readUnit at h
  split at h
  · cases h
  · cases h
  · next hi more _ hunit =>
    have hmore := hexUnit?_length hunit
    split at h
    · split at h
      · next after =>
        split at h
        · cases h
        · next lo left hlow =>
          have hleft := hexUnit?_length hlow
          split at h
          · obtain ⟨-, rfl⟩ := Prod.mk.inj (Except.ok.inj h)
            simp at hmore
            omega
          · obtain ⟨-, rfl⟩ := Prod.mk.inj (Except.ok.inj h)
            exact hmore
      · obtain ⟨-, rfl⟩ := Prod.mk.inj (Except.ok.inj h)
        exact hmore
    · obtain ⟨-, rfl⟩ := Prod.mk.inj (Except.ok.inj h)
      exact hmore

/-- Each character that is read takes one at least, and the closing quote one more. -/
theorem readQuoted_length (h : readQuoted opening fuel done cs = .ok (s, rest)) :
    s.length + rest.length < done.length + cs.length := by
  induction fuel generalizing done cs with
  | zero => cases h
  | succ fuel ih =>
    cases cs with
    | nil => cases h
    | cons c cs =>
      rw [readQuoted.eq_def] at h
      dsimp only at h
      split at h
      · obtain ⟨rfl, rfl⟩ := Prod.mk.inj (Except.ok.inj h)
        simp
      · split at h
        · split at h
          · cases h
          · next more =>
            obtain ⟨⟨d, left⟩, hunit, h⟩ := bind_eq_ok.1 h
            have := ih h
            have := readUnit_length hunit
            simp at *
            omega
          · split at h
            · have := ih h
              simp at *
              omega
            · cases h
        · split at h
          · cases h
          · have := ih h
            simp at *
            omega

/-- A quoted text is longer than the text. -/
theorem readText_length (h : readText cs = .ok (s, rest)) : s.length + rest.length < cs.length := by
  have := readQuoted_length h
  rwa [List.length_nil, Nat.zero_add] at this

end

/-! ## Numbers -/

theorem toDigits_ne_zero {n : Nat} (hn : 0 < n) (rest : List Char) : Nat.toDigits 10 n ≠ '0' :: rest := by
  induction n using Nat.strongRecOn generalizing rest with
  | ind n ih =>
    rcases Nat.lt_or_ge n 10 with hlt | hge
    · rw [Nat.toDigits_of_lt_base hlt]
      intro h
      have htable : ∀ k < 10, Nat.digitChar k = '0' → k = 0 := by decide
      exact absurd (htable n hlt (List.cons.inj h).1) (by omega)
    · rw [Nat.toDigits_of_base_le (by decide) hge]
      intro h
      obtain ⟨d, ds, hdigits⟩ := List.exists_cons_of_ne_nil (Nat.toDigits_ne_nil (n := n / 10) (b := 10))
      rw [hdigits, List.cons_append] at h
      exact ih (n / 10) (by omega) (by omega) ds (by rw [hdigits, (List.cons.inj h).1])

/-- Blanks, commas and the ends of lists and objects. -/
def isClosing (c : Char) : Bool := isGap c || c == ',' || c == ']' || c == '\x7d'

/-- What may stand behind a value: nothing, or something that begins with such a character. -/
def Closes (rest : List Char) : Prop := ∀ c ∈ rest.head?, isClosing c = true

section
variable {rest : List Char}

theorem closes_cons {c : Char} (hc : isClosing c = true) : Closes (c :: rest) := by
  rintro d ⟨⟩
  exact hc

theorem isClosing_ne {c d : Char} (hc : isClosing c = true) (hd : isClosing d = false) : c ≠ d := by
  rintro rfl
  rw [hc] at hd
  cases hd

theorem Closes.not_digit (h : Closes rest) : ∀ c ∈ rest.head?, c.isDigit = false := by
  intro c hc
  have hclosing := h c hc
  simp only [isClosing, isGap, Bool.or_eq_true, beq_iff_eq] at hclosing
  rcases hclosing with (((((rfl | rfl) | rfl) | rfl) | rfl) | rfl) | rfl <;> rfl

theorem Closes.readFraction (h : Closes rest) : readFraction rest = ([], rest) := by
  obtain - | ⟨c, cs⟩ := rest
  · rfl
  · unfold Json.readFraction
    split
    · next heq => exact absurd (List.cons.inj heq).1 (isClosing_ne (h c rfl) rfl)
    · rfl

theorem Closes.readExponent (h : Closes rest) : readExponent rest = (none, rest) := by
  obtain - | ⟨c, cs⟩ := rest
  · rfl
  · have he : (c == 'e' || c == 'E') = false := by
      simp [isClosing_ne (d := 'e') (h c rfl) rfl, isClosing_ne (d := 'E') (h c rfl) rfl]
    simp only [Json.readExponent, he, Bool.false_eq_true, if_false]

theorem toDigits_cons (n : Nat) : ∃ d ds, Nat.toDigits 10 n = d :: ds ∧ d.isDigit = true := by
  obtain ⟨d, ds, h⟩ := List.exists_cons_of_ne_nil (Nat.toDigits_ne_nil (n := n) (b := 10))
  have hmem : d ∈ Nat.toDigits 10 n := by simp [h]
  exact ⟨d, ds, h, Nat.isDigit_of_mem_toDigits (by decide) (by decide) hmem⟩

theorem span_toDigits (h : Closes rest) (n : Nat) :
    (Nat.toDigits 10 n ++ rest).takeWhile Char.isDigit = Nat.toDigits 10 n ∧
      (Nat.toDigits 10 n ++ rest).dropWhile Char.isDigit = rest := by
  have hdigits : ∀ c ∈ Nat.toDigits 10 n, c.isDigit = true := fun c hc =>
    Nat.isDigit_of_mem_toDigits (by decide) (by decide) hc
  rw [List.takeWhile_append_of_pos hdigits, List.dropWhile_append_of_pos hdigits]
  obtain - | ⟨c, cs⟩ := rest
  · simp
  · simp [h.not_digit c rfl]

/-- The digits of a number are read as the number. -/
theorem readNumber_toDigits {n : Nat} (hn : (Nat.toDigits 10 n).length ≤ maxIntegerDigits) (h : Closes rest)
    (negative : Bool) (start : List Char) :
    readNumber negative start (Nat.toDigits 10 n ++ rest) = .ok (.int (if negative then -(n : Int) else n), rest) := by
  have hdigits : ofDigits (Nat.toDigits 10 n) = n := Nat.ofDigitChars_ten_toDigits
  have hnonempty : (Nat.toDigits 10 n).isEmpty = false := by simp [Nat.toDigits_ne_nil]
  unfold readNumber
  split
  next whole left heq =>
  obtain ⟨rfl, rfl⟩ : whole = Nat.toDigits 10 n ∧ left = rest := by
    -- a zero in front is read alone, but only zero itself has one
    split at heq
    · next more hzero =>
      obtain ⟨rfl, rfl⟩ := Prod.mk.inj heq
      rcases Nat.eq_zero_or_pos n with rfl | hpos
      · exact ⟨rfl, (List.cons.inj hzero).2.symm⟩
      · obtain ⟨d, ds, hdigits⟩ := List.exists_cons_of_ne_nil (Nat.toDigits_ne_nil (n := n) (b := 10))
        rw [hdigits, List.cons_append] at hzero
        exact absurd (by rw [hdigits, (List.cons.inj hzero).1]) (toDigits_ne_zero hpos ds)
    · obtain ⟨rfl, rfl⟩ := Prod.mk.inj heq
      exact span_toDigits h n
  simp only [hnonempty, h.readFraction, h.readExponent, hdigits, List.isEmpty_nil, Option.isNone_none, Bool.and_self,
    if_true, if_neg (Nat.not_lt.2 hn), Bool.false_eq_true, if_false]

end

/-! ## Lists and objects -/

/-- The characters with which a value begins. -/
def isOpening (c : Char) : Bool := c.isDigit || ['"', '[', '\x7b', '-', 'n', 't', 'f', 'N', 'I'].contains c

/-- Texts that begin with such a character. -/
def Opens (cs : List Char) : Prop := ∃ c rest, cs = c :: rest ∧ isOpening c = true

theorem Opens.append {cs : List Char} (h : Opens cs) (rest : List Char) : Opens (cs ++ rest) := by
  obtain ⟨c, cs, rfl, hc⟩ := h
  exact ⟨c, cs ++ rest, rfl, hc⟩

theorem isOpening_ascii {p : Char → Bool}
    (h : ((List.range 128).all fun n => !isOpening (Char.ofNat n) || p (Char.ofNat n)) = true) {c : Char}
    (hc : isOpening c = true) : p c = true := by
  have hlt : c.toNat < 128 := by
    rcases Bool.or_eq_true_iff.1 hc with hdigit | hmem
    · exact Text.toNat_of_isAlphanum (by simp [Char.isAlphanum, hdigit])
    · have hsmall : ['"', '[', '\x7b', '-', 'n', 't', 'f', 'N', 'I'].all (fun d => d.toNat < 128) = true := rfl
      exact of_decide_eq_true (List.all_eq_true.1 hsmall c (List.contains_iff_mem.1 hmem))
  have := Text.forall_ascii (p := fun c => !isOpening c || p c) h hlt
  simpa [hc] using this

theorem Opens.skipGap {cs : List Char} (h : Opens cs) : skipGap cs = cs := by
  obtain ⟨c, cs, rfl, hc⟩ := h
  have := isOpening_ascii (p := fun c => !isGap c) (by decide) hc
  simp [Json.skipGap, show isGap c = false by simpa using this]

section
variable {readOne : List Char → Except ReadError (Json × List Char)} {depth fuel : Nat} {cs rest : List Char} {v : Json}
  {items done : List Json} {fields entries : List (String × Json)} {key : String}

theorem readItems_last (h : readOne cs = .ok (v, ']' :: rest)) :
    readItems readOne (fuel + 1) done cs = .ok ((v :: done).reverse, rest) := by
  rw [readItems, h]
  rfl

theorem readItems_next (h : readOne cs = .ok (v, ',' :: ' ' :: rest)) (hrest : Opens rest) :
    readItems readOne (fuel + 1) done cs = readItems readOne fuel (v :: done) rest := by
  rw [readItems, h]
  exact congrArg _ hrest.skipGap

theorem readFields_last (h : readOne cs = .ok (v, '\x7d' :: rest)) (hcs : Opens cs) :
    readFields readOne (fuel + 1) entries (quoteChars key.toList ++ ':' :: ' ' :: cs) =
      .ok (Fields.insert entries key v, rest) := by
  rw [quoteChars, ← Text.quoteBody, List.cons_append, List.append_assoc, readFields, List.singleton_append,
    readText_quote]
  change (readOne (skipGap (' ' :: cs)) >>= _) = _
  rw [show skipGap (' ' :: cs) = cs from hcs.skipGap, h]
  rfl

theorem readFields_next (h : readOne cs = .ok (v, ',' :: ' ' :: rest)) (hcs : Opens cs) (hrest : Opens rest) :
    readFields readOne (fuel + 1) entries (quoteChars key.toList ++ ':' :: ' ' :: cs) =
      readFields readOne fuel (Fields.insert entries key v) rest := by
  rw [quoteChars, ← Text.quoteBody, List.cons_append, List.append_assoc, readFields, List.singleton_append,
    readText_quote]
  change (readOne (skipGap (' ' :: cs)) >>= _) = _
  rw [show skipGap (' ' :: cs) = cs from hcs.skipGap, h]
  exact congrArg _ hrest.skipGap

theorem readValue_arr (hcs : Opens cs) (h : readItems (readValue depth) (cs.length + 1) [] cs = .ok (items, rest)) :
    readValue (depth + 1) ('[' :: cs) = .ok (.arr items, rest) := by
  rw [readValue]
  dsimp only
  rw [hcs.skipGap]
  split
  · obtain ⟨c, more, hcons, hc⟩ := hcs
    rw [← (List.cons.inj hcons).1] at hc
    cases hc
  · rw [h]
    rfl

theorem readValue_obj (hcs : Opens cs) (h : readFields (readValue depth) (cs.length + 1) [] cs = .ok (fields, rest)) :
    readValue (depth + 1) ('\x7b' :: cs) = .ok (.obj fields, rest) := by
  rw [readValue]
  dsimp only
  rw [hcs.skipGap]
  split
  · obtain ⟨c, more, hcons, hc⟩ := hcs
    rw [← (List.cons.inj hcons).1] at hc
    cases hc
  · rw [h]
    rfl

end

/-! ## Values -/

mutual

/-- Whether a value holds no finite fraction, no key twice, and nothing larger than what can be read with room for
`depth` levels of nesting. -/
def fits (depth : Nat) : Json → Bool
  | int n => (Nat.toDigits 10 n.natAbs).length ≤ maxIntegerDigits
  | float (.finite ..) => false
  | arr items => 0 < depth && itemsFit (depth - 1) items
  | obj fields => 0 < depth && (fields.map Prod.fst).Nodup && fieldsFit (depth - 1) fields
  | _ => true

/-- The same for the items of a list. -/
def itemsFit (depth : Nat) : List Json → Bool
  | [] => true
  | v :: vs => fits depth v && itemsFit depth vs

/-- The same for the entries of an object. -/
def fieldsFit (depth : Nat) : List (String × Json) → Bool
  | [] => true
  | (_, v) :: rest => fits depth v && fieldsFit depth rest

end

theorem natText_toList (n : Nat) : (toString n).toList = Nat.toDigits 10 n := by
  rw [Nat.toString_eq_repr, Nat.toList_repr]

theorem negText_toList (n : Nat) : (toString (Int.negSucc n)).toList = '-' :: Nat.toDigits 10 (n + 1) := by
  rw [← natText_toList]
  exact String.toList_append

theorem afterWord?_none {word : String} {w c : Char} {ws cs : List Char} (hw : word.toList = w :: ws) (hne : w ≠ c) :
    afterWord? word (c :: cs) = none := by
  rw [afterWord?, hw, List.isPrefixOf, beq_false_of_ne hne]
  rfl

/-- A value that begins with a digit is a number. -/
theorem readValue_digit {c : Char} (hc : c.isDigit = true) (depth : Nat) (cs : List Char) :
    readValue depth (c :: cs) = readNumber false (c :: cs) (c :: cs) := by
  have hne : ∀ {d : Char}, d.isDigit = false → d ≠ c := by
    rintro d hd rfl
    rw [hc] at hd
    cases hd
  have hnone : ∀ (word : String) {w : Char} {ws : List Char}, word.toList = w :: ws → w.isDigit = false →
      afterWord? word (c :: cs) = none := fun _ _ _ hw hd => afterWord?_none hw (hne hd)
  unfold readValue
  split
  · next heq => exact absurd (List.cons.inj heq).1.symm (hne rfl)
  · next heq => exact absurd (List.cons.inj heq).1.symm (hne rfl)
  · next heq => exact absurd (List.cons.inj heq).1.symm (hne rfl)
  · next heq => exact absurd (List.cons.inj heq).1.symm (hne rfl)
  · rw [hnone "null" rfl rfl, hnone "true" rfl rfl, hnone "false" rfl rfl, hnone "NaN" rfl rfl,
      hnone "Infinity" rfl rfl]

theorem readValue_int {n : Int} (hn : (Nat.toDigits 10 n.natAbs).length ≤ maxIntegerDigits) (depth : Nat)
    {rest : List Char} (h : Closes rest) : readValue depth ((toString n).toList ++ rest) = .ok (.int n, rest) := by
  cases n with
  | ofNat n =>
    obtain ⟨d, ds, hdigits, hd⟩ := toDigits_cons n
    have htext : (toString (Int.ofNat n)).toList ++ rest = d :: (ds ++ rest) := by
      rw [← List.cons_append, ← hdigits, ← natText_toList]
      rfl
    rw [htext, readValue_digit hd, ← List.cons_append, ← hdigits]
    exact readNumber_toDigits hn h false _
  | negSucc n =>
    obtain ⟨d, ds, hdigits, hd⟩ := toDigits_cons (n + 1)
    have hI : 'I' ≠ d := by
      rintro rfl
      cases hd
    have hword : afterWord? "Infinity" (Nat.toDigits 10 (n + 1) ++ rest) = none := by
      rw [hdigits, List.cons_append, afterWord?_none rfl hI]
    rw [negText_toList, List.cons_append, readValue, hword]
    exact readNumber_toDigits hn h true _

theorem compact_opens {depth : Nat} {v : Json} (h : v.fits depth = true) : Opens v.compact.toList := by
  have hchars : ∀ {s : String} {c : Char}, s.toList.head? = some c → isOpening c = true → Opens s.toList := by
    intro s c hs hc
    obtain ⟨rest, hrest⟩ := List.head?_eq_some_iff.1 hs
    exact ⟨c, rest, hrest, hc⟩
  match v, h with
  | .null, _ => exact hchars (c := 'n') rfl rfl
  | .bool true, _ => exact hchars (c := 't') rfl rfl
  | .bool false, _ => exact hchars (c := 'f') rfl rfl
  | .int (.ofNat n), _ =>
    obtain ⟨d, ds, hdigits, hd⟩ := toDigits_cons n
    exact ⟨d, ds, (natText_toList n).trans hdigits, by simp [isOpening, hd]⟩
  | .int (.negSucc n), _ => exact ⟨'-', _, negText_toList n, rfl⟩
  | .float (.infinite false), _ => exact hchars (c := 'I') rfl rfl
  | .float (.infinite true), _ => exact hchars (c := '-') rfl rfl
  | .float .nan, _ => exact hchars (c := 'N') rfl rfl
  | .str s, _ => exact ⟨'"', _, Text.quote_toList s, rfl⟩
  | .arr items, _ => exact ⟨'[', _, by rw [compact, String.toList_append, String.toList_append]; rfl, rfl⟩
  | .obj fields, _ => exact ⟨'\x7b', _, by rw [compact, String.toList_append, String.toList_append]; rfl, rfl⟩

section
variable {depth fuel : Nat} {v w : Json} {vs done : List Json} {key name : String} {fields : List (String × Json)}

theorem itemsText_cons : (", ".intercalate (compactItems (v :: w :: vs))).toList =
    v.compact.toList ++ ',' :: ' ' :: (", ".intercalate (compactItems (w :: vs))).toList := by
  rw [compactItems, compactItems, String.intercalate_cons_cons, String.toList_append, String.toList_append,
    List.append_assoc]
  rfl

theorem fieldsText_cons : (", ".intercalate (compactFields ((key, v) :: (name, w) :: fields))).toList =
    quoteChars key.toList ++ ':' :: ' ' :: (v.compact.toList ++
      ',' :: ' ' :: (", ".intercalate (compactFields ((name, w) :: fields))).toList) := by
  rw [compactFields, compactFields, String.intercalate_cons_cons]
  simp only [String.toList_append, List.append_assoc, quote, String.toList_ofList]
  rfl

theorem fieldsText_singleton : (", ".intercalate (compactFields [(key, v)])).toList =
    quoteChars key.toList ++ ':' :: ' ' :: v.compact.toList := by
  rw [compactFields, compactFields, String.intercalate_singleton]
  simp only [String.toList_append, List.append_assoc, quote, String.toList_ofList]
  rfl

theorem itemsText_opens (h : itemsFit depth (v :: vs) = true) :
    Opens (", ".intercalate (compactItems (v :: vs))).toList := by
  have hv := compact_opens (Bool.and_eq_true_iff.1 h).1
  cases vs with
  | nil => rwa [compactItems, compactItems, String.intercalate_singleton]
  | cons w vs =>
    rw [itemsText_cons]
    exact hv.append _

theorem fieldsText_opens : Opens (", ".intercalate (compactFields ((key, v) :: fields))).toList := by
  have hkey : Opens (quoteChars key.toList) := ⟨'"', _, rfl, rfl⟩
  obtain - | ⟨⟨name, w⟩, fields⟩ := fields
  · rw [fieldsText_singleton]
    exact hkey.append _
  · rw [fieldsText_cons]
    exact hkey.append _

end

theorem insert_new {key : String} {v : Json} {entries : List (String × Json)} (h : key ∉ entries.map Prod.fst) :
    Fields.insert entries key v = entries ++ [(key, v)] := by
  induction entries with
  | nil => rfl
  | cons e entries ih =>
    obtain ⟨name, w⟩ := e
    rw [List.map_cons, List.mem_cons, not_or] at h
    rw [Fields.insert, if_neg (by simpa using Ne.symm h.1), ih h.2]
    rfl

theorem new_of_nodup {key : String} {v : Json} {entries fields : List (String × Json)}
    (h : ((entries ++ (key, v) :: fields).map Prod.fst).Nodup) : key ∉ entries.map Prod.fst := by
  rw [List.map_append, List.nodup_append] at h
  exact fun hmem => h.2.2 key hmem key (by simp) rfl

-- The rest of the text is a parameter that begins with what ends a value, so that the digits of a number end where its
-- text does; the fuel of a list and of an object is what is left to read.
mutual

/-- A value on one line is read as the value, and what closes it is left. -/
theorem readValue_compact : ∀ (v : Json) {depth : Nat} (_ : v.fits depth = true) (rest : List Char) (_ : Closes rest),
    readValue depth (v.compact.toList ++ rest) = .ok (v, rest)
  | .null, _, _, _, _ => by rw [readValue.eq_def]; rfl
  | .bool true, _, _, _, _ => by rw [readValue.eq_def]; rfl
  | .bool false, _, _, _, _ => by rw [readValue.eq_def]; rfl
  | .int n, depth, h, _, hrest => readValue_int (of_decide_eq_true h) depth hrest
  | .float (.infinite false), _, _, _, _ => by rw [readValue.eq_def]; rfl
  | .float (.infinite true), _, _, _, _ => by rw [readValue.eq_def]; rfl
  | .float .nan, _, _, _, _ => by rw [readValue.eq_def]; rfl
  | .str s, _, _, rest, _ => by
    rw [compact, Text.quote_toList, List.cons_append, List.append_assoc, readValue, List.singleton_append,
      readText_quote]
    rfl
  | .arr [], depth + 1, _, _, _ => by rw [readValue.eq_def]; rfl
  | .arr (v :: vs), depth + 1, h, rest, _ => by
    rw [fits, Bool.and_eq_true] at h
    rw [compact, String.toList_append, String.toList_append, List.append_assoc, List.append_assoc]
    exact readValue_arr ((itemsText_opens h.2).append _)
      (readItems_compact (v :: vs) h.2 (List.cons_ne_nil v vs) (Nat.lt_succ_self _))
  | .obj [], depth + 1, _, _, _ => by rw [readValue.eq_def]; rfl
  | .obj ((key, v) :: fields), depth + 1, h, rest, _ => by
    rw [fits, Bool.and_eq_true, Bool.and_eq_true] at h
    rw [compact, String.toList_append, String.toList_append, List.append_assoc, List.append_assoc]
    exact readValue_obj (fieldsText_opens.append _)
      (readFields_compact ((key, v) :: fields) h.2 (List.cons_ne_nil _ _) (of_decide_eq_true h.1.2)
        (Nat.lt_succ_self _))

theorem readItems_compact : ∀ (items : List Json) {depth : Nat} (_ : itemsFit depth items = true) (_ : items ≠ [])
    {fuel : Nat} {done : List Json} {rest : List Char}
    (_ : ((", ".intercalate (compactItems items)).toList ++ ']' :: rest).length < fuel),
    readItems (readValue depth) fuel done ((", ".intercalate (compactItems items)).toList ++ ']' :: rest) =
      .ok (done.reverse ++ items, rest)
  | [] => fun _ h => absurd rfl h
  | [v] => by
    intro h _ fuel done rest hfuel
    obtain ⟨fuel, rfl⟩ := Nat.exists_eq_succ_of_ne_zero (Nat.ne_zero_of_lt hfuel)
    have hv := readValue_compact v (Bool.and_eq_true_iff.1 h).1 (']' :: rest) (closes_cons (by decide))
    rw [compactItems, compactItems, String.intercalate_singleton, readItems_last hv, List.reverse_cons]
  | v :: w :: vs => by
    intro h _ fuel done rest hfuel
    obtain ⟨fuel, rfl⟩ := Nat.exists_eq_succ_of_ne_zero (Nat.ne_zero_of_lt hfuel)
    obtain ⟨hv, hvs⟩ := Bool.and_eq_true_iff.1 h
    rw [itemsText_cons, List.append_assoc] at hfuel ⊢
    have hv := readValue_compact v hv (',' :: ' ' ::
      ((", ".intercalate (compactItems (w :: vs))).toList ++ ']' :: rest)) (closes_cons (by decide))
    rw [List.cons_append, List.cons_append, readItems_next hv ((itemsText_opens hvs).append _),
      readItems_compact (w :: vs) hvs (List.cons_ne_nil w vs) (by simp at hfuel ⊢; omega), List.reverse_cons,
      List.append_assoc]
    rfl

theorem readFields_compact : ∀ (fields : List (String × Json)) {depth : Nat} (_ : fieldsFit depth fields = true)
    (_ : fields ≠ []) {fuel : Nat} {entries : List (String × Json)} {rest : List Char}
    (_ : ((entries ++ fields).map Prod.fst).Nodup)
    (_ : ((", ".intercalate (compactFields fields)).toList ++ '\x7d' :: rest).length < fuel),
    readFields (readValue depth) fuel entries ((", ".intercalate (compactFields fields)).toList ++ '\x7d' :: rest) =
      .ok (entries ++ fields, rest)
  | [] => fun _ h => absurd rfl h
  | [(key, v)] => by
    intro h _ fuel entries rest hkeys hfuel
    obtain ⟨fuel, rfl⟩ := Nat.exists_eq_succ_of_ne_zero (Nat.ne_zero_of_lt hfuel)
    have hfit := (Bool.and_eq_true_iff.1 h).1
    have hv := readValue_compact v hfit ('\x7d' :: rest) (closes_cons (by decide))
    rw [fieldsText_singleton, List.append_assoc]
    exact (readFields_last hv ((compact_opens hfit).append _)).trans (by rw [insert_new (new_of_nodup hkeys)])
  | (key, v) :: (name, w) :: fields => by
    intro h _ fuel entries rest hkeys hfuel
    obtain ⟨fuel, rfl⟩ := Nat.exists_eq_succ_of_ne_zero (Nat.ne_zero_of_lt hfuel)
    obtain ⟨hfit, hfits⟩ := Bool.and_eq_true_iff.1 h
    rw [fieldsText_cons, List.append_assoc] at hfuel ⊢
    have hv := readValue_compact v hfit (',' :: ' ' ::
      ((", ".intercalate (compactFields ((name, w) :: fields))).toList ++ '\x7d' :: rest)) (closes_cons (by decide))
    -- the key is new, so that its entry goes to the end
    have hentries : entries ++ (key, v) :: (name, w) :: fields = (entries ++ [(key, v)]) ++ (name, w) :: fields := by
      rw [List.append_assoc]
      rfl
    rw [List.cons_append, List.cons_append, List.append_assoc, List.cons_append, List.cons_append,
      readFields_next hv ((compact_opens hfit).append _) (fieldsText_opens.append _), insert_new (new_of_nodup hkeys),
      hentries]
    exact readFields_compact ((name, w) :: fields) hfits (List.cons_ne_nil _ _) (hentries ▸ hkeys)
      (by simp at hfuel ⊢; omega)

end

/-- A value on one line is the text of the value, also with blanks behind it. -/
theorem read_compact {v : Json} (h : v.fits maxDepth = true) {blanks : String}
    (hblanks : blanks.toList.all isGap = true) : read (v.compact ++ blanks) = .ok v := by
  have hcloses : Closes blanks.toList := by
    intro c hc
    rw [isClosing, List.all_eq_true.1 hblanks c (List.mem_of_mem_head? hc)]
    rfl
  have hopens := (compact_opens h).append blanks.toList
  have hread : readChars (v.compact.toList ++ blanks.toList) = .ok v := by
    have hskip : skipGap blanks.toList = [] := List.dropWhile_eq_nil_iff.2 (List.all_eq_true.1 hblanks)
    rw [readChars, hopens.skipGap, readValue_compact v h _ hcloses]
    simp only [bind, Except.bind]
    rw [hskip]
  obtain ⟨c, cs, hcs, hc⟩ := hopens
  have hmark := isOpening_ascii (p := fun c => c.toNat != 0xFEFF) (by decide) hc
  rw [read, String.toList_append, hcs]
  rw [hcs] at hread
  dsimp only
  rw [if_neg (by simpa using hmark), hread]

end Suitewright.Json
