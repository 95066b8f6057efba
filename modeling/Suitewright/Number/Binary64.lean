/-
  Binary floating point with 53 significant bits, as exact data.

  * `Binary64`: a sign with a whole number of units `2 ^ exponent`, an infinity, or no number;
  * `Binary64.ofQuotient`: the value nearest to a quotient of natural numbers, ties to the even mantissa;
  * `Binary64.ofDecimal`: the value nearest to `digits · 10 ^ exponent`;
  * `Binary64.toInt?`: the value as an integer, when it is one.

  All arithmetic is on natural numbers, so every rounding is exact.
-/
namespace Suitewright

/-- A binary floating-point number: `finite negative mantissa exponent` is `± mantissa · 2 ^ exponent`. -/
inductive Binary64 where
  /-- A finite number. -/
  | finite (negative : Bool) (mantissa : Nat) (exponent : Int)
  /-- An infinity. -/
  | infinite (negative : Bool)
  /-- No number. -/
  | nan
  deriving Repr, DecidableEq, Inhabited

namespace Binary64

/-- The number of significant bits. -/
def precision : Nat := 53

/-- The exponent of the smallest positive number. -/
def minExponent : Int := -1074

/-- The largest exponent of a full mantissa. -/
def maxExponent : Int := 971

/-- Multiplies by a power of two whose exponent may be negative: a numerator and a denominator. -/
def scaleTwo (num den : Nat) (k : Int) : Nat × Nat :=
  if 0 ≤ k then (num * Nat.pow 2 k.toNat, den) else (num, den * Nat.pow 2 (-k).toNat)

/-- The whole number nearest to `num / den`, ties to the even one. -/
def roundHalfEven (num den : Nat) : Nat :=
  let q := num / den
  let r := num % den
  if 2 * r < den then q else if den < 2 * r then q + 1 else if q % 2 == 0 then q else q + 1

/-- The number nearest to `± num / den`. -/
def ofQuotient (negative : Bool) (num den : Nat) : Binary64 :=
  if num == 0 || den == 0 then finite negative 0 minExponent
  else
    let guess : Int := (num.log2 : Int) - (den.log2 : Int) - precision
    let e₀ := max guess minExponent
    let (n₀, d₀) := scaleTwo num den (-e₀)
    -- The guess is at most one too small.
    let e := if n₀ / d₀ < Nat.pow 2 precision then e₀ else e₀ + 1
    let (n, d) := scaleTwo num den (-e)
    let m := roundHalfEven n d
    let (m, e) := if m == Nat.pow 2 precision then (Nat.pow 2 (precision - 1), e + 1) else (m, e)
    if maxExponent < e then infinite negative else finite negative m e

/-- The number nearest to `± digits · 10 ^ exponent`. -/
def ofDecimal (negative : Bool) (digits : Nat) (exponent : Int) : Binary64 :=
  let magnitude : Int := (Nat.toDigits 10 digits).length + exponent
  if digits == 0 then finite negative 0 minExponent
  else if 400 < magnitude then infinite negative
  else if magnitude < -400 then finite negative 0 minExponent
  else if 0 ≤ exponent then ofQuotient negative (digits * Nat.pow 10 exponent.toNat) 1
  else ofQuotient negative digits (Nat.pow 10 (-exponent).toNat)

/-- The magnitude of a finite number as a fraction. -/
def fraction (mantissa : Nat) (exponent : Int) : Nat × Nat := scaleTwo mantissa 1 exponent

/-- The value as an integer, when it is finite and whole. -/
def toInt? : Binary64 → Option Int
  | finite negative m e =>
    let (n, d) := fraction m e
    if n % d == 0 then some (if negative then -((n / d : Nat) : Int) else ((n / d : Nat) : Int)) else none
  | _ => none

/-- Turns the sign around. -/
def neg : Binary64 → Binary64
  | finite s m e => finite (!s) m e
  | infinite s => infinite (!s)
  | nan => nan

/-- A magnitude with its sign. -/
def signed (negative : Bool) (n : Nat) : Int := if negative then -(n : Int) else n

/-- The sum, rounded. -/
def add : Binary64 → Binary64 → Binary64
  | nan, _ => nan
  | _, nan => nan
  | infinite s, infinite t => if s == t then infinite s else nan
  | infinite s, _ => infinite s
  | _, infinite t => infinite t
  | finite s m e, finite t n f =>
    let (m₁, d₁) := fraction m e
    let (m₂, d₂) := fraction n f
    let sum := signed s m₁ * d₂ + signed t m₂ * d₁
    ofQuotient (if sum == 0 then s && t else sum < 0) sum.natAbs (d₁ * d₂)

/-- The product with a natural number, rounded. -/
def scale (k : Nat) : Binary64 → Binary64
  | finite s m e =>
    let (n, d) := fraction m e
    ofQuotient s (n * k) d
  | infinite s => if k == 0 then nan else infinite s
  | nan => nan

end Binary64

end Suitewright
