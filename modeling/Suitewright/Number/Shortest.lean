/-
  The shortest decimal text that reads back as the same number.

  * `Binary64.shortest`: the fewest digits that round to the number, the nearest such ones, and the place of
    the decimal point;
  * `Binary64.toText`: positional from `0.0001` up to sixteen digits before the point, with `.0` for a
    whole number, and scientific outside, with at least two digits of exponent.
-/
import Suitewright.Number.Binary64

namespace Suitewright.Binary64

/-- Whether `num / den` rounds to the number `m · 2 ^ e`: it lies between the midpoints to its neighbours. -/
def roundsTo (m : Nat) (e : Int) (num den : Nat) : Bool :=
  -- Below a power of two the lower neighbour is half as far away.
  let lower : Nat × Nat :=
    if m == Nat.pow 2 (precision - 1) && minExponent < e then scaleTwo (4 * m - 1) 4 e
    else scaleTwo (2 * m - 1) 2 e
  let upper := scaleTwo (2 * m + 1) 2 e
  let aboveLower := lower.1 * den < num * lower.2
  let belowUpper := num * upper.2 < upper.1 * den
  let atLower := lower.1 * den == num * lower.2
  let atUpper := num * upper.2 == upper.1 * den
  (aboveLower || (atLower && m % 2 == 0)) && (belowUpper || (atUpper && m % 2 == 0))

/-- The power of ten just above `num / den`: the number of digits before the point, or minus the number of
zeros after it. -/
def decimalPlace (num den : Nat) : Int :=
  if den ≤ num then ((Nat.toDigits 10 (num / den)).length : Int)
  else
    let inverse := (Nat.toDigits 10 (den / num)).length
    -- `Nat.pow 10 (inverse - 1) ≤ den / num < 10 ^ inverse`.
    if num * Nat.pow 10 (inverse - 1) == den then 2 - (inverse : Int) else 1 - (inverse : Int)

/-- A whole number of units `10 ^ unit` as a fraction. -/
def scaleTen (count : Nat) (unit : Int) : Nat × Nat :=
  if 0 ≤ unit then (count * Nat.pow 10 unit.toNat, 1) else (count, Nat.pow 10 (-unit).toNat)

/-- The one of the two multiples of `10 ^ unit` next to `num / den` that rounds to `m · 2 ^ e`, the nearer
one if both do and the even one of two equally near. -/
def gridPoint? (m : Nat) (e : Int) (num den : Nat) (unit : Int) : Option Nat :=
  let (n, d) := if 0 ≤ unit then (num, den * Nat.pow 10 unit.toNat) else (num * Nat.pow 10 (-unit).toNat, den)
  let below := n / d
  let r := n % d
  let fits (k : Nat) : Bool := let (a, b) := scaleTen k unit; k != 0 && roundsTo m e a b
  let lowFirst := 2 * r < d || (2 * r == d && below % 2 == 0)
  if r == 0 then some below
  else if lowFirst then
    if fits below then some below else if fits (below + 1) then some (below + 1) else none
  else if fits (below + 1) then some (below + 1) else if fits below then some below else none

/-- Tries one digit more until a grid point rounds to the number. -/
def shortestFrom (m : Nat) (e : Int) (num den : Nat) (place : Int) : Nat → Nat → Nat × Int
  | 0, digits =>
    let unit := place - digits
    ((gridPoint? m e num den unit).getD 0, unit)
  | tries + 1, digits =>
    let unit := place - digits
    match gridPoint? m e num den unit with
    | some k => (k, unit)
    | none => shortestFrom m e num den place tries (digits + 1)

/-- The shortest digits of a positive number, and the place of the point counted from their front. -/
def shortest (m : Nat) (e : Int) : List Char × Int :=
  let (num, den) := fraction m e
  let (count, unit) := shortestFrom m e num den (decimalPlace num den) 17 1
  let digits := Nat.toDigits 10 count
  let point : Int := digits.length + unit
  ((digits.reverse.dropWhile (· == '0')).reverse, point)

/-- An exponent of at least two digits with its sign. -/
def exponentText (e : Int) : List Char :=
  let digits := Nat.toDigits 10 e.natAbs
  (if e < 0 then '-' else '+') :: (if digits.length < 2 then '0' :: digits else digits)

/-- Digits with the point at `point`: positional while the point is near, else scientific. -/
def layout (digits : List Char) (point : Int) : List Char :=
  if -4 < point && point ≤ 16 then
    if point ≤ 0 then '0' :: '.' :: (List.replicate (-point).toNat '0' ++ digits)
    else if (digits.length : Int) ≤ point then
      digits ++ List.replicate (point.toNat - digits.length) '0' ++ ['.', '0']
    else digits.take point.toNat ++ '.' :: digits.drop point.toNat
  else
    let mantissa := match digits with
      | d :: [] => [d]
      | d :: ds => d :: '.' :: ds
      | [] => ['0']
    mantissa ++ 'e' :: exponentText (point - 1)

/-- The digits of a finite number, without its sign. -/
def magnitudeText (m : Nat) (e : Int) : List Char :=
  if m == 0 then ['0', '.', '0'] else (fun (d, p) => layout d p) (shortest m e)

/-- The text of a number, with the given names for the infinities and for no number. -/
def toTextWith (infinity missing : String) : Binary64 → String
  | finite negative m e => (if negative then "-" else "") ++ .ofList (magnitudeText m e)
  | infinite negative => (if negative then "-" else "") ++ infinity
  | nan => missing

/-- The text of a number. -/
def toText : Binary64 → String := toTextWith "inf" "nan"

end Suitewright.Binary64
