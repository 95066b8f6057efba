/-
  Bytes written with sixty-four characters.

  * `Base64.decode?`: the bytes of such a text; other characters are passed over.
-/
namespace Suitewright.Yaml.Base64

/-- The value of a character. -/
def value? (c : Char) : Option Nat :=
  let n := c.toNat
  if c.isUpper then some (n - 65)
  else if c.isLower then some (n - 71)
  else if c.isDigit then some (n + 4)
  else if c == '+' then some 62
  else if c == '/' then some 63
  else none

/-- Reads characters in groups of four: `group` holds the values of the open group, last first, and `padding` the
number of padding signs after them. Padding that completes a group ends the text. -/
def decodeFrom (group : List Nat) (padding : Nat) : List Char → Option (List UInt8)
  | [] => if group.isEmpty then some [] else none
  | c :: cs =>
    let byte (n : Nat) : UInt8 := .ofNat (n % 256)
    if c == '=' then
      match group with
      | [b, a] => if padding == 0 then decodeFrom group 1 cs else some [byte (a * 4 + b / 16)]
      | [z, b, a] => some [byte (a * 4 + b / 16), byte (b * 16 + z / 4)]
      | _ => decodeFrom group padding cs
    else match value? c with
      | none => decodeFrom group padding cs
      | some v =>
        match group with
        | [z, b, a] =>
          (decodeFrom [] 0 cs).map fun rest =>
            byte (a * 4 + b / 16) :: byte (b * 16 + z / 4) :: byte (z * 64 + v) :: rest
        | _ => decodeFrom (v :: group) 0 cs

/-- The bytes of a text; nothing if the text is not ASCII or its last group is not complete. -/
def decode? (cs : List Char) : Option (List UInt8) :=
  if cs.all fun c => c.toNat < 128 then decodeFrom [] 0 cs else none

end Suitewright.Yaml.Base64
