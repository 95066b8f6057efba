/-
  Text as bytes.

  * `Utf8.encode`: the bytes of a text;
  * `Utf8.decode`: the text of bytes, or the first fault with its place and extent;
  * `Utf8.decodeLossy`: the text of bytes, each faulty part replaced by one replacement character.

  A faulty part is as long as the beginning of a well-formed character goes.
-/
namespace Suitewright

/-- What is wrong with a part of a byte sequence. -/
inductive Utf8Fault where
  /-- A byte that begins no character. -/
  | badStart
  /-- A character that is broken off by another byte. -/
  | badContinuation
  /-- A character that is broken off by the end. -/
  | truncated
  deriving Repr, DecidableEq

/-- The reason of a fault, in words. -/
def Utf8Fault.message : Utf8Fault → String
  | badStart => "invalid start byte"
  | badContinuation => "invalid continuation byte"
  | truncated => "unexpected end of data"

/-- A fault with its place: the part begins at `position` with the byte `first` and has `length` bytes. -/
structure Utf8Error where
  /-- What is wrong. -/
  fault : Utf8Fault
  /-- Where the part begins. -/
  position : Nat
  /-- The number of its bytes. -/
  length : Nat
  /-- Its first byte. -/
  first : UInt8
  deriving Repr, DecidableEq

namespace Utf8

/-- Two hexadecimal digits. -/
def hexByte (b : UInt8) : String :=
  .ofList [Nat.digitChar (b.toNat / 16), Nat.digitChar (b.toNat % 16)]

/-- The bytes of a text. -/
def encode (s : String) : List UInt8 := s.toList.flatMap String.utf8EncodeChar

/-- Bytes that continue a character. -/
def isContinuation (b : UInt8) : Bool := 0x80 ≤ b && b < 0xC0

/-- Whether `second` may come after `first` in a character of three or four bytes. -/
def secondAllowed (first second : UInt8) : Bool :=
  isContinuation second &&
    (first != 0xE0 || 0xA0 ≤ second) && (first != 0xED || second < 0xA0) &&
    (first != 0xF0 || 0x90 ≤ second) && (first != 0xF4 || second < 0x90)

/-- The low six bits of a continuation. -/
def low (b : UInt8) : Nat := b.toNat % 64

/-- The character or fault at a place, with the number of bytes that it takes. -/
def part (first : UInt8) (rest : List UInt8) : (Char ⊕ Utf8Fault) × Nat :=
  let f := first.toNat
  if f < 0x80 then (.inl (Char.ofNat f), 1)
  else if f < 0xC2 || 0xF4 < f then (.inr .badStart, 1)
  else if f < 0xE0 then
    match rest with
    | [] => (.inr .truncated, 1)
    | b :: _ =>
      if isContinuation b then (.inl (Char.ofNat ((f - 0xC0) * 64 + low b)), 2)
      else (.inr .badContinuation, 1)
  else if f < 0xF0 then
    match rest with
    | [] => (.inr .truncated, 1)
    | [b] => if secondAllowed first b then (.inr .truncated, 2) else (.inr .badContinuation, 1)
    | b :: c :: _ =>
      if !secondAllowed first b then (.inr .badContinuation, 1)
      else if !isContinuation c then (.inr .badContinuation, 2)
      else (.inl (Char.ofNat ((f - 0xE0) * 4096 + low b * 64 + low c)), 3)
  else
    match rest with
    | [] => (.inr .truncated, 1)
    | [b] => if secondAllowed first b then (.inr .truncated, 2) else (.inr .badContinuation, 1)
    | [b, c] =>
      if !secondAllowed first b then (.inr .badContinuation, 1)
      else if !isContinuation c then (.inr .badContinuation, 2)
      else (.inr .truncated, 3)
    | b :: c :: d :: _ =>
      if !secondAllowed first b then (.inr .badContinuation, 1)
      else if !isContinuation c then (.inr .badContinuation, 2)
      else if !isContinuation d then (.inr .badContinuation, 3)
      else (.inl (Char.ofNat ((f - 0xF0) * 262144 + low b * 4096 + low c * 64 + low d)), 4)

/-- The parts of a byte sequence from a place on; `skip` bytes belong to the last part. -/
def partsFrom : (skip position : Nat) → List UInt8 → List (Char ⊕ Utf8Error)
  | _, _, [] => []
  | skip + 1, position, _ :: bs => partsFrom skip (position + 1) bs
  | 0, position, b :: bs =>
    match part b bs with
    | (.inl c, n) => .inl c :: partsFrom (n - 1) (position + 1) bs
    | (.inr f, n) => .inr ⟨f, position, n, b⟩ :: partsFrom (n - 1) (position + 1) bs

/-- The text of parts, up to the first fault. -/
def textOf : List (Char ⊕ Utf8Error) → Except Utf8Error (List Char)
  | [] => .ok []
  | .inl c :: rest => return c :: (← textOf rest)
  | .inr e :: _ => .error e

/-- The text of bytes, or the first fault. -/
def decode (bytes : List UInt8) : Except Utf8Error String :=
  (textOf (partsFrom 0 0 bytes)).map String.ofList

/-- The text of bytes, each faulty part replaced. -/
def decodeLossy (bytes : List UInt8) : String :=
  .ofList ((partsFrom 0 0 bytes).map fun
    | .inl c => c
    | .inr _ => Char.ofNat 0xFFFD)

end Utf8

/-- The message of a fault. -/
def Utf8Error.message (e : Utf8Error) : String :=
  "'utf-8' codec can't decode " ++
    (if e.length == 1 then "byte 0x" ++ Utf8.hexByte e.first ++ " in position " ++ toString e.position
    else "bytes in position " ++ toString e.position ++ "-" ++ toString (e.position + e.length - 1)) ++
    ": " ++ e.fault.message

end Suitewright
