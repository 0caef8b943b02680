/-!
# UTF-8

Bytes are read as UTF-8, or refused with the number of good bytes before the fault. A fault is a sequence of bytes
that no further bytes can mend, or a text that ends within a character.
-/
namespace PatternLint

/-- Where and how bytes fail to be UTF-8. -/
structure Utf8Error where
  /-- The number of bytes before the fault. -/
  validUpTo : Nat
  /-- The length of the bad sequence, or `none` if the text ends too early. -/
  length : Option Nat
deriving DecidableEq, Repr

def Utf8Error.message (e : Utf8Error) : String :=
  match e.length with
  | some n => s!"invalid utf-8 sequence of {n} bytes from index {e.validUpTo}"
  | none => s!"incomplete utf-8 byte sequence from index {e.validUpTo}"

namespace Utf8

/-- Whether a byte continues a character. -/
def isContinuation (b : UInt8) : Bool := b &&& 0xC0 == 0x80

/-- The number of bytes that a first byte announces after it; `none` for bytes that begin no character. -/
def following? (b : UInt8) : Option Nat :=
  if b < 0x80 then some 0
  else if 0xC2 ≤ b && b ≤ 0xDF then some 1
  else if 0xE0 ≤ b && b ≤ 0xEF then some 2
  else if 0xF0 ≤ b && b ≤ 0xF4 then some 3
  else none

/-- Whether a second byte may follow a first one. -/
def secondFits (first second : UInt8) : Bool :=
  if first = 0xE0 then 0xA0 ≤ second && second ≤ 0xBF
  else if first = 0xED then 0x80 ≤ second && second ≤ 0x9F
  else if first = 0xF0 then 0x90 ≤ second && second ≤ 0xBF
  else if first = 0xF4 then 0x80 ≤ second && second ≤ 0x8F
  else isContinuation second

/-- The value that a first byte and those after it write. -/
def value (first : UInt8) (rest : List UInt8) : Nat :=
  let head := first.toNat % (if first < 0x80 then 128 else if first < 0xE0 then 32 else if first < 0xF0 then 16 else 8)
  rest.foldl (fun n b => n * 64 + b.toNat % 64) head

/-- Splits off the first character of some bytes, or says how long the bad sequence at their beginning is. -/
def first? (b : UInt8) (bs : List UInt8) : Except (Option Nat) (Char × Nat) :=
  match following? b with
  | none => .error (some 1)
  | some 0 => .ok (Char.ofNat b.toNat, 0)
  | some n =>
    match bs with
    | [] => .error none
    | b₂ :: bs =>
      if !secondFits b b₂ then .error (some 1)
      else
        let tail := (bs.take (n - 1)).takeWhile isContinuation
        if tail.length = n - 1 then .ok (Char.ofNat (value b (b₂ :: tail)), n)
        else if bs.length ≤ tail.length then .error none
        else .error (some (2 + tail.length))

/-- Reads bytes. `skip` of them belong to a character already read, `index` counts the bytes passed, and `text`
holds the characters read, last first. -/
def decodeFrom (index skip : Nat) (text : List Char) : List UInt8 → Except Utf8Error (List Char)
  | [] => .ok text.reverse
  | b :: bs =>
    match skip with
    | skip + 1 => decodeFrom (index + 1) skip text bs
    | 0 =>
      match first? b bs with
      | .ok (c, n) => decodeFrom (index + 1) n (c :: text) bs
      | .error length => .error ⟨index, length⟩

/-- The text that bytes write in UTF-8. -/
def decode (bytes : List UInt8) : Except Utf8Error (List Char) := decodeFrom 0 0 [] bytes

/-- The bytes of a text in UTF-8. -/
def encode (s : String) : List UInt8 := s.toUTF8.toList

end Utf8

end PatternLint
