import TangleGateway.Text.Charset.Reading

/-! # Punycode

ASCII letters, a hyphen, and numbers that say which other code points are inserted and where. The
first number that is incomplete or holds a sign that is no digit ends the text.
-/

namespace TangleGateway.Charset.Punycode

/-- Letters of both cases are digits, and after them the decimal digits. -/
def digit? (b : UInt8) : Option Nat :=
  if 0x41 ≤ b ∧ b ≤ 0x5A then some (b.toNat - 0x41)
  else if 0x61 ≤ b ∧ b ≤ 0x7A then some (b.toNat - 0x61)
  else if 0x30 ≤ b ∧ b ≤ 0x39 then some (b.toNat - 0x30 + 26)
  else none

/-- The least digit at a place that does not end a number. -/
def threshold (place bias : Nat) : Nat :=
  max 1 (min 26 (36 * (place + 1) - bias))

def readNumber (bias : Nat) (place weight : Nat) : List UInt8 → Option (Nat × List UInt8)
  | [] => none
  | b :: bs => do
    let d ← digit? b
    let t := threshold place bias
    if d < t then some (d * weight, bs)
    else
      let (n, rest) ← readNumber bias (place + 1) (weight * (36 - t)) bs
      some (d * weight + n, rest)

/-- Divides a number until it is small, with 36 for each division. -/
def scale (n divisions : Nat) : Nat :=
  if 455 < n then scale (n / 35) (divisions + 36) else divisions + 36 * n / (n + 38)
termination_by n

/-- The bias for the next number, after one that gave the text a length. -/
def adapt (n length : Nat) (isFirst : Bool) : Nat :=
  let n := if isFirst then n / 700 else n / 2
  scale (n + n / length) 0

structure Cursor where
  point : Nat := 0x80
  place : Nat := 0
  bias : Nat := 72
  isFirst : Bool := true

/-- Inserts code points, a number each. A code point past the last one reads as a question mark. -/
def insertAll (fuel : Nat) (c : Cursor) (text : Reading) (bytes : List UInt8) : Reading :=
  match fuel, bytes with
  | fuel + 1, _ :: _ =>
    match readNumber c.bias 0 1 bytes with
    | none => text ++ [.flaw []]
    | some (n, rest) =>
      let length := text.length + 1
      let point := c.point + (c.place + n) / length
      let place := (c.place + n) % length
      let (point, item) : Nat × Item :=
        if point < 0x110000 then (point, .ofNat point) else (0x3F, .flaw [.scalar '?'])
      let next := ⟨point, place + 1, adapt n length c.isFirst, false⟩
      insertAll fuel next (text.take place ++ item :: text.drop place) rest
  | _, _ => text

/-- What stands before the last hyphen, and what stands after it; all, if there is none. -/
def split (bytes : List UInt8) : List UInt8 × List UInt8 :=
  let last := (bytes.reverse.takeWhile (· ≠ 0x2D)).reverse
  (bytes.take (bytes.length - last.length - 1), last)

/-- A byte that is not ASCII is a gap before the hyphen and an end after it. -/
def read (bytes : List UInt8) : Reading :=
  let (letters, numbers) := split bytes
  match numbers.findIdx? (0x80 ≤ ·) with
  | some i => [.stop (.notAscii numbers i)]
  | none =>
    let text := letters.map fun b => if b < 0x80 then .ofNat b.toNat else .gap
    insertAll numbers.length {} text numbers

end TangleGateway.Charset.Punycode
