import TangleGateway.Text.Charset.Reading
import TangleGateway.Text.Hexadecimal

/-! # Escaped text

Bytes as the code points of their numbers, and all else after a backslash.
-/

namespace TangleGateway.Charset.Escaped

/-- The number of hexadecimal digits that an escape with a letter has. -/
def width? (b : UInt8) : Option Nat :=
  if b = 0x78 then some 2
  else if b = 0x75 then some 4
  else if b = 0x55 then some 8
  else none

/-- The number of the first `width` digits, and how many digits there are if there are fewer. -/
def hexNumber (width : Nat) (bytes : List UInt8) : Except Nat Nat :=
  let digits := (bytes.take width).map fun b => (CodePoint.ofNat b.toNat).hexValue?
  let values := (digits.takeWhile Option.isSome).filterMap id
  if values.length = width then .ok (values.foldl (fun n d => n * 16 + d) 0)
  else .error values.length

def frontHex (width : Nat) (bytes : List UInt8) : Front Unit :=
  match hexNumber width bytes with
  | .ok n => if n < 0x110000 then .item (.ofNat n) (1 + width) () else .gap (1 + width) ()
  | .error digits => .gap (1 + digits) ()

/-- Escapes of one letter, and the signs that stand for themselves. -/
def letter? (b : UInt8) : Option Nat :=
  [(0x5C, 0x5C), (0x27, 0x27), (0x22, 0x22), (0x61, 7), (0x62, 8), (0x74, 9), (0x6E, 10),
    (0x76, 11), (0x66, 12), (0x72, 13)].lookup b.toNat

def octalValue? (b : UInt8) : Option Nat :=
  if 0x30 ≤ b ∧ b ≤ 0x37 then some (b.toNat - 0x30) else none

/-- A number of up to three octal digits, and how many it has. -/
def octal? (bytes : List UInt8) : Option (Nat × Nat) :=
  let digits := ((bytes.take 3).map octalValue?).takeWhile Option.isSome
  match digits.filterMap id with
  | [] => none
  | ds => some (ds.foldl (fun n d => n * 8 + d) 0, ds.length)

/-- A name in braces, after the letter for names. No name is known, and an empty one is none. -/
def frontName : List UInt8 → Front Unit
  | [] => .cut
  | 0x7B :: rest =>
    let name := rest.takeWhile (· ≠ 0x7D)
    if name.length = rest.length then .cut
    else if name.isEmpty then .gap 2 ()
    else .gap (name.length + 3) ()
  | _ => .gap 1 ()

/-- An unknown escape is no escape. -/
def front (_ : Unit) (a : UInt8) (bytes : List UInt8) : Front Unit :=
  if a ≠ 0x5C then .item (.ofNat a.toNat) 0 ()
  else
    match bytes with
    | [] => .cut
    | 0x0A :: _ => .read [] 1 ()
    | 0x4E :: rest => frontName rest
    | b :: rest =>
      match width? b, letter? b, octal? bytes with
      | some width, _, _ => frontHex width rest
      | _, some n, _ => .item (.ofNat n) 1 ()
      | _, _, some (n, width) => .item (.ofNat n) width ()
      | _, _, _ => .read [.ofNat a.toNat, .ofNat b.toNat] 1 ()

def read (bytes : List UInt8) : Reading :=
  readFronts front () bytes

/-- Only escapes of four and eight digits. A backslash at the end stands for itself. -/
def frontWide (_ : Unit) (a : UInt8) (bytes : List UInt8) : Front Unit :=
  if a ≠ 0x5C then .item (.ofNat a.toNat) 0 ()
  else
    match bytes with
    | [] => .item (.ofNat a.toNat) 0 ()
    | b :: rest =>
      match width? b with
      | some 4 => frontHex 4 rest
      | some 8 => frontHex 8 rest
      | _ => .read [.ofNat a.toNat, .ofNat b.toNat] 1 ()

def readWide (bytes : List UInt8) : Reading :=
  readFronts frontWide () bytes

end TangleGateway.Charset.Escaped
