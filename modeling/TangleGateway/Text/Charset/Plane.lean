import TangleGateway.Text.Charset.Reading

/-! # Planes of codes

A code of two bytes is a row and a cell of a plane. Most charsets of two bytes have ASCII beside
their planes.
-/

namespace TangleGateway

/--
The rows of a plane in blocks, each with the number of its first row. A row lists the code points
of its cells, whose numbers lie in the ranges `cells`. A cell past the list, or with a replacement
character in it, is empty.
-/
structure Plane where
  cells : List (Nat × Nat)
  blocks : List (Nat × List String)

namespace Plane

/-- How many cells of a row come before one with a number. -/
def column? (number : Nat) : List (Nat × Nat) → Option Nat
  | [] => none
  | (first, last) :: ranges =>
    if first ≤ number ∧ number ≤ last then some (number - first)
    else (column? number ranges).map (· + (last + 1 - first))

def row? (number : Nat) : List (Nat × List String) → Option String
  | [] => none
  | (first, rows) :: blocks =>
    if first ≤ number ∧ number < first + rows.length then rows[number - first]?
    else row? number blocks

def char? (p : Plane) (row cell : Nat) : Option Char := do
  let points ← row? row p.blocks
  let column ← column? cell p.cells
  let c ← points.toList[column]?
  if c = '\uFFFD' then none else some c

end Plane

namespace Charset

abbrev Code := Option Reading

namespace Code

def ofChar (c : Option Char) : Code :=
  c.map fun c => [.point (.scalar c)]

def ofString (s : Option String) : Code :=
  s.map fun s => s.toList.map fun c => .point (.scalar c)

end Code

/-- A code that has `more` bytes after the first. If there is none the first byte is a gap. -/
def Front.ofCode {σ : Type} (state : σ) (more : Nat) : Code → Front σ
  | some r => .read r more state
  | none => .gap 0 state

def ascii? (b : UInt8) : Option Char :=
  if b < 0x80 then some (.ofNat b.toNat) else none

/-- Codes of one byte and of two. A first byte without a code is a gap. -/
def readDouble (single? : UInt8 → Option Char) (double? : Nat → Nat → Code) :
    List UInt8 → Reading
  | [] => []
  | [a] => (Code.ofChar (single? a)).getD [.gap]
  | a :: b :: bytes =>
    match single? a with
    | some c => .point c :: readDouble single? double? (b :: bytes)
    | none =>
      match double? a.toNat b.toNat with
      | some r => r ++ readDouble single? double? bytes
      | none => .gap :: readDouble single? double? (b :: bytes)

/-- The number of a byte with its highest bit changed. -/
def flipped (b : UInt8) : Nat :=
  (b ^^^ 0x80).toNat

end Charset

end TangleGateway
