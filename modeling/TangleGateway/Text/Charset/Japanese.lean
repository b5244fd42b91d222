import TangleGateway.Text.Charset.Plane.Cp932
import TangleGateway.Text.Charset.Plane.JisX0208
import TangleGateway.Text.Charset.Plane.JisX0212
import TangleGateway.Text.Charset.Plane.JisX0213

/-! # Japanese charsets

The sets of the Japanese standards, as Shift JIS and as the extended code of Unix arrange them.
-/

namespace TangleGateway.Charset

/-! ## Sets -/

/-- The half-width kana of JIS X 0201. -/
def katakana? (b : UInt8) : Option Char :=
  if 0xA1 ≤ b ∧ b ≤ 0xDF then some (.ofNat (0xFEC0 + b.toNat)) else none

/-- ASCII with a yen sign and an overline, as JIS X 0201 has it. -/
def roman? (b : UInt8) : Option Char :=
  if b = 0x5C then some '¥' else if b = 0x7E then some '‾' else ascii? b

def jisX0208? (row cell : Nat) : Code :=
  .ofChar (Plane.jisX0208.char? row cell)

def jisX0212? (row cell : Nat) : Code :=
  .ofChar (Plane.jisX0212.char? row cell)

namespace JisX0213

inductive Edition where
  | first
  | second
  deriving DecidableEq

/-- The first edition keeps some codes of the first plane free, each a gap as a whole. -/
def first? (e : Edition) (row cell : Nat) : Code :=
  if e = .first ∧ (row, cell) ∈ Plane.jisX0213Added then some [.gap]
  else
    jisX0208? row cell <|> .ofChar (Plane.jisX0213First.char? row cell) <|>
      .ofString (Plane.jisX0213Pairs.lookup (row, cell))

def second? (row cell : Nat) : Code :=
  .ofChar (Plane.jisX0213Second.char? row cell)

/-- The first edition has another form of one kanji of the second plane. -/
def unified? (e : Edition) (row cell : Nat) : Code :=
  if e = .first ∧ (row, cell) = (0x7D, 0x3B) then some [.point '鬝'] else second? row cell

end JisX0213

/-! ## Shift JIS -/

namespace ShiftJis

/-- The row and the cell of two bytes, where rows go on past the last of a plane. -/
def place? (a b : Nat) : Option (Nat × Nat) :=
  if ((0x81 ≤ a ∧ a ≤ 0x9F) ∨ (0xE0 ≤ a ∧ a ≤ 0xFC)) ∧ 0x40 ≤ b ∧ b ≤ 0xFC ∧ b ≠ 0x7F then
    let row := if a < 0xE0 then a - 0x81 else a - 0xC1
    let cell := if b < 0x80 then b - 0x40 else b - 0x41
    if cell < 94 then some (2 * row + 0x21, cell + 0x21)
    else some (2 * row + 0x22, cell - 94 + 0x21)
  else none

def code? (a b : Nat) : Code :=
  (place? a b).bind fun p => jisX0208? p.1 p.2

def read (bytes : List UInt8) : Reading :=
  readDouble (fun b => ascii? b <|> katakana? b) code? bytes

end ShiftJis

namespace ShiftJisX0213

def secondRows : List Nat :=
  [0x21, 0x28, 0x23, 0x24, 0x25, 0x2C, 0x2D, 0x2E, 0x2F, 0x6E, 0x6F, 0x70, 0x71, 0x72, 0x73,
    0x74, 0x75, 0x76, 0x77, 0x78, 0x79, 0x7A, 0x7B, 0x7C, 0x7D, 0x7E]

/-- The reverse solidus is not a wide one. -/
def code? (e : JisX0213.Edition) (a b : Nat) : Code := do
  let (row, cell) ← ShiftJis.place? a b
  if (row, cell) = (0x21, 0x40) then some [.point '\\']
  else if row ≤ 0x7E then JisX0213.first? e row cell
  else JisX0213.unified? e (← secondRows[row - 0x7F]?) cell

def read (e : JisX0213.Edition) (bytes : List UInt8) : Reading :=
  readDouble (fun b => roman? b <|> katakana? b) (code? e) bytes

end ShiftJisX0213

namespace Cp932

/-- Single bytes that no standard defines are in private use, but for the first. -/
def single? (b : UInt8) : Option Char :=
  if b ≤ 0x80 then some (.ofNat b.toNat)
  else if b = 0xA0 then some '\uf8f0'
  else if 0xFD ≤ b then some (.ofNat (0xF8F1 + (b.toNat - 0xFD)))
  else katakana? b

/-- Ten rows of Shift JIS are in private use. -/
def privateUse? (a b : Nat) : Option Char :=
  if 0xF0 ≤ a ∧ a ≤ 0xF9 then
    (Plane.column? b Plane.cp932.cells).map fun n => .ofNat (0xE000 + 188 * (a - 0xF0) + n)
  else none

def code? (a b : Nat) : Code :=
  .ofChar (Plane.cp932Symbols.lookup (a, b) <|> Plane.cp932.char? a b <|> privateUse? a b) <|>
    if a ≤ 0xEA then ShiftJis.code? a b else none

def read (bytes : List UInt8) : Reading :=
  readDouble single? code? bytes

end Cp932

/-! ## The extended code of Unix -/

namespace EucJp

/--
ASCII, kana after 0x8E, a further set after 0x8F, and codes of two bytes. A byte that starts no
code is a gap.
-/
def front (double? triple? : Nat → Nat → Code) (_ : Unit) (a : UInt8) (bytes : List UInt8) :
    Front Unit :=
  match ascii? a, bytes with
  | some c, _ => .item (.point c) 0 ()
  | none, [] => .cut
  | none, b :: rest =>
    if a = 0x8E then .ofCode () 1 (.ofChar (katakana? b))
    else if a = 0x8F then
      match rest with
      | c :: _ => .ofCode () 2 (triple? (flipped b) (flipped c))
      | [] => .cut
    else .ofCode () 1 (double? (flipped a) (flipped b))

def read (bytes : List UInt8) : Reading :=
  readFronts (front jisX0208? jisX0212?) () bytes

end EucJp

namespace EucJisX0213

/-- The tilde is a wide one. -/
def double? (e : JisX0213.Edition) (row cell : Nat) : Code :=
  if (row, cell) = (0x22, 0x32) then some [.point '～'] else JisX0213.first? e row cell

def triple? (e : JisX0213.Edition) (row cell : Nat) : Code :=
  JisX0213.unified? e row cell <|> jisX0212? row cell

def read (e : JisX0213.Edition) (bytes : List UInt8) : Reading :=
  readFronts (EucJp.front (double? e) (triple? e)) () bytes

end EucJisX0213

end TangleGateway.Charset
