import TangleGateway.Text.Charset.Plane.Big5
import TangleGateway.Text.Charset.Plane.Gb2312
import TangleGateway.Text.Charset.Plane.Gbk
import TangleGateway.Text.Charset.Plane.Hkscs

/-! # Chinese charsets

The sets of the mainland, each beside ASCII and the last one over all of Unicode, and those of
Taiwan and Hong Kong.
-/

namespace TangleGateway.Charset

def gb2312? (row cell : Nat) : Code :=
  .ofChar (Plane.gb2312.char? row cell)

/-! ## Beside ASCII -/

namespace Gb2312

def code? (a b : Nat) : Code :=
  if 0x80 ≤ a ∧ 0x80 ≤ b then gb2312? (a - 0x80) (b - 0x80) else none

def read (bytes : List UInt8) : Reading :=
  readDouble ascii? code? bytes

end Gb2312

namespace Gbk

/-- Three signs are other ones than in GB 2312. -/
def sign? (a b : Nat) : Option Char :=
  [((0xA1, 0xA4), '·'), ((0xA1, 0xAA), '—'), ((0xA8, 0x44), '―')].lookup (a, b)

def code? (a b : Nat) : Code :=
  .ofChar (sign? a b) <|> Gb2312.code? a b <|>
    .ofChar (Plane.gbk.char? a b <|> Plane.gbkSymbols.char? a b)

def read (bytes : List UInt8) : Reading :=
  readDouble ascii? code? bytes

end Gbk

namespace Gb18030

/-- Codes of two bytes: those of GBK and the runs beside them. -/
def double? (a b : Nat) : Code :=
  Gbk.code? a b <|>
    if 0x81 ≤ a ∧ a ≤ 0xFE then do
      let column ← Plane.column? b Plane.gbk.cells
      let n := 190 * (a - 0x81) + column
      let (start, point, _) ← Plane.gb18030Runs.find? fun r => r.1 ≤ n ∧ n < r.1 + r.2.2
      some [.ofNat (point + (n - start))]
    else none

/-- The code point at a place in runs of code points. -/
def pointAt? (n : Nat) : List (Nat × Nat) → Option Char
  | [] => none
  | (point, length) :: runs =>
    if n < length then some (.ofNat (point + n)) else pointAt? (n - length) runs

/-- Codes of four bytes: first those without two bytes, then those beyond the basic plane. -/
def quadruple? (a b c d : Nat) : Code :=
  if 0x81 ≤ a ∧ a ≤ 0xFE ∧ 0x81 ≤ c ∧ c ≤ 0xFE ∧ 0x30 ≤ d ∧ d ≤ 0x39 then
    let n := (((a - 0x81) * 10 + (b - 0x30)) * 126 + (c - 0x81)) * 10 + (d - 0x30)
    if a < 0x90 then .ofChar (pointAt? n Plane.gb18030Gaps)
    else
      let point := 0x10000 + (n - 189000)
      if point < 0x110000 then some [.ofNat point] else none
  else none

/-- A digit as second byte makes a code one of four. -/
def front (_ : Unit) (a : UInt8) (bytes : List UInt8) : Front Unit :=
  match ascii? a, bytes with
  | some c, _ => .item (.point c) 0 ()
  | none, [] => .cut
  | none, b :: rest =>
    if 0x30 ≤ b ∧ b ≤ 0x39 then
      match rest with
      | c :: d :: _ => .ofCode () 3 (quadruple? a.toNat b.toNat c.toNat d.toNat)
      | _ => .cut
    else .ofCode () 1 (double? a.toNat b.toNat)

def read (bytes : List UInt8) : Reading :=
  readFronts front () bytes

end Gb18030

/-! ## In seven bits -/

namespace Hz

/-- A tilde with a brace enters and leaves the set; the state says whether a byte is in it. -/
def front (inSet : Bool) (a : UInt8) (bytes : List UInt8) : Front Bool :=
  if a = 0x7E then
    match bytes, inSet with
    | [], _ => .cut
    | 0x7E :: _, false => .item (.ofNat 0x7E) 1 false
    | 0x7B :: _, false => .read [] 1 true
    | 0x0A :: _, false => .read [] 1 false
    | 0x7D :: _, true => .read [] 1 false
    | _, _ => .gap 0 inSet
  else if 0x80 ≤ a then .gap 0 inSet
  else if !inSet then .item (.ofNat a.toNat) 0 false
  else
    match bytes with
    | [] => .cut
    | b :: _ => .ofCode true 1 (gb2312? a.toNat b.toNat)

def read (bytes : List UInt8) : Reading :=
  readFronts front false bytes

end Hz

/-! ## Taiwan and Hong Kong -/

namespace Big5

def code? (a b : Nat) : Code :=
  .ofChar (Plane.big5.char? a b)

def read (bytes : List UInt8) : Reading :=
  readDouble ascii? code? bytes

end Big5

namespace Cp950

def code? (a b : Nat) : Code :=
  .ofChar (Plane.cp950Symbols.lookup (a, b) <|> Plane.cp950.char? a b) <|> Big5.code? a b

def read (bytes : List UInt8) : Reading :=
  readDouble ascii? code? bytes

end Cp950

namespace Hkscs

/-- The codes of Big5 from the last part of one row to the end of another are not kept. -/
def keepsBig5 (a b : Nat) : Bool :=
  a < 0xC6 || 0xC8 < a || (a = 0xC6 && b < 0xA1)

def code? (a b : Nat) : Code :=
  (if keepsBig5 a b then Big5.code? a b else none) <|>
    .ofChar (Plane.hkscs.char? a b) <|> .ofString (Plane.hkscsPairs.lookup (a, b))

def read (bytes : List UInt8) : Reading :=
  readDouble ascii? code? bytes

end Hkscs

end TangleGateway.Charset
