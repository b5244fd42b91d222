import TangleGateway.Text.Charset.Plane.KsX1001

/-! # Korean charsets

The set of KS X 1001, beside the syllables it lacks or with codes that are put together from the
letters of a syllable.
-/

namespace TangleGateway.Charset

def ksX1001? (row cell : Nat) : Code :=
  .ofChar (Plane.ksX1001.char? row cell)

/-! ## Syllables -/

namespace Syllable

def initials : List Char :=
  "ㄱㄲㄴㄷㄸㄹㅁㅂㅃㅅㅆㅇㅈㅉㅊㅋㅌㅍㅎ".toList

def vowels : List Char :=
  "ㅏㅐㅑㅒㅓㅔㅕㅖㅗㅘㅙㅚㅛㅜㅝㅞㅟㅠㅡㅢㅣ".toList

def finals : List Char :=
  "ㄱㄲㄳㄴㄵㄶㄷㄹㄺㄻㄼㄽㄾㄿㅀㅁㅂㅄㅅㅆㅇㅈㅊㅋㅌㅍㅎ".toList

/-- The syllable of an initial, a vowel and a final, which is 0 for none. -/
def char (initial vowel final : Nat) : Char :=
  .ofNat (0xAC00 + (initial * 21 + vowel) * 28 + final)

end Syllable

/-! ## The extended code of Unix -/

namespace EucKr

def letter (b : UInt8) : Char :=
  .ofNat (0x3131 + (b.toNat - 0xA1))

/-- A syllable from the bytes of its three letters. The last may be a filler. -/
def syllable? (initial vowel final : UInt8) : Option Char :=
  if 0xA1 ≤ initial ∧ 0xA1 ≤ vowel ∧ 0xA1 ≤ final then do
    let i ← Syllable.initials.idxOf? (letter initial)
    let v ← Syllable.vowels.idxOf? (letter vowel)
    if final = 0xD4 then some (Syllable.char i v 0)
    else
      let f ← Syllable.finals.idxOf? (letter final)
      some (Syllable.char i v (f + 1))
  else none

/-- A filler with the byte for letters before it starts four such pairs: a syllable. -/
def front (_ : Unit) (a : UInt8) (bytes : List UInt8) : Front Unit :=
  match ascii? a, bytes with
  | some c, _ => .item (.point c) 0 ()
  | none, [] => .cut
  | none, b :: rest =>
    if a = 0xA4 ∧ b = 0xD4 then
      match rest with
      | x :: i :: y :: v :: z :: f :: _ =>
        if x = 0xA4 ∧ y = 0xA4 ∧ z = 0xA4 then .ofCode () 7 (.ofChar (syllable? i v f))
        else .gap 0 ()
      | _ => .cut
    else .ofCode () 1 (ksX1001? (flipped a) (flipped b))

def read (bytes : List UInt8) : Reading :=
  readFronts front () bytes

end EucKr

/-! ## Page 949 of Windows -/

namespace Cp949

def code? (a b : Nat) : Code :=
  (if 0x80 ≤ a ∧ 0x80 ≤ b then ksX1001? (a - 0x80) (b - 0x80) else none) <|>
    .ofChar (Plane.hangul.char? a b)

def read (bytes : List UInt8) : Reading :=
  readDouble ascii? code? bytes

end Cp949

/-! ## Johab -/

namespace Johab

/-- A letter of a syllable, which may be left out. -/
inductive Slot where
  | filler
  | letter (index : Nat)
  deriving DecidableEq

def initial? (n : Nat) : Option Slot :=
  if n = 1 then some .filler
  else if 2 ≤ n ∧ n ≤ 20 then some (.letter (n - 2))
  else none

def vowel? (n : Nat) : Option Slot :=
  if n = 2 then some .filler
  else if 3 ≤ n ∧ n ≤ 7 then some (.letter (n - 3))
  else if 10 ≤ n ∧ n ≤ 15 then some (.letter (n - 5))
  else if 18 ≤ n ∧ n ≤ 23 then some (.letter (n - 7))
  else if 26 ≤ n ∧ n ≤ 29 then some (.letter (n - 9))
  else none

def final? (n : Nat) : Option Slot :=
  if n = 1 then some .filler
  else if 2 ≤ n ∧ n ≤ 17 then some (.letter (n - 2))
  else if 19 ≤ n ∧ n ≤ 29 then some (.letter (n - 3))
  else none

/-- A letter that stands alone is itself, and no letter at all is a wide space. -/
def join? : Slot → Slot → Slot → Option Char
  | .letter i, .letter v, .filler => some (Syllable.char i v 0)
  | .letter i, .letter v, .letter f => some (Syllable.char i v (f + 1))
  | .letter i, .filler, .filler => Syllable.initials[i]?
  | .filler, .letter v, .filler => Syllable.vowels[v]?
  | .filler, .filler, .letter f => Syllable.finals[f]?
  | .filler, .filler, .filler => some '\u3000'
  | _, _, _ => none

/-- One bit, and five bits for each letter. -/
def syllable? (a b : Nat) : Option Char := do
  let i ← initial? (a / 4 % 32)
  let v ← vowel? (a % 4 * 8 + b / 32)
  let f ← final? (b % 32)
  join? i v f

/-- The row and the cell of other codes: two rows for each first byte. -/
def place? (a b : Nat) : Option (Nat × Nat) :=
  if a < 0xD9 ∨ a = 0xDF ∨ 0xF9 < a ∨ b < 0x31 ∨ (0x7F ≤ b ∧ b < 0x91) ∨ b = 0xFF ∨
      (a = 0xDA ∧ 0xA1 ≤ b ∧ b ≤ 0xD3) then none
  else
    let row := if a < 0xE0 then 2 * (a - 0xD9) else 2 * a - 0x197
    let cell := if b < 0x91 then b - 0x31 else b - 0x43
    if cell < 94 then some (row + 0x21, cell + 0x21) else some (row + 0x22, cell - 94 + 0x21)

def code? (a b : Nat) : Code :=
  if a < 0xD8 then .ofChar (syllable? a b)
  else (place? a b).bind fun p => ksX1001? p.1 p.2

def read (bytes : List UInt8) : Reading :=
  readDouble ascii? code? bytes

end Johab

end TangleGateway.Charset
