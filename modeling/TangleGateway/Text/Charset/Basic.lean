import TangleGateway.Text.Charset.CodePage
import TangleGateway.Text.Charset.Escaped
import TangleGateway.Text.Charset.Iso2022
import TangleGateway.Text.Charset.Punycode
import TangleGateway.Text.Charset.Utf7
import TangleGateway.Text.Charset.Utf16

/-! # Charsets

How the bytes of a body read in each charset.
-/

namespace TangleGateway

inductive Charset where
  | utf7
  | utf8
  /-- UTF-8 without the mark that may precede it. -/
  | utf8Marked
  /-- UTF-16 in a given order, or in the one its mark says. -/
  | utf16 (order : Option ByteOrder)
  | utf32 (order : Option ByteOrder)
  | page (p : CodePage)
  | shiftJis
  | shiftJisX0213 (e : Charset.JisX0213.Edition)
  | cp932
  | eucJp
  | eucJisX0213 (e : Charset.JisX0213.Edition)
  | eucKr
  | cp949
  | johab
  | gb2312
  | gbk
  | gb18030
  | hz
  | big5
  | cp950
  | hkscs
  | iso2022 (v : Charset.Iso2022.Variant)
  /-- Text with the escapes of string literals. -/
  | escaped
  /-- Text with escapes of four and eight digits. -/
  | wideEscaped
  | punycode
  /-- Names of hosts. -/
  | hostNames
  /-- The charset that defines nothing. -/
  | undefined
  /-- An encoding of bytes as bytes. -/
  | transfer
  /-- An exchange of letters. -/
  | rotation
  deriving DecidableEq

namespace Charset

def readPieces (ps : List Utf8.Piece) : Reading :=
  ps.map fun
    | .point c _ => .point c
    | .flaw _ _ => .gap

def readUtf8 (bytes : List UInt8) : Reading :=
  readPieces (Utf8.pieces bytes)

theorem lossy_readUtf8 (bytes : List UInt8) :
    (readUtf8 bytes).lossy = .ok (Utf8.decodeLossy bytes) := by
  unfold readUtf8 Utf8.decodeLossy
  induction Utf8.pieces bytes with
  | nil => rfl
  | cons p ps ih =>
    cases p <;> simp only [readPieces, List.map_cons, Item.gap, Reading.lossy] at ih ⊢ <;>
      rw [ih] <;> rfl

/-- The mark before UTF-8 is dropped, and so are bytes that are a start of one. -/
def readUtf8Marked : List UInt8 → Reading
  | [0xEF] | [0xEF, 0xBB] => []
  | 0xEF :: 0xBB :: 0xBF :: rest => readUtf8 rest
  | bytes => readUtf8 bytes

/-- Units in the order of their mark, or else little end first. -/
def read (bytes : List UInt8) : Charset → Reading
  | utf7 => Utf7.read bytes
  | utf8 => readUtf8 bytes
  | utf8Marked => readUtf8Marked bytes
  | utf16 (some order) => Utf16.read order bytes
  | utf16 none =>
    let (order, rest) := (Utf16.splitMark? bytes).getD (.little, bytes)
    Utf16.read order rest
  | utf32 (some order) => Utf32.read order bytes
  | utf32 none =>
    let (order, rest) := (Utf32.splitMark? bytes).getD (.little, bytes)
    Utf32.read order rest
  | page p => p.read bytes
  | shiftJis => ShiftJis.read bytes
  | shiftJisX0213 e => ShiftJisX0213.read e bytes
  | cp932 => Cp932.read bytes
  | eucJp => EucJp.read bytes
  | eucJisX0213 e => EucJisX0213.read e bytes
  | eucKr => EucKr.read bytes
  | cp949 => Cp949.read bytes
  | johab => Johab.read bytes
  | gb2312 => Gb2312.read bytes
  | gbk => Gbk.read bytes
  | gb18030 => Gb18030.read bytes
  | hz => Hz.read bytes
  | big5 => Big5.read bytes
  | cp950 => Cp950.read bytes
  | hkscs => Hkscs.read bytes
  | iso2022 v => Iso2022.read v bytes
  | escaped => Escaped.read bytes
  | wideEscaped => Escaped.readWide bytes
  | punycode => Punycode.read bytes
  | hostNames => CodePage.ascii.read bytes
  | undefined => [.stop .undefined]
  | transfer => [.stop .noText]
  | rotation => [.stop .noBytes]

/-- A unit or more in front must be a mark, unless the order is given. -/
def readBody (bytes : List UInt8) : Charset → Reading
  | utf16 none =>
    if 2 ≤ bytes.length ∧ (Utf16.splitMark? bytes).isNone then [.stop (.unmarked 16)]
    else read bytes (utf16 none)
  | utf32 none =>
    if 4 ≤ bytes.length ∧ (Utf32.splitMark? bytes).isNone then [.stop (.unmarked 32)]
    else read bytes (utf32 none)
  | hostNames => [.stop .strictOnly]
  | c => read bytes c

/-- Whether bytes are read as text in it. -/
def isText : Charset → Bool
  | transfer | rotation => false
  | _ => true

end Charset

end TangleGateway
