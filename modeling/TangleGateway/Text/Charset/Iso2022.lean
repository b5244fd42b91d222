import TangleGateway.Text.Charset.Chinese
import TangleGateway.Text.Charset.CodePage.Iso8859
import TangleGateway.Text.Charset.Japanese
import TangleGateway.Text.Charset.Korean

/-! # ISO 2022

Escape sequences choose the sets that the codes of seven bits belong to. There are three places
for a set: the first is in use, the second after a shift, and the third for a single code.
-/

namespace TangleGateway.Charset.Iso2022

inductive CodeSet where
  | ascii
  | roman
  | katakana
  | latin1
  | greek
  | jisX0208
  | jisX0212
  | jisX0213First (e : JisX0213.Edition)
  | jisX0213Second
  | ksX1001
  | gb2312
  deriving DecidableEq

inductive Variant where
  | kr
  | jp
  | jp1
  | jp2
  | jp3
  | jp2004
  | jpExt
  deriving DecidableEq

namespace Variant

/-- Only the Korean kind has shifts. -/
def hasShifts (v : Variant) : Bool :=
  v = kr

def hasThirdPlace (v : Variant) : Bool :=
  v = jp2

/-- The set of a final byte of an escape sequence, for codes of one byte. -/
def single? (v : Variant) (b : UInt8) : Option CodeSet :=
  if b = 0x42 then some .ascii
  else
    match v, b with
    | jp, 0x4A | jp1, 0x4A | jp2, 0x4A | jpExt, 0x4A => some .roman
    | jpExt, 0x49 => some .katakana
    | jp2, 0x41 => some .latin1
    | jp2, 0x46 => some .greek
    | _, _ => none

/-- The set of a final byte of an escape sequence, for codes of two bytes. -/
def double? (v : Variant) (b : UInt8) : Option CodeSet :=
  match v, b with
  | kr, 0x43 | jp2, 0x43 => some .ksX1001
  | kr, _ => none
  | _, 0x42 => some .jisX0208
  | jp, 0x40 | jp1, 0x40 | jp2, 0x40 | jpExt, 0x40 => some .jisX0208
  | jp1, 0x44 | jp2, 0x44 | jpExt, 0x44 => some .jisX0212
  | jp2, 0x41 => some .gb2312
  | jp3, 0x4F => some (.jisX0213First .first)
  | jp2004, 0x51 => some (.jisX0213First .second)
  | jp3, 0x50 | jp2004, 0x50 => some .jisX0213Second
  | _, _ => none

end Variant

/-! ## Sets -/

/-- What one byte or two stand for in a set. Two of the sets are for single codes alone. -/
def CodeSet.front {σ : Type} (s : CodeSet) (state : σ) (a : UInt8) (bytes : List UInt8) :
    Front σ :=
  match s with
  | .ascii => .item (.ofNat a.toNat) 0 state
  | .roman => .ofCode state 0 (.ofChar (roman? a))
  | .katakana => .ofCode state 0 (.ofChar (katakana? (a ^^^ 0x80)))
  | .latin1 | .greek => .gap 0 state
  | .jisX0208 => double jisX0208?
  | .jisX0212 => double jisX0212?
  | .jisX0213First e => double (JisX0213.first? e)
  | .jisX0213Second => double JisX0213.second?
  | .ksX1001 => double ksX1001?
  | .gb2312 => double gb2312?
where
  double (code? : Nat → Nat → Code) : Front σ :=
    match bytes with
    | [] => .cut
    | b :: _ => .read ((code? a.toNat b.toNat).getD [.gap]) 1 state

/--
A single code of the set in the third place, after two bytes that announce it. The Greek set has
not the three signs that a later edition added.
-/
def CodeSet.frontThird {σ : Type} (s : CodeSet) (state : σ) (b : UInt8) : Front σ :=
  match s with
  | .ascii => if b < 0x80 then .item (.ofNat b.toNat) 2 state else .gap 2 state
  | .latin1 => if b < 0x80 then .item (.ofNat (b.toNat + 0x80)) 2 state else .gap 2 state
  | .greek =>
    if b = 0x24 ∨ b = 0x25 ∨ b = 0x2A then .gap 2 state
    else .item (CodePage.Iso8859.greek.item (b ^^^ 0x80)) 2 state
  | _ => .stop .undesignated

/-! ## Escape sequences -/

structure State where
  first : CodeSet := .ascii
  second : CodeSet := .ascii
  third : CodeSet := .ascii
  shifted : Bool := false
  /-- Inside an escape sequence that is none of ISO 2022. -/
  foreign : Bool := false

/-- A capital letter or a commercial at. -/
def endsEscape (b : UInt8) : Bool :=
  0x40 ≤ b && b ≤ 0x5A

inductive Extent where
  | cut
  | endless
  | bytes (length : Nat)

def maxEscape : Nat := 16

/--
A sequence that has not ended after `maxEscape` bytes is endless. A Japanese one may start with a
sequence of its own, which an ampersand announces.
-/
def extent (japanese : Bool) (seen : Nat) : List UInt8 → Extent
  | [] => if maxEscape ≤ seen then .endless else .cut
  | b :: rest =>
    if maxEscape ≤ seen then .endless
    else if endsEscape b then .bytes (seen + 1)
    else if japanese ∧ b = 0x26 ∧ rest.head? = some 0x40 then
      extent japanese (seen + 3) (rest.drop 2)
    else extent japanese (seen + 1) rest
termination_by bytes => bytes.length
decreasing_by
  · simp only [List.length_drop, List.length_cons]
    omega
  · simp only [List.length_cons]
    omega

/-- Puts a set in a place, after an escape sequence that has so many bytes after the first. -/
def State.choose (st : State) (place : UInt8) (s : Option CodeSet) (more : Nat) : Front State :=
  match s, place with
  | some s, 0x28 => .read [] more { st with first := s }
  | some s, 0x29 => .read [] more { st with second := s }
  | some s, 0x2E => .read [] more { st with third := s }
  | _, _ => .gap more st

/-- Bytes of an escape sequence that are kept until it ends. -/
def maxKept : Nat := 8

/-- An escape sequence of ISO 2022, without the escape. -/
def frontEscape (v : Variant) (st : State) (bytes : List UInt8) : Front State :=
  match extent (v ≠ .kr) 1 bytes with
  | .cut => if maxKept < bytes.length + 1 then .stop .overlongEscape else .cut
  | .endless => .gap 0 st
  | .bytes length =>
    match bytes.take (length - 1) with
    | [0x24, b] => st.choose 0x28 (v.double? b) 2
    | [0x2E, b] => if v.hasThirdPlace then st.choose 0x2E (v.single? b) 2 else .gap 2 st
    | [p, b] => st.choose p (v.single? b) 2
    | [0x24, p, b] => if p = 0x2E then .gap 3 st else st.choose p (v.double? b) 3
    | [_, _, 0x1B, 0x24, 0x42] =>
      if v = .kr then .gap 5 st else .read [] 5 { st with first := .jisX0208 }
    | _ => .gap (length - 1) st

/-- Whether a byte after an escape starts a sequence of ISO 2022. -/
def opensEscape (b : UInt8) : Bool :=
  b = 0x28 || b = 0x29 || b = 0x24 || b = 0x2E || b = 0x26

/-- A line feed ends a shift. Codes of control and those of eight bits belong to no set. -/
def front (v : Variant) (st : State) (a : UInt8) (bytes : List UInt8) : Front State :=
  if st.foreign then .item (.ofNat a.toNat) 0 { st with foreign := !endsEscape a }
  else if a = 0x1B then
    match bytes with
    | [] => .cut
    | b :: rest =>
      if opensEscape b then frontEscape v st bytes
      else if v.hasThirdPlace ∧ b = 0x4E then
        match rest with
        | [] => .cut
        | c :: _ => st.third.frontThird st c
      else .item (.ofNat a.toNat) 0 { st with foreign := true }
  else if v.hasShifts ∧ a = 0x0E then .read [] 0 { st with shifted := true }
  else if v.hasShifts ∧ a = 0x0F then .read [] 0 { st with shifted := false }
  else if a = 0x0A then .item (.ofNat a.toNat) 0 { st with shifted := false }
  else if a < 0x20 then .item (.ofNat a.toNat) 0 st
  else if 0x80 ≤ a then .gap 0 st
  else (if st.shifted then st.second else st.first).front st a bytes

def read (v : Variant) (bytes : List UInt8) : Reading :=
  readFronts (front v) {} bytes

end TangleGateway.Charset.Iso2022
