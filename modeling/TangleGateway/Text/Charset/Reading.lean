import TangleGateway.Text.Utf8

/-! # Readings

A reading is what bytes say in a charset: code points, flaws where the bytes say none, and an end
where the charset has no reading at all. A lossy reading shows a text for each flaw, which is
mostly a replacement character; a strict one fails at the first.
-/

namespace TangleGateway

inductive CharsetFault where
  /-- Units of so many bits, in an order that no mark says. -/
  | unmarked (bits : Nat)
  /-- The charset that defines nothing. -/
  | undefined
  /-- A charset that is only read strictly. -/
  | strictOnly
  /-- An encoding of bytes as bytes. -/
  | noText
  /-- An encoding of text as text. -/
  | noBytes
  /-- The bytes end inside an escape sequence that is too long to be kept. -/
  | overlongEscape
  /-- A code of a set that was put where it cannot be used. -/
  | undesignated
  /-- Bytes of which the one at an offset is not ASCII. -/
  | notAscii (bytes : List UInt8) (offset : Nat)
  /-- A parameter of which one segment is numbered and one is not, with which one came later. -/
  | mixedSegments (laterIsNumbered : Bool)
  /-- A segment with a number of so many digits. -/
  | segmentNumberTooLong (digits : Nat)
  /-- A null character in the name of a charset. -/
  | nullInName
  deriving DecidableEq

namespace Charset

/-- What a stretch of bytes reads as. -/
inductive Item where
  | point (c : CodePoint)
  /-- No code point; a lossy reading shows a text for it. -/
  | flaw (shown : Text)
  | stop (f : CharsetFault)
  deriving DecidableEq

abbrev Reading := List Item

namespace Item

/-- A flaw that reads as a replacement character. -/
def gap : Item := .flaw [Utf8.replacement]

def ofNat (n : Nat) : Item := .point (.ofNat n)

/-- In tables the replacement character stands for a gap. -/
def ofTable : Option Char → Item
  | some '\uFFFD' | none => .gap
  | some c => .point c

end Item

namespace Reading

def lossy : Reading → Except CharsetFault Text
  | [] => .ok []
  | .point c :: r => do return c :: (← lossy r)
  | .flaw shown :: r => do return shown ++ (← lossy r)
  | .stop f :: _ => .error f

/-- The text of a reading without flaws. An end counts as one, but for a set that is missing. -/
def strict? : Reading → Except CharsetFault (Option Text)
  | [] => .ok (some [])
  | .point c :: r => do return (← strict? r).map (c :: ·)
  | .stop .undesignated :: _ => .error .undesignated
  | .flaw _ :: _ | .stop _ :: _ => .ok none

end Reading

/-- What the front of some bytes reads as. -/
inductive Front (σ : Type) where
  /-- What the first byte and `more` after it say, with the state they leave. -/
  | read (r : Reading) (more : Nat) (state : σ)
  /-- The start of a code of which the rest is missing. -/
  | cut
  | stop (f : CharsetFault)

namespace Front

def gap {σ : Type} (more : Nat) (state : σ) : Front σ := .read [.gap] more state

def item {σ : Type} (i : Item) (more : Nat) (state : σ) : Front σ := .read [i] more state

end Front

/-- Reads bytes front by front; a code that is cut is one gap. -/
def readFronts {σ : Type} (front : σ → UInt8 → List UInt8 → Front σ) (state : σ) :
    List UInt8 → Reading
  | [] => []
  | b :: bs =>
    match front state b bs with
    | .read r more next => r ++ readFronts front next (bs.drop more)
    | .cut => [.gap]
    | .stop f => [.stop f]
termination_by bytes => bytes.length
decreasing_by
  simp only [List.length_drop, List.length_cons]
  omega

end Charset

end TangleGateway
