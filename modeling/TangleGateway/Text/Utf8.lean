import TangleGateway.Text.Basic

/-! # UTF-8

Bytes are read into pieces: a code point, or a flaw that covers the longest start
of a sequence no code point begins with. The lossy reading puts a replacement
character for each flaw; the strict reading stops at the first one.
-/

namespace TangleGateway.Utf8

/-- The bytes of a text; a lone half of a surrogate pair has none. -/
def encode? (t : Text) : Option (List UInt8) :=
  t.toChars?.map fun cs => cs.flatMap String.utf8EncodeChar

/-- Why some bytes are no UTF-8 sequence. -/
inductive Flaw where
  | start
  | continuation
  | truncated
  deriving DecidableEq

inductive Piece where
  | point (c : CodePoint) (width : Nat)
  | flaw (f : Flaw) (width : Nat)
  deriving DecidableEq

/--
A sequence that has begun: the continuation bytes still due, the range of the next one, the bits
so far and the bytes so far.
-/
structure Pending where
  due : Nat
  low : UInt8
  high : UInt8
  bits : Nat
  seen : Nat
  deriving DecidableEq

def enter (b : UInt8) : List Piece × Option Pending :=
  if b < 0x80 then ([.point (.ofNat b.toNat) 1], none)
  else if b < 0xC2 then ([.flaw .start 1], none)
  else if b < 0xE0 then ([], some ⟨1, 0x80, 0xBF, b.toNat % 32, 1⟩)
  else if b < 0xF0 then
    ([], some ⟨2, if b = 0xE0 then 0xA0 else 0x80, if b = 0xED then 0x9F else 0xBF,
      b.toNat % 16, 1⟩)
  else if b < 0xF5 then
    ([], some ⟨3, if b = 0xF0 then 0x90 else 0x80, if b = 0xF4 then 0x8F else 0xBF,
      b.toNat % 8, 1⟩)
  else ([.flaw .start 1], none)

/-- Reads one more byte; a byte that cannot continue a sequence begins the next. -/
def step : Option Pending → UInt8 → List Piece × Option Pending
  | none, b => enter b
  | some p, b =>
    if p.low ≤ b ∧ b ≤ p.high then
      let bits := p.bits * 64 + b.toNat % 64
      if p.due ≤ 1 then ([.point (.ofNat bits) (p.seen + 1)], none)
      else ([], some ⟨p.due - 1, 0x80, 0xBF, bits, p.seen + 1⟩)
    else
      let (ps, q) := enter b
      (.flaw .continuation p.seen :: ps, q)

def piecesFrom : Option Pending → List UInt8 → List Piece
  | none, [] => []
  | some p, [] => [.flaw .truncated p.seen]
  | st, b :: bs =>
    let (ps, st') := step st b
    ps ++ piecesFrom st' bs

def pieces (bytes : List UInt8) : List Piece :=
  piecesFrom none bytes

def replacement : CodePoint := .scalar '\uFFFD'

/-- Each flaw reads as one replacement character. -/
def decodeLossy (bytes : List UInt8) : Text :=
  (pieces bytes).map fun
    | .point c _ => c
    | .flaw _ _ => replacement

structure Undecodable where
  flaw : Flaw
  byte : UInt8
  offset : Nat
  width : Nat
  deriving DecidableEq

/-- The half of a surrogate pair that three bytes encode as if it stood alone. -/
def encodedHalf? : List UInt8 → Option CodePoint
  | 0xED :: b :: c :: _ =>
    if 0xA0 ≤ b ∧ b ≤ 0xBF ∧ 0x80 ≤ c ∧ c ≤ 0xBF then
      some (.ofNat (0xD000 + b.toNat % 64 * 64 + c.toNat % 64))
    else none
  | _ => none

/--
Fails at the first flaw. The bytes of an encoded half, a flaw each, are read as that half all the
same.
-/
def decodeStrict (bytes : List UInt8) : Except Undecodable Text :=
  go 0 (pieces bytes)
where
  go (offset : Nat) : List Piece → Except Undecodable Text
    | [] => .ok []
    | .point c width :: ps => (go (offset + width) ps).map (c :: ·)
    | .flaw f width :: ps =>
      match encodedHalf? (bytes.drop offset), ps with
      | some half, _ :: _ :: ps => (go (offset + 3) ps).map (half :: ·)
      | _, _ => .error ⟨f, bytes.getD offset 0, offset, width⟩

end TangleGateway.Utf8
