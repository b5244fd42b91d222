import TangleGateway.Text.Charset.Reading

/-! # UTF-7

ASCII as it is, and all else as units of UTF-16 in base 64 after a plus sign.
-/

namespace TangleGateway.Charset.Utf7

inductive State where
  | direct
  /-- After a plus sign. -/
  | opened
  /-- Inside base 64: the bits not yet read, their number, and a first half of a pair. -/
  | shifted (bits count : Nat) (high : Option CodePoint)
  deriving DecidableEq

def sextet? (b : UInt8) : Option Nat :=
  if 0x41 ≤ b ∧ b ≤ 0x5A then some (b.toNat - 0x41)
  else if 0x61 ≤ b ∧ b ≤ 0x7A then some (b.toNat - 0x61 + 26)
  else if 0x30 ≤ b ∧ b ≤ 0x39 then some (b.toNat - 0x30 + 52)
  else if b = 0x2B then some 62
  else if b = 0x2F then some 63
  else none

def readDirect (b : UInt8) : Reading × State :=
  if b = 0x2B then ([], .opened)
  else if b < 0x80 then ([.ofNat b.toNat], .direct)
  else ([.gap], .direct)

/-- A unit of UTF-16 after a first half of a pair or not. A half may stand alone. -/
def readUnit (high : Option CodePoint) (c : CodePoint) : Reading × Option CodePoint :=
  match high with
  | some h =>
    if c.isLowHalf then ([.point (h.join c)], none)
    else if c.isHighHalf then ([.point h], some c)
    else ([.point h, .point c], none)
  | none => if c.isHighHalf then ([], some c) else ([.point c], none)

/-- Six more bits; sixteen are a unit. -/
def readSextet (bits count : Nat) (high : Option CodePoint) (v : Nat) : Reading × State :=
  let bits := bits * 64 + v
  let count := count + 6
  if count < 16 then ([], .shifted bits count high)
  else
    let rest := Nat.pow 2 (count - 16)
    let (r, high) := readUnit high (.ofNat (bits / rest))
    (r, .shifted (bits % rest) (count - 16) high)

/-- Bits that are left over are fewer than six, and zero. -/
def isWhole (bits count : Nat) : Bool :=
  count < 6 && bits = 0

def step : State → UInt8 → Reading × State
  | .direct, b => readDirect b
  | .opened, b =>
    match sextet? b with
    | some v => readSextet 0 0 none v
    | none => if b = 0x2D then ([.ofNat 0x2B], .direct) else ([.gap], .direct)
  | .shifted bits count high, b =>
    match sextet? b with
    | some v => readSextet bits count high v
    | none =>
      if !isWhole bits count then ([.gap], .direct)
      else
        let alone : Reading := if b < 0x80 then high.toList.map .point else []
        if b = 0x2D then (alone, .direct)
        else
          let (r, next) := readDirect b
          (alone ++ r, next)

def atEnd : State → Reading
  | .shifted bits count high => if high.isSome || !isWhole bits count then [.gap] else []
  | _ => []

def readFrom : State → List UInt8 → Reading
  | st, [] => atEnd st
  | st, b :: bs =>
    let (r, next) := step st b
    r ++ readFrom next bs

def read (bytes : List UInt8) : Reading :=
  readFrom .direct bytes

end TangleGateway.Charset.Utf7
