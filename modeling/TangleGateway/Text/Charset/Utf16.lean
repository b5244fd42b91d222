import TangleGateway.Text.Charset.Reading

/-! # UTF-16 and UTF-32

Units of two or four bytes in one of two orders. A mark in front says which.
-/

namespace TangleGateway

inductive ByteOrder where
  | little
  | big
  deriving DecidableEq

namespace ByteOrder

def number (order : ByteOrder) (bytes : List UInt8) : Nat :=
  let inOrder := match order with
    | .little => bytes.reverse
    | .big => bytes
  inOrder.foldl (fun n b => n * 256 + b.toNat) 0

end ByteOrder

namespace Charset.Utf16

/-- A half of a pair that stands alone says nothing. -/
def front (order : ByteOrder) (_ : Unit) (a : UInt8) : List UInt8 → Front Unit
  | [] => .cut
  | b :: bs =>
    let c := CodePoint.ofNat (order.number [a, b])
    if c.isLowHalf then .gap 1 ()
    else if c.isHighHalf then
      match bs with
      | x :: y :: _ =>
        let d := CodePoint.ofNat (order.number [x, y])
        if d.isLowHalf then .item (.point (c.join d)) 3 () else .gap 1 ()
      | _ => .cut
    else .item (.point c) 1 ()

def read (order : ByteOrder) (bytes : List UInt8) : Reading :=
  readFronts (front order) () bytes

/-- Bytes that start with a mark, and what follows it. -/
def splitMark? : List UInt8 → Option (ByteOrder × List UInt8)
  | 0xFF :: 0xFE :: rest => some (.little, rest)
  | 0xFE :: 0xFF :: rest => some (.big, rest)
  | _ => none

end Charset.Utf16

namespace Charset.Utf32

/-- A number that is no Unicode scalar value says nothing. -/
def front (order : ByteOrder) (_ : Unit) (a : UInt8) : List UInt8 → Front Unit
  | b :: c :: d :: _ =>
    let n := order.number [a, b, c, d]
    if n.isValidChar then .item (.ofNat n) 3 () else .gap 3 ()
  | _ => .cut

def read (order : ByteOrder) (bytes : List UInt8) : Reading :=
  readFronts (front order) () bytes

/-- Bytes that start with a mark, and what follows it. -/
def splitMark? : List UInt8 → Option (ByteOrder × List UInt8)
  | 0xFF :: 0xFE :: 0 :: 0 :: rest => some (.little, rest)
  | 0 :: 0 :: 0xFE :: 0xFF :: rest => some (.big, rest)
  | _ => none

end Charset.Utf32

end TangleGateway
