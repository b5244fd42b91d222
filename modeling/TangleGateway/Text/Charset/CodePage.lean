import TangleGateway.Text.Charset.Reading

/-! # Code pages

A code page gives each byte at most one code point.
-/

namespace TangleGateway

/--
Below `start` a byte reads as the code point of its number. From there on `points` lists the code
points; a byte past the list, or with a replacement character in it, has none.
-/
structure CodePage where
  start : Nat
  points : String
  deriving DecidableEq

namespace CodePage

def item (p : CodePage) (b : UInt8) : Charset.Item :=
  if b.toNat < p.start then .ofNat b.toNat else .ofTable p.points.toList[b.toNat - p.start]?

def read (p : CodePage) (bytes : List UInt8) : Charset.Reading :=
  bytes.map p.item

def ascii : CodePage := ⟨0x80, ""⟩

def latin1 : CodePage := ⟨0x100, ""⟩

end CodePage

end TangleGateway
