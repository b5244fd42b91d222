import TangleGateway.Text.Basic

/-! # Blank code points

The code points with the property White_Space.
-/

namespace TangleGateway.CodePoint

def isBlank (c : CodePoint) : Bool :=
  let n := c.toNat
  (0x09 ≤ n && n ≤ 0x0D) || n == 0x20 || n == 0x85 || n == 0xA0 || n == 0x1680 ||
    (0x2000 ≤ n && n ≤ 0x200A) || n == 0x2028 || n == 0x2029 || n == 0x202F || n == 0x205F ||
    n == 0x3000

/-- A blank or one of the four separators of information. -/
def isSpace (c : CodePoint) : Bool :=
  c.isBlank || (0x1C ≤ c.toNat && c.toNat ≤ 0x1F)

end TangleGateway.CodePoint
