import TangleGateway.Number.Integer
import TangleGateway.Text.Blank
import TangleGateway.Text.DecimalDigit

/-! # Port numerals

A port is written with decimal digits of any script, with at most one underscore between two of
them, at most one sign before them and blanks around. Blanks beyond ASCII count too. There are at
most `Integer.maxDigits` digits.
-/

namespace TangleGateway.PortNumeral

/-- Digits with single underscores between them; `afterDigit` says whether a digit came before. -/
def digitValues? (afterDigit : Bool) : Text → Option (List Nat)
  | [] => if afterDigit then some [] else none
  | .scalar '_' :: t => if afterDigit then digitValues? false t else none
  | c :: t => do
    let d ← c.digitValue?
    let ds ← digitValues? true t
    return d :: ds

/-- The number that digits from the most significant one on denote. -/
def denote (ds : List Nat) : Nat :=
  ds.foldl (fun n d => 10 * n + d) 0

def splitSign : Text → Bool × Text
  | .scalar '-' :: t => (true, t)
  | .scalar '+' :: t => (false, t)
  | t => (false, t)

def trimBlank (t : Text) : Text :=
  ((t.dropWhile CodePoint.isBlank).reverse.dropWhile CodePoint.isBlank).reverse

def read? (t : Text) : Option Int :=
  let (negative, rest) := splitSign (trimBlank t)
  match digitValues? false rest with
  | some ds =>
    if ds.length ≤ Integer.maxDigits then
      some (if negative then -(denote ds : Int) else denote ds)
    else none
  | none => none

end TangleGateway.PortNumeral
