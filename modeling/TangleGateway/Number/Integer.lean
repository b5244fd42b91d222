import TangleGateway.Text.Basic

/-! # Integers as text

Decimal digits without leading zeros, after a minus sign for a negative integer. Integers of more
than `maxDigits` digits are neither read nor written.
-/

namespace TangleGateway.Integer

def maxDigits : Nat := 4300

/-- The decimal digits, most significant first. -/
def digits (n : Nat) : List Char :=
  Nat.toDigits 10 n

def chars (i : Int) : List Char :=
  if i < 0 then '-' :: digits i.natAbs else digits i.natAbs

def text (i : Int) : Text :=
  .ofChars (chars i)

/-- The number a list of decimal digits denotes. -/
def ofDigits (ds : List Char) : Nat :=
  Nat.ofDigitChars 10 ds 0

/-- Fails exactly for more than `maxDigits` digits. -/
def text? (i : Int) : Option Text :=
  if (digits i.natAbs).length ≤ maxDigits then some (text i) else none

def tooLongMessage : String :=
  "Exceeds the limit (4300 digits) for integer string conversion; " ++
    "use sys.set_int_max_str_digits() to increase the limit"

def unreadMessage (digits : Nat) : Text :=
  ("Exceeds the limit (4300 digits) for integer string conversion: value has " : Text) ++
    text digits ++ (" digits; use sys.set_int_max_str_digits() to increase the limit" : Text)

theorem ofDigits_digits (n : Nat) : ofDigits (digits n) = n :=
  Nat.ofDigitChars_toDigits (by decide) (by decide)

end TangleGateway.Integer
