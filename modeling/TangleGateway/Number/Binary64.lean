/-! # Binary floating point

A finite number is a signed mantissa times a power of two, with a mantissa below 2^53 and an
exponent from -1074 to 971; the mantissa is at least 2^52 unless the exponent is the least one.
Decimal numerals are rounded to the nearest such number, ties to the even mantissa.
-/

namespace TangleGateway

inductive Binary64 where
  | nan
  | infinite (negative : Bool)
  | finite (negative : Bool) (mantissa : Nat) (exponent : Int)
  deriving DecidableEq, Inhabited

namespace Binary64

def minExponent : Int := -1074
def maxExponent : Int := 971

/-- The nearest integer to a quotient, ties to even. -/
def roundQuotient (num den : Nat) : Nat :=
  let q := num / den
  let r := num % den
  if den < 2 * r ∨ (2 * r = den ∧ q % 2 = 1) then q + 1 else q

/-- The floor of `num / den / 2 ^ e` with the remainder kept as a new quotient. -/
def scaled (num den : Nat) (e : Int) : Nat × Nat :=
  if 0 ≤ e then (num, den * Nat.pow 2 e.toNat) else (num * Nat.pow 2 (-e).toNat, den)

/-- The exponent at which a positive quotient has a 53-bit floor, or the least one. -/
def exponentOf (num den : Nat) : Int :=
  let e : Int := num.log2 - den.log2 - 53
  let (n, d) := scaled num den e
  max minExponent (if Nat.pow 2 53 ≤ n / d then e + 1 else e)

def ofQuotient (negative : Bool) (num den : Nat) : Binary64 :=
  if num = 0 then finite negative 0 minExponent
  else
    let e := exponentOf num den
    let (n, d) := scaled num den e
    let m := roundQuotient n d
    let (m, e) := if m = Nat.pow 2 53 then (Nat.pow 2 52, e + 1) else (m, e)
    if maxExponent < e then infinite negative else finite negative m e

/-- The nearest number to `digits * 10 ^ exponent`. -/
def ofDecimal (negative : Bool) (digits : Nat) (exponent : Int) : Binary64 :=
  let magnitude := (Nat.toDigits 10 digits).length + exponent
  if digits = 0 then finite negative 0 minExponent
  else if 310 < magnitude then infinite negative
  else if magnitude < -330 then finite negative 0 minExponent
  else if 0 ≤ exponent then ofQuotient negative (digits * Nat.pow 10 exponent.toNat) 1
  else ofQuotient negative digits (Nat.pow 10 (-exponent).toNat)

def equalsInt (x : Binary64) (i : Int) : Bool :=
  match x with
  | nan | infinite _ => false
  | finite negative m e =>
    let signed : Int := if negative then -m else m
    if 0 ≤ e then signed * Nat.pow 2 e.toNat = i else signed = i * Nat.pow 2 (-e).toNat

def isZero : Binary64 → Bool
  | finite _ 0 _ => true
  | _ => false

def isFinite : Binary64 → Bool
  | finite .. => true
  | _ => false

end Binary64

end TangleGateway
