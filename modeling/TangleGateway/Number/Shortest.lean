import TangleGateway.Number.Binary64
import TangleGateway.Text.Basic

/-! # Floating point as text

A finite number is written with the fewest decimal digits that read back as the same number, and
among those with the nearest ones. `Layout` holds what else its text depends on.
-/

namespace TangleGateway.Binary64

/-- A decimal number `digits * 10 ^ exponent`. -/
structure Decimal where
  digits : Nat
  exponent : Int
  deriving DecidableEq

/-- A positive finite number over `10 ^ u`, as a quotient. -/
def overTen (m : Nat) (e u : Int) : Nat × Nat :=
  (m * Nat.pow 2 e.toNat * Nat.pow 10 (-u).toNat, Nat.pow 2 (-e).toNat * Nat.pow 10 u.toNat)

/-- The exponent of the leading decimal digit of a positive finite number. -/
def leadingExponent (m : Nat) (e : Int) : Int :=
  let (n, d) := overTen m e (-400)
  ((Nat.toDigits 10 (n / d)).length : Int) - 1 - 400

/--
Whether `c * 10 ^ u` reads back as a positive finite number. The numbers that do lie between the
midpoints to its neighbours; a midpoint itself does when the mantissa is even.
-/
def readsBack (m : Nat) (e u : Int) (c : Nat) : Bool :=
  let below := if m = Nat.pow 2 52 ∧ minExponent < e then 1 else 2
  let (a, b) := overTen 1 e u
  let low := (4 * m - below) * a
  let high := (4 * m + 2) * a
  let c := 4 * c * b
  if m % 2 = 0 then low ≤ c && c ≤ high else low < c && c < high

/-- The nearer of two adjacent multiples of `10 ^ u` that read back, an even one on a tie. -/
def nearestOn (m : Nat) (e u : Int) : Option Nat :=
  let (n, d) := overTen m e u
  let q := n / d
  match readsBack m e u q, readsBack m e u (q + 1) with
  | false, false => none
  | true, false => some q
  | false, true => some (q + 1)
  | true, true => some (roundQuotient n d)

/-- The first hit among grids of one, two, … digits. -/
def shortestFrom (m : Nat) (e lead : Int) : Nat → Nat → Decimal
  | 0, count => ⟨roundQuotient (overTen m e (lead - count)).1 (overTen m e (lead - count)).2,
      lead - count⟩
  | fuel + 1, count =>
    match nearestOn m e (lead - count) with
    | some c => ⟨c, lead - count⟩
    | none => shortestFrom m e lead fuel (count + 1)

/-- Seventeen digits always suffice. -/
def shortest (m : Nat) (e : Int) : Decimal :=
  shortestFrom m e (leadingExponent m e) 16 0

/-- The choices a printer of floating point makes. -/
structure Layout where
  /-- The least exponent of a leading digit that is written positionally. -/
  positionalFrom : Int
  /-- The least exponent above those. -/
  positionalBelow : Int
  /-- The least number of digits of an exponent. -/
  exponentWidth : Nat
  nan : String
  infinity : String

def padLeft (width : Nat) (cs : List Char) : List Char :=
  List.replicate (width - cs.length) '0' ++ cs

/-- Digits with a point, after the digit that has exponent `lead`. -/
def positional (ds : List Char) (lead : Int) : List Char :=
  if lead < 0 then '0' :: '.' :: (List.replicate (-lead - 1).toNat '0' ++ ds)
  else
    let whole := lead.toNat + 1
    let fraction := ds.drop whole
    (ds.take whole ++ List.replicate (whole - ds.length) '0') ++
      '.' :: (if fraction.isEmpty then ['0'] else fraction)

def scientific (width : Nat) (ds : List Char) (lead : Int) : List Char :=
  let fraction := ds.drop 1
  ds.take 1 ++ (if fraction.isEmpty then [] else '.' :: fraction) ++
    'e' :: (if lead < 0 then '-' else '+') :: padLeft width (Nat.toDigits 10 lead.natAbs)

def chars (l : Layout) : Binary64 → List Char
  | nan => l.nan.toList
  | infinite negative => (if negative then ['-'] else []) ++ l.infinity.toList
  | finite negative m e =>
    let sign := if negative then ['-'] else []
    if m = 0 then sign ++ ['0', '.', '0']
    else
      let dec := shortest m e
      let all := Nat.toDigits 10 dec.digits
      let lead := dec.exponent + all.length - 1
      let ds := (all.reverse.dropWhile (· = '0')).reverse
      if l.positionalFrom ≤ lead ∧ lead < l.positionalBelow then sign ++ positional ds lead
      else sign ++ scientific l.exponentWidth ds lead

end TangleGateway.Binary64
