/-! # Text as code points

A code point is a Unicode scalar value or one half of a surrogate pair that
stands alone. Escapes in a decoded reply can produce such halves, so text is a
list of code points and not a `String`.
-/

namespace TangleGateway

inductive CodePoint where
  | scalar (c : Char)
  | surrogate (half : Fin 2048)
  deriving DecidableEq, Inhabited

namespace CodePoint

instance : Coe Char CodePoint := ⟨.scalar⟩

def toNat : CodePoint → Nat
  | scalar c => c.toNat
  | surrogate h => 0xD800 + h.val

/-- The code point of a number below 0x110000; a larger number wraps into the surrogates. -/
def ofNat (n : Nat) : CodePoint :=
  if n.isValidChar then scalar (Char.ofNat n) else surrogate (Fin.ofNat 2048 (n - 0xD800))

theorem ofNat_toNat (c : CodePoint) : ofNat c.toNat = c := by
  cases c with
  | scalar c =>
    have hv : c.toNat.isValidChar := c.valid
    rw [toNat, ofNat, if_pos hv, Char.ofNat_toNat]
  | surrogate h =>
    have hv : ¬ (0xD800 + h.val < 0xD800 ∨
        (0xDFFF < 0xD800 + h.val ∧ 0xD800 + h.val < 0x110000)) := by omega
    rw [toNat, ofNat, if_neg hv, Nat.add_sub_cancel_left, Fin.ofNat_val_eq_self]

def isHighHalf (c : CodePoint) : Bool :=
  0xD800 ≤ c.toNat && c.toNat ≤ 0xDBFF

def isLowHalf (c : CodePoint) : Bool :=
  0xDC00 ≤ c.toNat && c.toNat ≤ 0xDFFF

/-- The code point that two halves of a surrogate pair stand for. -/
def join (high low : CodePoint) : CodePoint :=
  ofNat (0x10000 + (high.toNat - 0xD800) * 0x400 + (low.toNat - 0xDC00))

end CodePoint

abbrev Text := List CodePoint

namespace Text

def ofChars (cs : List Char) : Text := cs.map CodePoint.scalar

def ofString (s : String) : Text := ofChars s.toList

instance : Coe String Text := ⟨ofString⟩

/-- The characters of a text that holds no lone surrogate. -/
def toChars? : Text → Option (List Char)
  | [] => some []
  | .scalar c :: t => (toChars? t).map (c :: ·)
  | .surrogate _ :: _ => none

@[simp] theorem toChars?_ofChars (cs : List Char) : toChars? (ofChars cs) = some cs := by
  induction cs with
  | nil => rfl
  | cons c cs ih => simpa [ofChars, toChars?] using ih

def ofNats (ns : List Nat) : Text := ns.map CodePoint.ofNat

def asciiLower (t : Text) : Text :=
  t.map fun
    | .scalar c => .scalar c.toLower
    | c => c

end Text

end TangleGateway
