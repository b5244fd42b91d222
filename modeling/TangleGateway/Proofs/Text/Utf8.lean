import TangleGateway.Text.Utf8

/-! # Writing UTF-8

A text without lone halves of surrogate pairs has bytes, and reading them, strictly or not, gives
the text.
-/

namespace TangleGateway.Utf8

theorem encode?_ofChars (cs : List Char) :
    encode? (.ofChars cs) = some (cs.flatMap String.utf8EncodeChar) := by
  rw [encode?, Text.toChars?_ofChars, Option.map_some]

theorem ofChars_of_toChars? {t : Text} {cs : List Char} (h : t.toChars? = some cs) :
    t = Text.ofChars cs := by
  induction t generalizing cs with
  | nil =>
    cases h
    rfl
  | cons c t ih =>
    cases c with
    | scalar c =>
      obtain ⟨ds, hds, rfl⟩ := Option.map_eq_some_iff.mp h
      rw [ih hds]
      rfl
    | surrogate => cases h

/-! ## One character -/

section Step

variable {m : Nat}

theorem toNat_byte (h : m < 256) : (UInt8.ofNat m).toNat = m :=
  UInt8.toNat_ofNat_of_lt' h

theorem step_lead (h : m < 256) :
    step none (UInt8.ofNat m) =
      if m < 0x80 then ([.point (.ofNat m) 1], none)
      else if m < 0xC2 then ([.flaw .start 1], none)
      else if m < 0xE0 then ([], some ⟨1, 0x80, 0xBF, m % 32, 1⟩)
      else if m < 0xF0 then
        ([], some ⟨2, if m = 0xE0 then 0xA0 else 0x80, if m = 0xED then 0x9F else 0xBF, m % 16, 1⟩)
      else if m < 0xF5 then
        ([], some ⟨3, if m = 0xF0 then 0x90 else 0x80, if m = 0xF4 then 0x8F else 0xBF, m % 8, 1⟩)
      else ([.flaw .start 1], none) := by
  have hlt (k : UInt8) : UInt8.ofNat m < k ↔ m < k.toNat := by
    rw [UInt8.lt_iff_toNat_lt, toNat_byte h]
  have heq (k : UInt8) : UInt8.ofNat m = k ↔ m = k.toNat := by
    rw [← UInt8.toNat_inj, toNat_byte h]
  simp only [step, enter, hlt, heq, toNat_byte h]
  rfl

theorem step_within {p : Pending} (hl : p.low.toNat ≤ m) (hh : m ≤ p.high.toNat) :
    step (some p) (UInt8.ofNat m) =
      if p.due ≤ 1 then ([.point (.ofNat (p.bits * 64 + m % 64)) (p.seen + 1)], none)
      else ([], some ⟨p.due - 1, 0x80, 0xBF, p.bits * 64 + m % 64, p.seen + 1⟩) := by
  have hm : m < 256 := Nat.lt_of_le_of_lt hh p.high.toNat_lt
  have hin : p.low ≤ UInt8.ofNat m ∧ UInt8.ofNat m ≤ p.high := by
    simp only [UInt8.le_iff_toNat_le, toNat_byte hm]
    exact ⟨hl, hh⟩
  rw [step, if_pos hin, toNat_byte hm]

variable {low high : UInt8} {bits seen : Nat}

theorem step_last (hl : low.toNat ≤ m) (hh : m ≤ high.toNat) :
    step (some ⟨1, low, high, bits, seen⟩) (UInt8.ofNat m) =
      ([.point (.ofNat (bits * 64 + m % 64)) (seen + 1)], none) :=
  step_within hl hh

theorem step_middle {due : Nat} (hl : low.toNat ≤ m) (hh : m ≤ high.toNat) :
    step (some ⟨due + 2, low, high, bits, seen⟩) (UInt8.ofNat m) =
      ([], some ⟨due + 1, 0x80, 0xBF, bits * 64 + m % 64, seen + 1⟩) :=
  step_within hl hh

end Step

theorem piecesFrom_cons (q : Option Pending) (b : UInt8) (bs : List UInt8) :
    piecesFrom q (b :: bs) = (step q b).1 ++ piecesFrom (step q b).2 bs := by
  cases q <;> rfl

/-! ## Sequences by their width -/

section Width

variable {v : Nat} (bs : List UInt8)

theorem piecesFrom_one (h : v ≤ 0x7F) :
    piecesFrom none (UInt8.ofNat v :: bs) = .point (.ofNat v) 1 :: piecesFrom none bs := by
  rw [piecesFrom_cons, step_lead (by omega), if_pos (by omega)]
  rfl

theorem tail_bounds (k : Nat) :
    (0x80 : UInt8).toNat ≤ k % 64 + 0x80 ∧ k % 64 + 0x80 ≤ (0xBF : UInt8).toNat := by
  change 0x80 ≤ k % 64 + 0x80 ∧ k % 64 + 0x80 ≤ 0xBF
  omega

theorem piecesFrom_two (hl : 0x7F < v) (hh : v ≤ 0x7FF) :
    piecesFrom none (UInt8.ofNat (v / 64 % 0x20 + 0xC0) :: UInt8.ofNat (v % 0x40 + 0x80) :: bs) =
      .point (.ofNat v) 2 :: piecesFrom none bs := by
  have hbits : (v / 64 % 0x20 + 0xC0) % 32 * 64 + (v % 0x40 + 0x80) % 64 = v := by omega
  simp only [piecesFrom_cons]
  rw [step_lead (by omega), if_neg (by omega), if_neg (by omega), if_pos (by omega),
    step_last (tail_bounds v).1 (tail_bounds v).2, hbits]
  rfl

/-- The second byte neither writes a shorter sequence anew nor half of a surrogate pair. -/
theorem piecesFrom_three (hl : 0x7FF < v) (hh : v ≤ 0xFFFF) (hs : v < 0xD800 ∨ 0xDFFF < v) :
    piecesFrom none (UInt8.ofNat (v / 4096 % 0x10 + 0xE0) ::
        UInt8.ofNat (v / 64 % 0x40 + 0x80) :: UInt8.ofNat (v % 0x40 + 0x80) :: bs) =
      .point (.ofNat v) 3 :: piecesFrom none bs := by
  have hbits : ((v / 4096 % 0x10 + 0xE0) % 16 * 64 + (v / 64 % 0x40 + 0x80) % 64) * 64 +
      (v % 0x40 + 0x80) % 64 = v := by omega
  have hlow : (if v / 4096 % 0x10 + 0xE0 = 0xE0 then 0xA0 else 0x80 : UInt8).toNat ≤
      v / 64 % 0x40 + 0x80 := by
    split
    · change 0xA0 ≤ _
      omega
    · exact (tail_bounds _).1
  have hhigh : v / 64 % 0x40 + 0x80 ≤
      (if v / 4096 % 0x10 + 0xE0 = 0xED then 0x9F else 0xBF : UInt8).toNat := by
    split
    · change _ ≤ 0x9F
      omega
    · exact (tail_bounds _).2
  simp only [piecesFrom_cons]
  rw [step_lead (by omega), if_neg (by omega), if_neg (by omega), if_neg (by omega),
    if_pos (by omega), step_middle hlow hhigh, step_last (tail_bounds v).1 (tail_bounds v).2,
    hbits]
  rfl

theorem piecesFrom_four (hl : 0xFFFF < v) (hh : v < 0x110000) :
    piecesFrom none (UInt8.ofNat (v / 262144 % 0x08 + 0xF0) ::
        UInt8.ofNat (v / 4096 % 0x40 + 0x80) :: UInt8.ofNat (v / 64 % 0x40 + 0x80) ::
        UInt8.ofNat (v % 0x40 + 0x80) :: bs) =
      .point (.ofNat v) 4 :: piecesFrom none bs := by
  have hbits : (((v / 262144 % 0x08 + 0xF0) % 8 * 64 + (v / 4096 % 0x40 + 0x80) % 64) * 64 +
      (v / 64 % 0x40 + 0x80) % 64) * 64 + (v % 0x40 + 0x80) % 64 = v := by omega
  have hlow : (if v / 262144 % 0x08 + 0xF0 = 0xF0 then 0x90 else 0x80 : UInt8).toNat ≤
      v / 4096 % 0x40 + 0x80 := by
    split
    · change 0x90 ≤ _
      omega
    · exact (tail_bounds _).1
  have hhigh : v / 4096 % 0x40 + 0x80 ≤
      (if v / 262144 % 0x08 + 0xF0 = 0xF4 then 0x8F else 0xBF : UInt8).toNat := by
    split
    · change _ ≤ 0x8F
      omega
    · exact (tail_bounds _).2
  simp only [piecesFrom_cons]
  rw [step_lead (by omega), if_neg (by omega), if_neg (by omega), if_neg (by omega),
    if_neg (by omega), if_pos (by omega), step_middle hlow hhigh,
    step_middle (tail_bounds _).1 (tail_bounds _).2, step_last (tail_bounds v).1 (tail_bounds v).2,
    hbits]
  rfl

end Width

/-! ## Whole texts -/

theorem piecesFrom_utf8EncodeChar (c : Char) (bs : List UInt8) :
    piecesFrom none (String.utf8EncodeChar c ++ bs) =
      .point (.scalar c) (String.utf8EncodeChar c).length :: piecesFrom none bs := by
  have hv : c.val.toNat = c.toNat := rfl
  have hvalid : c.toNat < 0xD800 ∨ (0xDFFF < c.toNat ∧ c.toNat < 0x110000) := c.valid
  rw [← CodePoint.ofNat_toNat (.scalar c)]
  fun_cases String.utf8EncodeChar c with
  | case1 v h1 => exact piecesFrom_one bs h1
  | case2 v h1 h2 => exact piecesFrom_two bs (Nat.not_le.mp h1) h2
  | case3 v h1 h2 h3 => exact piecesFrom_three bs (Nat.not_le.mp h2) h3 (by omega)
  | case4 v h1 h2 h3 => exact piecesFrom_four bs (Nat.not_le.mp h3) (by omega)

/-- No piece of the bytes of a text is a flaw. -/
theorem pieces_encoded (cs : List Char) :
    pieces (cs.flatMap String.utf8EncodeChar) =
      cs.map fun c => .point (.scalar c) (String.utf8EncodeChar c).length := by
  unfold pieces
  induction cs with
  | nil => rfl
  | cons c cs ih => rw [List.flatMap_cons, piecesFrom_utf8EncodeChar, ih, List.map_cons]

theorem decodeLossy_encoded (cs : List Char) :
    decodeLossy (cs.flatMap String.utf8EncodeChar) = Text.ofChars cs := by
  rw [decodeLossy, pieces_encoded, List.map_map]
  rfl

theorem decodeStrict_encode {t : Text} {bytes : List UInt8} (h : encode? t = some bytes) :
    decodeStrict bytes = .ok t := by
  obtain ⟨cs, hcs, rfl⟩ := Option.map_eq_some_iff.mp h
  have points (bytes : List UInt8) (offset : Nat) : decodeStrict.go bytes offset
      (cs.map fun c => .point (.scalar c) (String.utf8EncodeChar c).length) =
        .ok (Text.ofChars cs) := by
    clear hcs h
    induction cs generalizing offset with
    | nil => rfl
    | cons c cs ih =>
      rw [List.map_cons, decodeStrict.go, ih]
      rfl
  rw [decodeStrict, pieces_encoded, points, ofChars_of_toChars? hcs]

end TangleGateway.Utf8
