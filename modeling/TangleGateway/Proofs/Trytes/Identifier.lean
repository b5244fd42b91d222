import TangleGateway.Trytes

/-! # Identifiers

An identifier is a text of 81 trytes, or of 90 with a checksum. The checks accept identifiers
and sequences of them, and no other value; stripping the checksum keeps the first 81 trytes.
-/

namespace TangleGateway.Trytes

/-- The digit nine or a capital letter. -/
def IsTryte (c : CodePoint) : Prop :=
  ∃ ch : Char, c = .scalar ch ∧ (ch = '9' ∨ ('A' ≤ ch ∧ ch ≤ 'Z'))

/-- A text of 81 or of 90 trytes. -/
def IsIdentifier (v : Value) : Prop :=
  ∃ t : Text, v = .text t ∧ (t.length = 81 ∨ t.length = 90) ∧ ∀ c ∈ t, IsTryte c

/-- A sequence, which texts and bytes are not, with identifiers for its elements. -/
def IsIdentifierSequence (v : Value) : Prop :=
  ∃ items, v.sequence? = some items ∧ ∀ x ∈ items, IsIdentifier x

def letters : List Char :=
  ['9', 'A', 'B', 'C', 'D', 'E', 'F', 'G', 'H', 'I', 'J', 'K', 'L', 'M', 'N', 'O', 'P', 'Q', 'R',
    'S', 'T', 'U', 'V', 'W', 'X', 'Y', 'Z']

theorem alphabet_eq : alphabet = letters.map fun ch => [.scalar ch] := rfl

theorem mem_letters_iff {ch : Char} : ch ∈ letters ↔ ch = '9' ∨ ('A' ≤ ch ∧ ch ≤ 'Z') := by
  constructor
  · intro h
    have hall : letters.all (fun ch => ch = '9' ∨ ('A' ≤ ch ∧ ch ≤ 'Z')) = true := by decide
    exact of_decide_eq_true (List.all_eq_true.mp hall ch h)
  · rintro (rfl | ⟨hA, hZ⟩)
    · decide
    · have h : ∀ k < 26, Char.ofNat (65 + k) ∈ letters := by decide
      have hl : 65 ≤ ch.toNat := hA
      have hu : ch.toNat ≤ 90 := hZ
      have hc := h (ch.toNat - 65) (by omega)
      rwa [Nat.add_sub_cancel' hl, Char.ofNat_toNat] at hc

theorem contains_alphabet_iff {c : CodePoint} : alphabet.contains [c] = true ↔ IsTryte c := by
  rw [List.contains_iff_mem, alphabet_eq, List.mem_map]
  constructor
  · rintro ⟨ch, hch, h⟩
    exact ⟨ch, (List.singleton_inj.mp h).symm, mem_letters_iff.mp hch⟩
  · rintro ⟨ch, rfl, hch⟩
    exact ⟨ch, mem_letters_iff.mpr hch, rfl⟩

theorem isTrytes_text_iff {n : Nat} (hn : 0 < n) {t : Text} :
    isTrytes n (.text t) = true ↔ t.length = n ∧ ∀ c ∈ t, IsTryte c := by
  simp only [isTrytes, isOver, Option.all_some, Value.equalsInt, Bool.and_eq_true,
    decide_eq_true_eq, List.all_eq_true, contains_alphabet_iff, Int.natCast_inj]
  constructor
  · rintro ⟨⟨-, hl⟩, ht⟩
    exact ⟨hl.symm, ht⟩
  · rintro ⟨rfl, ht⟩
    refine ⟨⟨?_, rfl⟩, ht⟩
    cases t with
    | nil => cases hn
    | cons c t => rfl

theorem isHash_iff {v : Value} : isHash v = true ↔ IsIdentifier v := by
  unfold isHash
  cases v with
  | text t =>
    rw [Bool.or_eq_true, isTrytes_text_iff (by decide), isTrytes_text_iff (by decide),
      ← or_and_right]
    constructor
    · intro h
      exact ⟨t, rfl, h⟩
    · rintro ⟨_, ht, h⟩
      cases ht
      exact h
  | _ =>
    constructor
    · intro h
      cases h
    · rintro ⟨_, h, -⟩
      cases h

theorem isHashSequence_iff {v : Value} : isHashSequence v = true ↔ IsIdentifierSequence v := by
  unfold isHashSequence IsIdentifierSequence
  cases v.sequence? <;> simp [isHash_iff]

theorem isIdentifierSequence_tuple {items : List Value} :
    IsIdentifierSequence (.tuple items) ↔ ∀ x ∈ items, IsIdentifier x := by
  simp [IsIdentifierSequence, Value.sequence?]

theorem not_isIdentifier_int (i : Int) : ¬ IsIdentifier (.int i) := by
  rintro ⟨_, h, -⟩
  cases h

/-- A range and bytes hold integers, so only empty ones count. -/
theorem isIdentifierSequence_iff {v : Value} : IsIdentifierSequence v ↔
    (∃ items, (v = .list items ∨ v = .tuple items) ∧ ∀ x ∈ items, IsIdentifier x) ∨
      (∃ start stop step, Value.rangeLength start stop step = 0 ∧ v = .range start stop step) ∨
      v = .byteArray [] := by
  constructor
  · rintro ⟨items, hv, hi⟩
    cases v with
    | list vs =>
      cases hv
      exact .inl ⟨_, .inl rfl, hi⟩
    | tuple vs =>
      cases hv
      exact .inl ⟨_, .inr rfl, hi⟩
    | range start stop step =>
      cases hv
      refine .inr (.inl ⟨start, stop, step, ?_, rfl⟩)
      rcases Nat.eq_zero_or_pos (Value.rangeLength start stop step) with hempty | hpos
      · exact hempty
      · exact absurd (hi _ (List.mem_map.mpr ⟨0, List.mem_range.mpr hpos, rfl⟩))
          (not_isIdentifier_int _)
    | byteArray bs =>
      cases hv
      cases bs with
      | nil => exact .inr (.inr rfl)
      | cons b bs => exact absurd (hi _ List.mem_cons_self) (not_isIdentifier_int _)
    | _ => cases hv
  · rintro (⟨items, rfl | rfl, hi⟩ | ⟨start, stop, step, hempty, rfl⟩ | rfl)
    · exact ⟨items, rfl, hi⟩
    · exact ⟨items, rfl, hi⟩
    · refine ⟨_, rfl, fun x hx => ?_⟩
      simp [Value.rangeItems, hempty] at hx
    · exact ⟨_, rfl, fun x hx => by cases hx⟩

theorem removeChecksum?_of_isIdentifier {t : Text} (h : IsIdentifier (.text t)) :
    removeChecksum? (.text t) = some (t.take 81) := by
  obtain ⟨_, ht, hl, hc⟩ := h
  cases ht
  rw [removeChecksum?]
  rcases hl with hl | hl
  · have hw : isAddressWithChecksum (.text t) = false := by
      rw [Bool.eq_false_iff]
      intro hw
      have hl' := ((isTrytes_text_iff (by decide)).mp hw).1
      exact absurd (hl.symm.trans hl') (by decide)
    have ho : isAddressWithoutChecksum (.text t) = true :=
      (isTrytes_text_iff (by decide)).mpr ⟨hl, hc⟩
    rw [hw, ho, ← hl, List.take_length]
    rfl
  · have hw : isAddressWithChecksum (.text t) = true :=
      (isTrytes_text_iff (by decide)).mpr ⟨hl, hc⟩
    rw [hw]
    rfl

theorem removeChecksum?_eq_none {v : Value} (h : ¬ IsIdentifier v) : removeChecksum? v = none := by
  cases v with
  | text t =>
    have hn : ¬ isHash (.text t) = true := fun hh => h (isHash_iff.mp hh)
    simp only [isHash, Bool.or_eq_true, not_or, Bool.not_eq_true] at hn
    obtain ⟨ho, hw⟩ := hn
    have hw' : isAddressWithChecksum (.text t) = false := hw
    have ho' : isAddressWithoutChecksum (.text t) = false := ho
    rw [removeChecksum?, hw', ho']
    rfl
  | _ => rfl

end TangleGateway.Trytes
