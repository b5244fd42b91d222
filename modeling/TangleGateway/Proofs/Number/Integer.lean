import Mathlib.Algebra.Group.Nat.Defs
import TangleGateway.Number.Integer

/-! # Numerals

The text of an integer determines it: the digits denote its size, and no digit is a minus sign.
-/

namespace TangleGateway

theorem Text.ofChars_injective {cs ds : List Char} (h : Text.ofChars cs = Text.ofChars ds) :
    cs = ds := by
  have hc := congrArg Text.toChars? h
  rwa [Text.toChars?_ofChars, Text.toChars?_ofChars, Option.some.injEq] at hc

theorem Text.ofString_injective {s t : String} (h : Text.ofString s = Text.ofString t) : s = t :=
  String.toList_inj.mp (Text.ofChars_injective h)

namespace Integer

theorem digits_injective {m n : Nat} (h : digits m = digits n) : m = n := by
  rw [← ofDigits_digits m, h, ofDigits_digits]

theorem isDigit_of_mem_digits {n : Nat} {c : Char} (h : c ∈ digits n) : c.isDigit :=
  Nat.isDigit_of_mem_toDigits (by decide) (by decide) h

theorem digits_eq_cons (n : Nat) :
    ∃ c ds, digits n = c :: ds ∧ c.isDigit = true ∧ (c = '0' → ds = []) := by
  induction n using Nat.strongRecOn with
  | ind n ih =>
    by_cases hn : n < 10
    · have hd : digits n = [n.digitChar] := Nat.toDigits_of_lt_base hn
      have hc : n.digitChar ∈ digits n := hd ▸ List.mem_singleton_self _
      exact ⟨_, [], hd, isDigit_of_mem_digits hc, fun _ => rfl⟩
    · obtain ⟨c, ds, hds, hc, hz⟩ := ih (n / 10) (by omega)
      have hd : digits n = digits (n / 10) ++ [(n % 10).digitChar] :=
        Nat.toDigits_of_base_le (by decide) (by omega)
      rw [hds, List.cons_append] at hd
      refine ⟨c, _, hd, hc, fun h => ?_⟩
      have hzero : digits (n / 10) = digits 0 := by
        rw [hds, h, hz h]
        rfl
      have := digits_injective hzero
      omega

theorem exists_digits_of_isPrefix {n : Nat} {ds : List Char} (h : ds <+: digits n) (hne : ds ≠ []) :
    ∃ m, ds = digits m := by
  induction n using Nat.strongRecOn with
  | ind n ih =>
    by_cases hn : n < 10
    · have hd : digits n = [n.digitChar] := Nat.toDigits_of_lt_base hn
      rw [hd] at h
      rcases List.prefix_cons_iff.mp h with rfl | ⟨t, rfl, ht⟩
      · exact absurd rfl hne
      · exact ⟨n, by rw [hd, List.prefix_nil.mp ht]⟩
    · have hd : digits n = digits (n / 10) ++ [(n % 10).digitChar] :=
        Nat.toDigits_of_base_le (by decide) (by omega)
      rw [hd] at h
      rcases List.prefix_concat_iff.mp h with rfl | h
      · exact ⟨n, hd.symm⟩
      · exact ih (n / 10) (by omega) h

theorem eq_zero_of_isPrefix {n : Nat} (h : digits 0 <+: digits n) : n = 0 := by
  obtain ⟨c, ds, hds, -, hz⟩ := digits_eq_cons n
  have hzero : digits n = digits 0 := by
    rw [hds] at h
    obtain ⟨rfl, -⟩ := List.cons_prefix_cons.mp h
    rw [hds, hz rfl]
    rfl
  exact digits_injective hzero

theorem minus_notMem_digits (n : Nat) : '-' ∉ digits n := by
  intro h
  exact absurd (isDigit_of_mem_digits h) (by decide)

theorem chars_injective {i j : Int} (h : chars i = chars j) : i = j := by
  unfold chars at h
  split at h <;> split at h
  · have ha := digits_injective (List.cons.inj h).2
    omega
  · exact absurd (h ▸ List.mem_cons_self) (minus_notMem_digits j.natAbs)
  · exact absurd (h ▸ List.mem_cons_self) (minus_notMem_digits i.natAbs)
  · have ha := digits_injective h
    omega

theorem text_injective {i j : Int} (h : text i = text j) : i = j :=
  chars_injective (Text.ofChars_injective h)

/-- An integer of no more than `maxDigits` digits. -/
def Writable (i : Int) : Prop :=
  (digits i.natAbs).length ≤ maxDigits

instance (i : Int) : Decidable (Writable i) :=
  inferInstanceAs (Decidable (_ ≤ _))

theorem writable_iff {i : Int} : Writable i ↔ i.natAbs < 10 ^ maxDigits :=
  Nat.length_toDigits_le_iff (by decide) (by decide)

/-- A numeral without the last digits is another one, or no more than a minus sign. -/
theorem prefix_text {i : Int} (hi : Writable i) {p : Text} (h : p <+: text i) :
    p = [] ∨ p = [.scalar '-'] ∨ ∃ j, Writable j ∧ p = text j := by
  obtain ⟨cs, hcs, rfl⟩ := List.prefix_map_iff.mp h
  by_cases hneg : i < 0
  · rw [chars, if_pos hneg] at hcs
    rcases List.prefix_cons_iff.mp hcs with rfl | ⟨ds, rfl, hds⟩
    · exact .inl rfl
    by_cases hne : ds = []
    · subst hne
      exact .inr (.inl rfl)
    obtain ⟨m, rfl⟩ := exists_digits_of_isPrefix hds hne
    have hm : m ≠ 0 := by
      rintro rfl
      have := eq_zero_of_isPrefix hds
      omega
    have habs : (-m : Int).natAbs = m := by omega
    refine .inr (.inr ⟨-m, ?_, ?_⟩)
    · rw [Writable, habs]
      exact Nat.le_trans hds.length_le hi
    · rw [text, chars, if_pos (by omega), habs]
      rfl
  · rw [chars, if_neg hneg] at hcs
    by_cases hne : cs = []
    · subst hne
      exact .inl rfl
    obtain ⟨m, rfl⟩ := exists_digits_of_isPrefix hcs hne
    refine .inr (.inr ⟨m, Nat.le_trans hcs.length_le hi, ?_⟩)
    rw [text, chars, if_neg (by omega)]
    rfl

theorem text?_of_writable {i : Int} (h : Writable i) : text? i = some (text i) :=
  if_pos h

end Integer

end TangleGateway
