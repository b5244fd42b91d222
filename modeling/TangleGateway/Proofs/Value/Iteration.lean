import Mathlib.Data.List.Forall2
import TangleGateway.Value.Basic

/-! # Iterating over values

A text gives its characters, bytes give their numbers and a dictionary gives its keys. A range gives
its start and goes on a step further, until it gets to its stop or past it.
-/

namespace TangleGateway.Value

/-- A range has its start to give. -/
def HasNext (start stop step : Int) : Prop :=
  0 < step ∧ start < stop ∨ step < 0 ∧ stop < start

instance (start stop step : Int) : Decidable (HasNext start stop step) :=
  inferInstanceAs (Decidable (_ ∨ _))

open List (Forall₂) in
/-- Iterating over a value gives these elements, in this order. -/
inductive Yields : Value → List Value → Prop where
  | text {t : Text} {vs : List Value} : Forall₂ (fun c v => text [c] = v) t vs → Yields (text t) vs
  | bytes {bs : List UInt8} {vs : List Value} :
      Forall₂ (fun b v => int b.toNat = v) bs vs → Yields (bytes bs) vs
  | byteArray {bs : List UInt8} {vs : List Value} :
      Forall₂ (fun b v => int b.toNat = v) bs vs → Yields (byteArray bs) vs
  | list (vs : List Value) : Yields (list vs) vs
  | tuple (vs : List Value) : Yields (tuple vs) vs
  | set (vs : List Value) : Yields (set vs) vs
  | rangeEnd {start stop step : Int} : ¬ HasNext start stop step →
      Yields (range start stop step) []
  | rangeNext {start stop step : Int} {vs : List Value} : HasNext start stop step →
      Yields (range (start + step) stop step) vs → Yields (range start stop step) (int start :: vs)
  | dict {es : Entries Value} {vs : List Value} :
      Forall₂ (fun e v => text e.1 = v) es vs → Yields (dict es) vs
  | keyed {es : List (Value × Value)} {vs : List Value} :
      Forall₂ (fun e v => e.1 = v) es vs → Yields (keyed es) vs

variable {start stop step : Int} {v : Value} {vs : List Value}

theorem forall₂_eq_iff {α : Type} {f : α → Value} {as : List α} :
    List.Forall₂ (fun a v => f a = v) as vs ↔ as.map f = vs := by
  rw [← List.forall₂_map_left_iff (R := Eq), List.forall₂_eq_eq_eq]

/-! ## Ranges -/

theorem rangeLength_of_hasNext (h : HasNext start stop step) :
    rangeLength start stop step = rangeLength (start + step) stop step + 1 := by
  rcases h with ⟨hstep, hlt⟩ | ⟨hstep, hlt⟩
  · have hsplit : stop - start + step - 1 = stop - (start + step) + step - 1 + step := by omega
    have hnonneg : 0 ≤ (stop - (start + step) + step - 1) / step :=
      Int.ediv_nonneg (by omega) (by omega)
    rw [rangeLength, rangeLength, if_pos hstep, if_pos hstep, hsplit,
      Int.add_ediv_of_dvd_right (Int.dvd_refl step), Int.ediv_self (by omega)]
    omega
  · have hsplit : start - stop - step - 1 = start + step - stop - step - 1 + -step := by omega
    have hnonneg : 0 ≤ (start + step - stop - step - 1) / -step :=
      Int.ediv_nonneg (by omega) (by omega)
    have hnot : ¬ 0 < step := by omega
    rw [rangeLength, rangeLength, if_neg hnot, if_neg hnot, if_pos hstep, if_pos hstep, hsplit,
      Int.add_ediv_of_dvd_right (Int.dvd_refl (-step)), Int.ediv_self (by omega)]
    omega

theorem rangeLength_of_not_hasNext (h : ¬ HasNext start stop step) :
    rangeLength start stop step = 0 := by
  unfold HasNext at h
  unfold rangeLength
  split
  · rename_i hstep
    have hlt : (stop - start + step - 1) / step < 1 :=
      (Int.ediv_lt_iff_lt_mul hstep).mpr (by omega)
    omega
  · split
    · rename_i hstep
      have hlt : (start - stop - step - 1) / -step < 1 :=
        (Int.ediv_lt_iff_lt_mul (by omega)).mpr (by omega)
      omega
    · rfl

theorem rangeItems_of_hasNext (h : HasNext start stop step) :
    rangeItems start stop step = int start :: rangeItems (start + step) stop step := by
  rw [rangeItems, rangeLength_of_hasNext h, List.range_succ_eq_map, List.map_cons, List.map_map]
  refine congrArg₂ List.cons ?_ (List.map_congr_left fun i _ => ?_)
  · simp
  · simp only [Function.comp_apply, Nat.succ_eq_add_one]
    rw [Int.natCast_succ, Int.mul_add, Int.mul_one, Int.add_assoc, Int.add_comm step]

theorem yields_rangeItems (start stop step : Int) :
    Yields (range start stop step) (rangeItems start stop step) := by
  induction h : rangeLength start stop step generalizing start with
  | zero =>
    rw [rangeItems, h]
    refine .rangeEnd fun hnext => ?_
    rw [rangeLength_of_hasNext hnext] at h
    cases h
  | succ n ih =>
    have hnext : HasNext start stop step := by
      by_contra hnext
      rw [rangeLength_of_not_hasNext hnext] at h
      cases h
    rw [rangeItems_of_hasNext hnext]
    rw [rangeLength_of_hasNext hnext] at h
    exact .rangeNext hnext (ih _ (Nat.succ.inj h))

/-! ## All values -/

theorem Yields.elements? (h : v.Yields vs) : v.elements? = some vs := by
  induction h with
  | text h | bytes h | byteArray h | dict h | keyed h =>
    exact congrArg some (forall₂_eq_iff.mp h)
  | list | tuple | set => rfl
  | rangeEnd h => rw [Value.elements?, rangeItems, rangeLength_of_not_hasNext h]; rfl
  | rangeNext h _ ih =>
    rw [Value.elements?, rangeItems_of_hasNext h]
    exact congrArg (some <| _ :: ·) (Option.some.inj ih)

/-- The elements of a value are what iterating over it gives. -/
theorem elements?_eq_some_iff : v.elements? = some vs ↔ v.Yields vs := by
  refine ⟨fun h => ?_, Yields.elements?⟩
  cases v with
  | null | bool | int | float => cases h
  | text => exact .text (forall₂_eq_iff.mpr (Option.some.inj h))
  | bytes => exact .bytes (forall₂_eq_iff.mpr (Option.some.inj h))
  | byteArray => exact .byteArray (forall₂_eq_iff.mpr (Option.some.inj h))
  | dict => exact .dict (forall₂_eq_iff.mpr (Option.some.inj h))
  | keyed => exact .keyed (forall₂_eq_iff.mpr (Option.some.inj h))
  | list => exact Option.some.inj h ▸ .list _
  | tuple => exact Option.some.inj h ▸ .tuple _
  | set => exact Option.some.inj h ▸ .set _
  | range start stop step => exact Option.some.inj h ▸ yields_rangeItems start stop step

end TangleGateway.Value
