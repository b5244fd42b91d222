import Mathlib.Data.List.Induction
import Mathlib.Data.List.TakeWhile
import Mathlib.Data.Nat.Digits.Defs
import TangleGateway.Config.PortNumeral
import TangleGateway.Proofs.Number.Integer

/-! # The grammar of ports

A numeral stands between blanks and has an optional sign and digits of any script, with at most one
underscore between two of them. Exactly the numerals are read, as what their digits denote in base
ten; the text of an integer is one of its numerals.
-/

namespace TangleGateway.PortNumeral

/-! ## Numerals -/

/-- Digits with these values, and at most one underscore between two neighbours. -/
inductive Digits : Text → List Nat → Prop
  | last {c : CodePoint} {d : Nat} : c.digitValue? = some d → Digits [c] [d]
  | next {c : CodePoint} {d : Nat} {t : Text} {ds : List Nat} : c.digitValue? = some d →
    Digits t ds → Digits (c :: t) (d :: ds)
  | spaced {c : CodePoint} {d : Nat} {t : Text} {ds : List Nat} : c.digitValue? = some d →
    Digits t ds → Digits (c :: .scalar '_' :: t) (d :: ds)

/-- At most one sign, and whether it is a minus. -/
inductive Signs : Text → Bool → Prop
  | bare : Signs [] false
  | plus : Signs [.scalar '+'] false
  | minus : Signs [.scalar '-'] true

def asciiBlanks : List CodePoint :=
  [' ', '\t', '\n', '\x0b', '\x0c', '\r']

/-- A blank of the text: one of ASCII if all of the text is, and of Unicode otherwise. -/
def Pads (t : Text) (c : CodePoint) : Prop :=
  if ∀ d ∈ t, d.toNat < 128 then c ∈ asciiBlanks else c.isBlank = true

def signed (negative : Bool) (n : Nat) : Int :=
  if negative then -n else n

def Numeral (t : Text) (i : Int) : Prop :=
  ∃ before sign body after negative ds, t = before ++ (sign ++ body) ++ after ∧
    (∀ c ∈ before, Pads t c) ∧ Signs sign negative ∧ Digits body ds ∧ (∀ c ∈ after, Pads t c) ∧
    ds.length ≤ Integer.maxDigits ∧ i = signed negative (Nat.ofDigits 10 ds.reverse)

/-! ## Code points -/

section CodePoints

variable {c : CodePoint} {d : Nat}

theorem exists_zero_of_digit (h : c.digitValue? = some d) :
    ∃ z ∈ CodePoint.digitZeros, d < 10 ∧ c = .ofNat (z + d) := by
  obtain ⟨z, hz, rfl⟩ := Option.map_eq_some_iff.mp h
  have hrun := List.find?_some hz
  simp only [Bool.and_eq_true, decide_eq_true_eq] at hrun
  refine ⟨z, List.mem_of_find?_eq_some hz, by omega, ?_⟩
  rw [Nat.add_sub_cancel' hrun.1, CodePoint.ofNat_toNat]

theorem not_isBlank_of_digit (h : c.digitValue? = some d) : c.isBlank = false := by
  have runs : ∀ z ∈ CodePoint.digitZeros, ∀ k < 10, (CodePoint.ofNat (z + k)).isBlank = false := by
    decide +kernel
  obtain ⟨z, hz, hd, rfl⟩ := exists_zero_of_digit h
  exact runs z hz d hd

theorem digitValue?_of_isDigit {c : Char} (h : c.isDigit = true) :
    (CodePoint.scalar c).digitValue? = some (c.toNat - '0'.toNat) := by
  have hrun : 0x30 ≤ c.toNat ∧ c.toNat < 0x30 + 10 := by
    have hbounds := Char.isDigit_iff_toNat.mp h
    exact ⟨hbounds.1, Nat.lt_succ_of_le hbounds.2⟩
  have hfirst : CodePoint.digitZeros.find?
      (fun z => z ≤ (CodePoint.scalar c).toNat && (CodePoint.scalar c).toNat < z + 10) =
        some 0x30 :=
    List.find?_cons_of_pos (by simp [CodePoint.toNat, hrun])
  rw [CodePoint.digitValue?, hfirst]
  rfl

theorem pads_iff {t : Text} (hc : c ∈ t) : Pads t c ↔ c.isBlank = true := by
  have ascii : ∀ n < 128, CodePoint.ofNat n ∈ asciiBlanks ↔ (CodePoint.ofNat n).isBlank = true := by
    decide +kernel
  unfold Pads
  split
  case isTrue h =>
    rw [← c.ofNat_toNat]
    exact ascii c.toNat (h c hc)
  case isFalse => exact Iff.rfl

end CodePoints

/-! ## Digits -/

section Digits

variable {t : Text} {ds : List Nat}

theorem Digits.lt_ten (h : Digits t ds) : ∀ d ∈ ds, d < 10 := by
  have hlt {c : CodePoint} {d : Nat} (hc : c.digitValue? = some d) : d < 10 := by
    obtain ⟨-, -, hd, -⟩ := exists_zero_of_digit hc
    exact hd
  induction h with
  | last hc => exact List.forall_mem_singleton.mpr (hlt hc)
  | next hc _ ih | spaced hc _ ih => exact List.forall_mem_cons.mpr ⟨hlt hc, ih⟩

theorem Digits.not_isBlank (h : Digits t ds) : ∀ c ∈ t, c.isBlank = false := by
  induction h with
  | last hc => exact List.forall_mem_singleton.mpr (not_isBlank_of_digit hc)
  | next hc _ ih => exact List.forall_mem_cons.mpr ⟨not_isBlank_of_digit hc, ih⟩
  | spaced hc _ ih =>
    exact List.forall_mem_cons.mpr
      ⟨not_isBlank_of_digit hc, List.forall_mem_cons.mpr ⟨by decide, ih⟩⟩

theorem Digits.starts (h : Digits t ds) :
    ∃ c d s, t = c :: s ∧ c.digitValue? = some d := by
  cases h with
  | last hc | next hc _ | spaced hc _ => exact ⟨_, _, _, rfl, hc⟩

theorem not_digits_nil : ¬ Digits [] ds := nofun

/-- What may follow a digit. -/
def AfterDigit (t : Text) (ds : List Nat) : Prop :=
  (t = [] ∧ ds = []) ∨ Digits t ds ∨ ∃ s, t = .scalar '_' :: s ∧ Digits s ds

theorem digits_cons_iff {c : CodePoint} :
    Digits (c :: t) ds ↔ ∃ d ds', c.digitValue? = some d ∧ ds = d :: ds' ∧ AfterDigit t ds' := by
  constructor
  · intro h
    cases h with
    | last hc => exact ⟨_, _, hc, rfl, .inl ⟨rfl, rfl⟩⟩
    | next hc h => exact ⟨_, _, hc, rfl, .inr (.inl h)⟩
    | spaced hc h => exact ⟨_, _, hc, rfl, .inr (.inr ⟨_, rfl, h⟩)⟩
  · rintro ⟨d, ds', hc, rfl, ⟨rfl, rfl⟩ | h | ⟨s, rfl, h⟩⟩
    · exact .last hc
    · exact .next hc h
    · exact .spaced hc h

theorem digitValues?_iff :
    (digitValues? false t = some ds ↔ Digits t ds) ∧
      (digitValues? true t = some ds ↔ AfterDigit t ds) := by
  have noDigit : (CodePoint.scalar '_').digitValue? = none := by decide
  induction t generalizing ds with
  | nil =>
    constructor
    · simp [digitValues?, not_digits_nil]
    · simp [digitValues?, AfterDigit, not_digits_nil, @eq_comm _ [] ds]
  | cons c t ih =>
    by_cases hc : c = .scalar '_'
    · subst hc
      simp [digitValues?, ih, AfterDigit, digits_cons_iff, noDigit]
    · have scan (b : Bool) : digitValues? b (c :: t) = some ds ↔ Digits (c :: t) ds := by
        rw [digitValues?, digits_cons_iff]
        · simp only [Option.bind_eq_bind, Option.bind_eq_some_iff, Option.pure_def,
            Option.some.injEq, ih]
          constructor
          · rintro ⟨d, hd, ds', h, rfl⟩
            exact ⟨d, ds', hd, rfl, h⟩
          · rintro ⟨d, ds', hd, rfl, h⟩
            exact ⟨d, hd, ds', h, rfl⟩
        · exact hc
      exact ⟨scan false, by simp [scan, AfterDigit, hc]⟩

theorem denote_eq (ds : List Nat) : denote ds = Nat.ofDigits 10 ds.reverse := by
  induction ds using List.reverseRecOn with
  | nil => rfl
  | append_singleton ds d ih =>
    have hlast : denote (ds ++ [d]) = 10 * denote ds + d := by
      rw [denote, List.foldl_append]
      rfl
    rw [hlast, ih, List.reverse_concat, Nat.ofDigits_cons, Nat.add_comm]

end Digits

/-! ## Blanks and signs -/

section Reading

variable {t sign body : Text} {negative : Bool} {ds : List Nat}

theorem exists_trimBlank (t : Text) : ∃ before after, t = before ++ trimBlank t ++ after ∧
    (∀ c ∈ before, c.isBlank = true) ∧ ∀ c ∈ after, c.isBlank = true := by
  let rest := (t.dropWhile CodePoint.isBlank).reverse
  have hfront : t = t.takeWhile CodePoint.isBlank ++ rest.reverse := by
    rw [List.reverse_reverse, List.takeWhile_append_dropWhile]
  have hrest : rest.reverse = trimBlank t ++ (rest.takeWhile CodePoint.isBlank).reverse := by
    rw [trimBlank, ← List.reverse_append, List.takeWhile_append_dropWhile]
  refine ⟨t.takeWhile CodePoint.isBlank, (rest.takeWhile CodePoint.isBlank).reverse, ?_, ?_, ?_⟩
  · rw [List.append_assoc, ← hrest]
    exact hfront
  · exact fun c hc => List.mem_takeWhile_imp hc
  · exact fun c hc => List.mem_takeWhile_imp (List.mem_reverse.mp hc)

theorem dropWhile_blank_append {blanks : Text} (hb : ∀ c ∈ blanks, c.isBlank = true) {c : CodePoint}
    (hc : c.isBlank = false) (s : Text) :
    (blanks ++ c :: s).dropWhile CodePoint.isBlank = c :: s := by
  rw [List.dropWhile_append_of_pos hb, List.dropWhile_cons_of_neg (by simp [hc])]

theorem trimBlank_append {before after : Text} (hb : ∀ c ∈ before, c.isBlank = true)
    (hne : t ≠ []) (ht : ∀ c ∈ t, c.isBlank = false) (ha : ∀ c ∈ after, c.isBlank = true) :
    trimBlank (before ++ t ++ after) = t := by
  have hfront : (before ++ t ++ after).dropWhile CodePoint.isBlank = t ++ after := by
    obtain ⟨c, s, rfl⟩ := List.exists_cons_of_ne_nil hne
    rw [List.append_assoc]
    exact dropWhile_blank_append hb (ht c List.mem_cons_self) (s ++ after)
  have hback : (t ++ after).reverse.dropWhile CodePoint.isBlank = t.reverse := by
    obtain ⟨c, s, hs⟩ := List.exists_cons_of_ne_nil (List.reverse_ne_nil_iff.mpr hne)
    have hc : c ∈ t := List.mem_reverse.mp (hs ▸ List.mem_cons_self)
    rw [List.reverse_append, hs]
    exact dropWhile_blank_append (fun c hc => ha c (List.mem_reverse.mp hc)) (ht c hc) s
  rw [trimBlank, hfront, hback, List.reverse_reverse]

theorem exists_splitSign (t : Text) :
    ∃ sign, Signs sign (splitSign t).1 ∧ t = sign ++ (splitSign t).2 := by
  fun_cases splitSign t with
  | case1 t => exact ⟨_, .minus, rfl⟩
  | case2 t => exact ⟨_, .plus, rfl⟩
  | case3 => exact ⟨_, .bare, rfl⟩

theorem Signs.splitSign_append (h : Signs sign negative) (hd : Digits body ds) :
    splitSign (sign ++ body) = (negative, body) := by
  have noDigit : (CodePoint.scalar '-').digitValue? = none ∧
      (CodePoint.scalar '+').digitValue? = none := by decide
  cases h with
  | plus | minus => rfl
  | bare =>
    obtain ⟨c, d, s, rfl, hc⟩ := hd.starts
    rw [List.nil_append, splitSign]
    · rintro t ⟨⟩
      rw [noDigit.1] at hc
      cases hc
    · rintro t ⟨⟩
      rw [noDigit.2] at hc
      cases hc

theorem Signs.not_isBlank (h : Signs sign negative) : ∀ c ∈ sign, c.isBlank = false := by
  cases h <;> decide

theorem read?_of_split (h : splitSign (trimBlank t) = (negative, body)) :
    read? t = (digitValues? false body).bind fun ds =>
      if ds.length ≤ Integer.maxDigits then some (signed negative (Nat.ofDigits 10 ds.reverse))
      else none := by
  simp only [read?, h, ← denote_eq]
  cases digitValues? false body <;> rfl

theorem read?_eq_some_iff {i : Int} : read? t = some i ↔ Numeral t i := by
  constructor
  · intro h
    obtain ⟨before, after, htrim, hbefore, hafter⟩ := exists_trimBlank t
    obtain ⟨sign, hsign, hbody⟩ := exists_splitSign (trimBlank t)
    rw [read?_of_split rfl] at h
    obtain ⟨ds, hds, h⟩ := Option.bind_eq_some_iff.mp h
    obtain ⟨hlen, hi⟩ := Option.ite_none_right_eq_some.mp h
    refine ⟨before, sign, _, after, _, ds, hbody ▸ htrim, fun c hc => ?_, hsign,
      digitValues?_iff.1.mp hds, fun c hc => ?_, hlen, (Option.some.inj hi).symm⟩
    · have hmem : c ∈ t := by
        rw [htrim]
        simp [hc]
      exact (pads_iff hmem).mpr (hbefore c hc)
    · have hmem : c ∈ t := by
        rw [htrim]
        simp [hc]
      exact (pads_iff hmem).mpr (hafter c hc)
  · rintro ⟨before, sign, body, after, negative, ds, rfl, hbefore, hsign, hdigits, hafter, hlen,
      rfl⟩
    have htrim : trimBlank (before ++ (sign ++ body) ++ after) = sign ++ body := by
      apply trimBlank_append
      · intro c hc
        exact (pads_iff (by simp [hc])).mp (hbefore c hc)
      · obtain ⟨c, d, s, rfl, -⟩ := hdigits.starts
        simp
      · exact List.forall_mem_append.mpr ⟨hsign.not_isBlank, hdigits.not_isBlank⟩
      · intro c hc
        exact (pads_iff (by simp [hc])).mp (hafter c hc)
    rw [read?_of_split (htrim ▸ hsign.splitSign_append hdigits), digitValues?_iff.1.mpr hdigits]
    exact if_pos hlen

end Reading

/-! ## Integers -/

theorem signed_natAbs (negative : Bool) (n : Nat) : (signed negative n).natAbs = n := by
  cases negative with
  | true => exact (Int.natAbs_neg n).trans (Int.natAbs_natCast n)
  | false => exact Int.natAbs_natCast n

theorem Numeral.writable {t : Text} {i : Int} (h : Numeral t i) : Integer.Writable i := by
  obtain ⟨_, _, body, _, negative, ds, -, -, -, hdigits, -, hlen, rfl⟩ := h
  have hlt : Nat.ofDigits 10 ds.reverse < 10 ^ ds.reverse.length :=
    Nat.ofDigits_lt_base_pow_length (by decide) fun d hd =>
      hdigits.lt_ten d (List.mem_reverse.mp hd)
  rw [Integer.writable_iff, signed_natAbs]
  rw [List.length_reverse] at hlt
  exact Nat.lt_of_lt_of_le hlt (Nat.pow_le_pow_right (by decide) hlen)

theorem digits_ofChars {cs : List Char} (hne : cs ≠ []) (h : ∀ c ∈ cs, c.isDigit = true) :
    Digits (Text.ofChars cs) (cs.map fun c => c.toNat - '0'.toNat) := by
  induction cs with
  | nil => exact absurd rfl hne
  | cons c cs ih =>
    obtain ⟨hc, hcs⟩ := List.forall_mem_cons.mp h
    by_cases hempty : cs = []
    · subst hempty
      exact .last (digitValue?_of_isDigit hc)
    · exact .next (digitValue?_of_isDigit hc) (ih hempty hcs)

theorem numeral_text {i : Int} (h : Integer.Writable i) : Numeral (Integer.text i) i := by
  let cs := Integer.digits i.natAbs
  let ds := cs.map fun c => c.toNat - '0'.toNat
  have hdigits : Digits (Text.ofChars cs) ds :=
    digits_ofChars Nat.toDigits_ne_nil fun c hc => Integer.isDigit_of_mem_digits hc
  have hvalue : Nat.ofDigits 10 ds.reverse = i.natAbs := by
    rw [← denote_eq, denote, List.foldl_map]
    exact Integer.ofDigits_digits i.natAbs
  have hlen : ds.length ≤ Integer.maxDigits := by
    rw [List.length_map]
    exact h
  by_cases hneg : i < 0
  · refine ⟨[], _, _, [], true, ds, ?_, nofun, .minus, hdigits, nofun, hlen, ?_⟩
    · rw [Integer.text, Integer.chars, if_pos hneg]
      simp [Text.ofChars, cs]
    · rw [hvalue, signed, if_pos rfl]
      omega
  · refine ⟨[], _, _, [], false, ds, ?_, nofun, .bare, hdigits, nofun, hlen, ?_⟩
    · rw [Integer.text, Integer.chars, if_neg hneg]
      simp [cs]
    · rw [hvalue, signed, if_neg (by decide)]
      omega

end TangleGateway.PortNumeral
