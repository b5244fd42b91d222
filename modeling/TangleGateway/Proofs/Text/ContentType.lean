import Mathlib.Data.List.TakeWhile
import TangleGateway.Proofs.Except
import TangleGateway.Text.ContentType

/-! # Content types without a charset or with UTF-8

A media type alone names no charset, and one with a charset for its only parameter names that one.
The letters of the name may be of either case.
-/

namespace TangleGateway.ContentType

/-- A type and a subtype, and none of the signs that set off parameters and their values. -/
structure IsMediaType (m : Text) : Prop where
  slash : .scalar '/' ∈ m
  plain : ∀ c ∈ m, c ≠ .scalar ';' ∧ c ≠ .scalar '"' ∧ c ≠ .scalar '='

variable {m t u : Text}

/-! ## Pieces -/

theorem pieces_semicolon (escaped : Bool) (t : Text)
    (hm : ∀ c ∈ m, c ≠ .scalar ';' ∧ c ≠ .scalar '"') :
    pieces false escaped (m ++ .scalar ';' :: t) = m :: pieces false false t := by
  induction m generalizing escaped with
  | nil => rfl
  | cons c m ih =>
    obtain ⟨⟨hs, hq⟩, hm⟩ := List.forall_mem_cons.mp hm
    rw [List.cons_append, pieces, ih _ hm]
    · rfl
    · exact hs
    · exact hq

theorem pieces_plain (escaped : Bool) (hm : ∀ c ∈ m, c ≠ .scalar ';' ∧ c ≠ .scalar '"') :
    pieces false escaped m = [m] := by
  induction m generalizing escaped with
  | nil => rfl
  | cons c m ih =>
    obtain ⟨⟨hs, hq⟩, hm⟩ := List.forall_mem_cons.mp hm
    rw [pieces, ih _ hm]
    · rfl
    · exact hs
    · exact hq

theorem mem_trim {c : CodePoint} (hc : c.isSpace = false) (h : c ∈ t) : c ∈ trim t := by
  have kept {s : Text} (hs : c ∈ s) : c ∈ s.dropWhile CodePoint.isSpace := by
    rw [← List.takeWhile_append_dropWhile (p := CodePoint.isSpace) (l := s)] at hs
    rcases List.mem_append.mp hs with hs | hs
    · rw [List.mem_takeWhile_imp hs] at hc
      cases hc
    · exact hs
  exact List.mem_reverse.mpr (kept (List.mem_reverse.mpr (kept h)))

/-! ## Parameters -/

theorem ofPiece_mediaType (h : IsMediaType m) : Parameter.ofPiece m = ⟨trim m, []⟩ := by
  have hname : m.takeWhile (· ≠ .scalar '=') = m :=
    List.takeWhile_eq_self_iff.mpr fun c hc => decide_eq_true (h.plain c hc).2.2
  rw [Parameter.ofPiece, hname]
  exact if_neg (Nat.lt_irrefl _)

theorem asciiLower_trim_ne (h : IsMediaType m) : (trim m).asciiLower ≠ "charset" := by
  intro hc
  have hslash : CodePoint.scalar '/' ∈ (trim m).asciiLower :=
    List.mem_map.mpr ⟨.scalar '/', mem_trim (by decide) h.slash, rfl⟩
  rw [hc] at hslash
  exact absurd hslash (by decide)

theorem charsetName_mediaType (h : IsMediaType m) : charsetName m = .ok none := by
  have hp : pieces false false m = [m] :=
    pieces_plain false fun c hc => ⟨(h.plain c hc).1, (h.plain c hc).2.1⟩
  have hv : values [⟨trim m, []⟩] = .ok [(trim m, .plain [])] := rfl
  simp only [charsetName, hp, List.map_cons, List.map_nil, ofPiece_mediaType h, hv,
    Except.ok_bind_eq, List.find?_cons, asciiLower_trim_ne h]
  rfl

/-! ## A charset by name -/

/-- A sign of a value that needs no quotes. -/
def IsValueSign (c : CodePoint) : Prop :=
  c ≠ .scalar ';' ∧ c ≠ .scalar '"' ∧ c ≠ .scalar '<' ∧ c.isSpace = false ∧
    0 < c.toNat ∧ c.toNat < 0x80

instance (c : CodePoint) : Decidable (IsValueSign c) :=
  inferInstanceAs (Decidable (_ ∧ _))

theorem trim_of_isValueSign (hu : ∀ c ∈ u, IsValueSign c) : trim u = u := by
  have kept {s : Text} (hs : ∀ c ∈ s, IsValueSign c) : s.dropWhile CodePoint.isSpace = s := by
    cases s with
    | nil => rfl
    | cons c s => exact List.dropWhile_cons_of_neg (by simp [(hs c List.mem_cons_self).2.2.2.1])
  rw [trim, kept hu, kept fun c hc => hu c (List.mem_reverse.mp hc), List.reverse_reverse]

theorem unquote_of_isValueSign (hu : ∀ c ∈ u, IsValueSign c) : unquote u = u := by
  unfold unquote
  split
  · exact absurd rfl (hu _ List.mem_cons_self).2.1
  · exact absurd rfl (hu _ List.mem_cons_self).2.2.1
  · rfl

theorem ofPiece_charset (hu : ∀ c ∈ u, IsValueSign c) :
    Parameter.ofPiece ((" charset=" : Text) ++ u) = ⟨"charset", u⟩ := by
  have hname : ((" charset=" : Text) ++ u).takeWhile (· ≠ .scalar '=') = (" charset" : Text) := rfl
  have hlt : (" charset" : Text).length < ((" charset=" : Text) ++ u).length := by
    rw [List.length_append]
    exact Nat.lt_of_lt_of_le (by decide) (Nat.le_add_right _ _)
  rw [Parameter.ofPiece, hname]
  simp only [if_pos hlt]
  change Parameter.mk _ (trim u) = _
  rw [trim_of_isValueSign hu]
  rfl

theorem charsetName_parameter (h : IsMediaType m) (hu : ∀ c ∈ u, IsValueSign c) :
    charsetName (m ++ ("; charset=" : Text) ++ u) = .ok (some u.asciiLower) := by
  have hp : pieces false false (m ++ ("; charset=" : Text) ++ u) =
      [m, (" charset=" : Text) ++ u] := by
    rw [List.append_assoc]
    change pieces false false (m ++ .scalar ';' :: ((" charset=" : Text) ++ u)) = _
    rw [pieces_semicolon false _ fun c hc => ⟨(h.plain c hc).1, (h.plain c hc).2.1⟩,
      pieces_plain false (List.forall_mem_append.mpr
        ⟨by decide, fun c hc => ⟨(hu c hc).1, (hu c hc).2.1⟩⟩)]
  have hv : values [⟨trim m, []⟩, ⟨"charset", u⟩] =
      .ok [(trim m, .plain []), ("charset", .plain u)] := by
    change Except.ok [(trim m, ParameterValue.plain []), ("charset", .plain (unquote u))] = _
    rw [unquote_of_isValueSign hu]
  have hascii : u.any (0x80 ≤ ·.toNat) = false :=
    List.any_eq_false.mpr fun c hc => by simpa using (hu c hc).2.2.2.2.2
  have hfound : ("charset" : Text).asciiLower = "charset" := rfl
  simp only [charsetName, hp, List.map_cons, List.map_nil, ofPiece_mediaType h,
    ofPiece_charset hu, hv, Except.ok_bind_eq, List.find?_cons, asciiLower_trim_ne h, hfound,
    decide_true, decide_false, ParameterValue.text, hascii]
  rfl

/-! ## The name of UTF-8 -/

theorem toLower_cases (c : Char) :
    c = c.toLower ∨ 97 ≤ c.toLower.toNat ∧ c.toNat = c.toLower.toNat - 32 := by
  fun_cases Char.toLower c with
  | case1 h =>
    have hl : 65 ≤ c.val.toNat := h.1
    have hh : c.val.toNat ≤ 90 := h.2
    have hv : (c.val + 32).toNat = c.val.toNat + 32 := by
      rw [UInt32.toNat_add]
      exact Nat.mod_eq_of_lt (by change _ + 32 < _; omega)
    right
    change 97 ≤ (c.val + 32).toNat ∧ c.val.toNat = (c.val + 32).toNat - 32
    omega
  | case2 => exact .inl rfl

theorem mem_of_asciiLower (hu : u.asciiLower = "utf-8") {c : CodePoint} (hc : c ∈ u) :
    c ∈ ("utf-8UTF-8" : Text) := by
  cases c with
  | surrogate half =>
    have hl : CodePoint.surrogate half ∈ ("utf-8" : Text) :=
      hu ▸ List.mem_map.mpr ⟨_, hc, rfl⟩
    obtain ⟨d, -, hd⟩ := List.mem_map.mp hl
    cases hd
  | scalar c =>
    have hl : CodePoint.scalar c.toLower ∈ ("utf-8" : Text) :=
      hu ▸ List.mem_map.mpr ⟨_, hc, rfl⟩
    have small : ∀ d ∈ ("utf-8" : Text), d ∈ ("utf-8UTF-8" : Text) := by decide
    have capital : ∀ d ∈ ("utf-8" : Text), 97 ≤ d.toNat →
        CodePoint.ofNat (d.toNat - 32) ∈ ("utf-8UTF-8" : Text) := by decide
    rcases toLower_cases c with h | ⟨hlow, h⟩
    · exact small _ (h ▸ hl)
    · have hc : (CodePoint.scalar c).toNat = (CodePoint.scalar c.toLower).toNat - 32 := h
      rw [← CodePoint.ofNat_toNat (.scalar c), hc]
      exact capital _ hl hlow

theorem isValueSign_of_asciiLower (hu : u.asciiLower = "utf-8") : ∀ c ∈ u, IsValueSign c := by
  have hsign : ∀ c ∈ ("utf-8UTF-8" : Text), IsValueSign c := by decide
  exact fun c hc => hsign c (mem_of_asciiLower hu hc)

/-! ## Bodies in UTF-8 -/

/-- No content type, or a media type without a charset or with UTF-8 in letters of either case. -/
inductive IsUtf8 : Option Text → Prop where
  | none : IsUtf8 none
  | mediaType {m : Text} : IsMediaType m → (∀ c ∈ m, c.toNat < 0x80) → IsUtf8 (some m)
  | named {m u : Text} : IsMediaType m → (∀ c ∈ m, c.toNat < 0x80) → u.asciiLower = "utf-8" →
      IsUtf8 (some (m ++ ("; charset=" : Text) ++ u))

theorem IsUtf8.isAscii (h : IsUtf8 (some t)) : ∀ c ∈ t, c.toNat < 0x80 := by
  cases h with
  | mediaType _ ha => exact ha
  | named _ ha hu =>
    rw [List.forall_mem_append, List.forall_mem_append]
    exact ⟨⟨ha, by decide⟩, fun c hc => (isValueSign_of_asciiLower hu c hc).2.2.2.2.2⟩

theorem IsUtf8.charsetName (h : IsUtf8 (some t)) :
    charsetName t = .ok .none ∨ charsetName t = .ok (some "utf-8") := by
  cases h with
  | mediaType hm _ => exact .inl (charsetName_mediaType hm)
  | named hm _ hu =>
    exact .inr (hu ▸ charsetName_parameter hm (isValueSign_of_asciiLower hu))

end TangleGateway.ContentType
