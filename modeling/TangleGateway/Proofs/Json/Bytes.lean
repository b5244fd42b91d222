import TangleGateway.Answer
import TangleGateway.Proofs.Json.RoundTrip
import TangleGateway.Proofs.Text.Utf8

/-! # Written texts as bytes

The writer adds nothing but ASCII. So the text of a value has bytes exactly if no text within the
value holds a lone half of a surrogate pair, and an object is read back from its bytes.
-/

namespace TangleGateway

/-- No lone half of a surrogate pair. -/
def Text.IsScalar (t : Text) : Prop :=
  ∃ cs, t = Text.ofChars cs

namespace Text

variable {s t : Text}

theorem isScalar_iff : t.IsScalar ↔ ∀ c ∈ t, ∃ a, c = .scalar a := by
  constructor
  · rintro ⟨cs, rfl⟩ c hc
    obtain ⟨a, -, rfl⟩ := List.mem_map.mp hc
    exact ⟨a, rfl⟩
  · intro h
    induction t with
    | nil => exact ⟨[], rfl⟩
    | cons c t ih =>
      obtain ⟨⟨a, rfl⟩, ht⟩ := List.forall_mem_cons.mp h
      obtain ⟨cs, rfl⟩ := ih ht
      exact ⟨a :: cs, rfl⟩

theorem isScalar_nil : IsScalar [] := ⟨[], rfl⟩

@[simp] theorem isScalar_ofString (s : String) : IsScalar (.ofString s) := ⟨s.toList, rfl⟩

theorem isScalar_append_iff : IsScalar (s ++ t) ↔ s.IsScalar ∧ t.IsScalar := by
  simp only [isScalar_iff, List.forall_mem_append]

theorem isScalar_cons_iff (a : Char) : IsScalar (.scalar a :: t) ↔ t.IsScalar := by
  simp only [isScalar_iff, List.forall_mem_cons, CodePoint.scalar.injEq, exists_eq', true_and]

theorem isScalar_iff_encode? : t.IsScalar ↔ ∃ bytes, Utf8.encode? t = some bytes := by
  constructor
  · rintro ⟨cs, rfl⟩
    exact ⟨_, Utf8.encode?_ofChars cs⟩
  · rintro ⟨bytes, h⟩
    obtain ⟨cs, hcs, -⟩ := Option.map_eq_some_iff.mp h
    exact ⟨cs, Utf8.ofChars_of_toChars? hcs⟩

end Text

namespace Json

open Text

/-- A value without a lone half of a surrogate pair in any name or text. -/
inductive Encodable : Value → Prop where
  | null : Encodable .null
  | bool (b : Bool) : Encodable (.bool b)
  | int (i : Int) : Encodable (.int i)
  | text {t : Text} : t.IsScalar → Encodable (.text t)
  | list {vs : List Value} : (∀ v ∈ vs, Encodable v) → Encodable (.list vs)
  | tuple {vs : List Value} : (∀ v ∈ vs, Encodable v) → Encodable (.tuple vs)
  | dict {es : Entries Value} :
      (∀ e ∈ es, IsScalar e.1) → (∀ e ∈ es, Encodable e.2) → Encodable (.dict es)

/-- A value of texts, integers, booleans and nulls that nest at most so deep. -/
inductive Shallow : Nat → Value → Prop where
  | null {depth : Nat} : Shallow depth .null
  | bool {depth : Nat} (b : Bool) : Shallow depth (.bool b)
  | int {depth : Nat} (i : Int) : Shallow depth (.int i)
  | text {depth : Nat} (t : Text) : Shallow depth (.text t)
  | list {depth : Nat} {vs : List Value} :
      (∀ v ∈ vs, Shallow depth v) → Shallow (depth + 1) (.list vs)
  | tuple {depth : Nat} {vs : List Value} :
      (∀ v ∈ vs, Shallow depth v) → Shallow (depth + 1) (.tuple vs)
  | dict {depth : Nat} {es : Entries Value} :
      (∀ e ∈ es, Shallow depth e.2) → Shallow (depth + 1) (.dict es)

theorem Portable.shallow {depth : Nat} {v : Value} (h : Portable depth v) : Shallow depth v := by
  induction h with
  | null => exact .null
  | bool b => exact .bool b
  | int _ => exact .int _
  | text t => exact .text t
  | list _ ih => exact .list ih
  | dict _ _ ih => exact .dict ih

theorem encodable_text_iff {t : Text} : Encodable (.text t) ↔ t.IsScalar :=
  ⟨fun | .text h => h, .text⟩

theorem encodable_list_iff {vs : List Value} : Encodable (.list vs) ↔ ∀ v ∈ vs, Encodable v :=
  ⟨fun | .list h => h, .list⟩

theorem encodable_tuple_iff {vs : List Value} : Encodable (.tuple vs) ↔ ∀ v ∈ vs, Encodable v :=
  ⟨fun | .tuple h => h, .tuple⟩

theorem encodable_dict_iff {es : Entries Value} :
    Encodable (.dict es) ↔ ∀ e ∈ es, IsScalar e.1 ∧ Encodable e.2 :=
  ⟨fun | .dict hn h => fun e he => ⟨hn e he, h e he⟩,
    fun h => .dict (fun e he => (h e he).1) fun e he => (h e he).2⟩

theorem isScalar_escaped_iff (c : CodePoint) : (escaped c).IsScalar ↔ ∃ a, c = .scalar a := by
  cases c with
  | surrogate half =>
    have hc : ¬ (CodePoint.surrogate half).toNat < 0x20 := by
      rw [CodePoint.toNat]
      omega
    rw [escaped, if_neg hc, isScalar_iff, List.forall_mem_singleton]
    all_goals simp
  | scalar a =>
    refine iff_of_true ?_ ⟨a, rfl⟩
    unfold escaped
    split
    case h_8 =>
      split
      · exact ⟨_, rfl⟩
      · exact (isScalar_cons_iff _).mpr isScalar_nil
    all_goals exact ⟨_, rfl⟩

theorem isScalar_writeText_iff {t : Text} : (writeText t).IsScalar ↔ t.IsScalar := by
  have hquote : IsScalar [.scalar '"'] := ⟨['"'], rfl⟩
  have hbody : IsScalar (t.flatMap escaped) ↔ t.IsScalar := by
    induction t with
    | nil => exact Iff.rfl
    | cons c t ih =>
      rw [List.flatMap_cons, isScalar_append_iff, ih, isScalar_escaped_iff, isScalar_iff,
        isScalar_iff, List.forall_mem_cons]
  rw [writeText, List.cons_append, isScalar_cons_iff, isScalar_append_iff, and_iff_left hquote,
    hbody]

theorem isScalar_commaSeparated_iff {ts : List Text} :
    (commaSeparated ts).IsScalar ↔ ∀ t ∈ ts, t.IsScalar := by
  induction ts with
  | nil => exact iff_of_true isScalar_nil nofun
  | cons t ts ih =>
    cases ts with
    | nil => exact List.forall_mem_singleton.symm
    | cons s ts =>
      change IsScalar (t ++ .scalar ',' :: commaSeparated (s :: ts)) ↔ _
      rw [isScalar_append_iff, isScalar_cons_iff, ih, ← List.forall_mem_cons]

theorem isScalar_writeItems_iff {vs : List Value}
    (h : ∀ v ∈ vs, ∀ t, write v = .ok t → (t.IsScalar ↔ Encodable v)) {ts : List Text}
    (hw : writeItems vs = .ok ts) : (∀ t ∈ ts, t.IsScalar) ↔ ∀ v ∈ vs, Encodable v := by
  induction vs generalizing ts with
  | nil =>
    cases hw
    exact iff_of_true nofun nofun
  | cons v vs ih =>
    obtain ⟨t, ht, hw⟩ := Except.bind_eq_ok_iff.mp hw
    obtain ⟨ts, hts, hw⟩ := Except.bind_eq_ok_iff.mp hw
    cases hw
    rw [List.forall_mem_cons, List.forall_mem_cons, h v List.mem_cons_self t ht,
      ih (fun u hu => h u (List.mem_cons_of_mem _ hu)) hts]

theorem isScalar_writeMembers_iff {es : Entries Value}
    (h : ∀ e ∈ es, ∀ t, write e.2 = .ok t → (t.IsScalar ↔ Encodable e.2)) {ts : List Text}
    (hw : writeMembers es = .ok ts) :
    (∀ t ∈ ts, t.IsScalar) ↔ ∀ e ∈ es, IsScalar e.1 ∧ Encodable e.2 := by
  induction es generalizing ts with
  | nil =>
    cases hw
    exact iff_of_true nofun nofun
  | cons e es ih =>
    obtain ⟨k, v⟩ := e
    obtain ⟨t, ht, hw⟩ := Except.bind_eq_ok_iff.mp hw
    obtain ⟨ts, hts, hw⟩ := Except.bind_eq_ok_iff.mp hw
    cases hw
    rw [List.forall_mem_cons, List.forall_mem_cons, isScalar_append_iff, isScalar_writeText_iff,
      isScalar_cons_iff, h _ List.mem_cons_self t ht,
      ih (fun e he => h e (List.mem_cons_of_mem _ he)) hts]

theorem isScalar_brackets_iff (opening closing : Char) {ts : List Text} :
    IsScalar (.scalar opening :: commaSeparated ts ++ [.scalar closing]) ↔
      ∀ t ∈ ts, t.IsScalar := by
  have hclose : IsScalar [.scalar closing] := ⟨[closing], rfl⟩
  rw [List.cons_append, isScalar_cons_iff, isScalar_append_iff, and_iff_left hclose,
    isScalar_commaSeparated_iff]

theorem Shallow.isScalar_write_iff {depth : Nat} {v : Value} (h : Shallow depth v) {t : Text}
    (hw : write v = .ok t) : t.IsScalar ↔ Encodable v := by
  induction h generalizing t with
  | null =>
    cases hw
    exact iff_of_true ⟨_, rfl⟩ .null
  | bool b => cases b <;> cases hw <;> exact iff_of_true ⟨_, rfl⟩ (.bool _)
  | int i =>
    rw [write, writeInteger] at hw
    split at hw
    · rename_i ht
      cases hw
      obtain rfl := Option.some.inj (Option.ite_none_right_eq_some.mp ht).2
      exact iff_of_true ⟨_, rfl⟩ (.int i)
    · cases hw
  | text t =>
    rw [write] at hw
    cases hw
    rw [isScalar_writeText_iff, encodable_text_iff]
  | list _ ih =>
    rw [write] at hw
    obtain ⟨ts, hts, hw⟩ := Except.bind_eq_ok_iff.mp hw
    cases hw
    rw [isScalar_brackets_iff, isScalar_writeItems_iff (fun v hv _ => ih v hv) hts,
      encodable_list_iff]
  | tuple _ ih =>
    rw [write] at hw
    obtain ⟨ts, hts, hw⟩ := Except.bind_eq_ok_iff.mp hw
    cases hw
    rw [isScalar_brackets_iff, isScalar_writeItems_iff (fun v hv _ => ih v hv) hts,
      encodable_tuple_iff]
  | dict _ ih =>
    rw [write] at hw
    obtain ⟨ts, hts, hw⟩ := Except.bind_eq_ok_iff.mp hw
    cases hw
    rw [isScalar_brackets_iff, isScalar_writeMembers_iff (fun e he _ => ih e he) hts,
      encodable_dict_iff]

theorem dropMark_object {t : Text} {bytes : List UInt8}
    (hb : Utf8.encode? (.scalar '{' :: t) = some bytes) : Answer.dropMark bytes = bytes := by
  obtain ⟨cs, hcs, rfl⟩ := Option.map_eq_some_iff.mp hb
  obtain ⟨ds, -, rfl⟩ := Option.map_eq_some_iff.mp hcs
  rfl

/-- An object is read back from its bytes as from its text. -/
theorem decodeBody_object {es : Entries Value} {depth : Nat} (h : Portable depth (.dict es))
    {t : Text} (hw : write (.dict es) = .ok t) {bytes : List UInt8}
    (hb : Utf8.encode? t = some bytes) :
    Answer.decodeBody depth (.bytes bytes) = .ok (.dict es) := by
  obtain ⟨t', hw', hread, -⟩ := read_write h
  obtain rfl := Except.ok.inj (hw.symm.trans hw')
  rw [write] at hw
  obtain ⟨ts, -, hw⟩ := Except.bind_eq_ok_iff.mp hw
  cases hw
  rw [Answer.decodeBody, dropMark_object hb, Answer.decodeBytes, Utf8.decodeStrict_encode hb,
    Except.mapError_ok, Except.ok_bind_eq, readDecoded, hread]
  rfl

end Json

end TangleGateway
