import TangleGateway.Proofs.Json.Compact

/-! # Reading what was written

A value without floating point whose dictionaries repeat no name is written as a compact text of
it. So reading takes the text back to the value.
-/

namespace TangleGateway.Json

/--
A value that JSON carries as it is: null, a boolean, an integer that can be written, a text, or a
list or a dictionary of such values. Brackets nest at most to a depth.
-/
inductive Portable : Nat → Value → Prop where
  | null {depth : Nat} : Portable depth .null
  | bool {depth : Nat} (b : Bool) : Portable depth (.bool b)
  | int {depth : Nat} {i : Int} : Integer.Writable i → Portable depth (.int i)
  | text {depth : Nat} (t : Text) : Portable depth (.text t)
  | list {depth : Nat} {vs : List Value} :
      (∀ v ∈ vs, Portable depth v) → Portable (depth + 1) (.list vs)
  | dict {depth : Nat} {es : Entries Value} :
      es.names.Nodup → (∀ e ∈ es, Portable depth e.2) → Portable (depth + 1) (.dict es)

variable {depth : Nat} {rest : Text}

namespace Portable

theorem mono {v : Value} (h : Portable depth v) {depth' : Nat} (hd : depth ≤ depth') :
    Portable depth' v := by
  induction h generalizing depth' with
  | null => exact .null
  | bool b => exact .bool b
  | int hi => exact .int hi
  | text t => exact .text t
  | list _ ih =>
    obtain ⟨depth', rfl⟩ := Nat.exists_eq_add_of_le' hd
    exact .list fun v hv => ih v hv (Nat.le_add_left ..)
  | dict hn _ ih =>
    obtain ⟨depth', rfl⟩ := Nat.exists_eq_add_of_le' hd
    exact .dict hn fun e he => ih e he (Nat.le_add_left ..)

theorem nodup {es : Entries Value} (h : Portable depth (.dict es)) : es.names.Nodup := by
  cases h
  assumption

theorem of_mem_dict {es : Entries Value} (h : Portable depth (.dict es))
    {e : Text × Value} (he : e ∈ es) : ∃ inner, Portable inner e.2 := by
  cases h with
  | dict _ h => exact ⟨_, h e he⟩

theorem of_mem_list {vs : List Value} (h : Portable depth (.list vs)) {v : Value}
    (hv : v ∈ vs) : ∃ inner, Portable inner v := by
  cases h with
  | list h => exact ⟨_, h v hv⟩

end Portable

/-! ## Texts -/

theorem hexValue?_digitChar :
    ∀ d < 16, (CodePoint.scalar (Nat.digitChar d)).hexValue? = some d := by
  decide

theorem hexValue4?_hexDigits {n : Nat} (h : n < 65536) {a b c d : Char}
    (hd : Text.hexDigits 4 n = [a, b, c, d]) : hexValue4? a b c d = some n := by
  cases hd
  have digit (m : Nat) := hexValue?_digitChar (m % 16) (Nat.mod_lt m (by decide))
  simp only [hexValue4?, digit, Option.bind_eq_bind, Option.bind_some, Option.pure_def,
    Option.some.injEq]
  change ((n / 4096 % 16 * 16 + n / 256 % 16) * 16 + n / 16 % 16) * 16 + n / 1 % 16 = n
  omega

theorem readText_plain (opening : Nat) {c : CodePoint} (hq : c ≠ .scalar '"')
    (hb : c ≠ .scalar '\\') (hc : ¬ c.toNat < 0x20) (t : Text) :
    readText opening none (c :: t) = prepend [c] (readText opening none t) := by
  rw [readText, if_neg hc]
  · rfl
  · exact hq
  all_goals
    intros
    exact hb ‹_›

/-- Escaped or not, a code point is read back as long as the text goes on. -/
theorem readText_escaped (opening : Nat) (c : CodePoint) {t : Text} (ht : t ≠ []) :
    readText opening none (escaped c ++ t) = prepend [c] (readText opening none t) := by
  unfold escaped
  split
  · rfl
  · rfl
  · rfl
  · rfl
  · rfl
  · rfl
  · rfl
  · rename_i hq hb _ _ _ _ _
    split
    · rename_i hc
      have hx := hexValue4?_hexDigits (n := c.toNat) (by omega) rfl
      have high : c.isHighHalf = false := by
        simp only [CodePoint.isHighHalf, Bool.and_eq_false_iff, decide_eq_false_iff_not]
        omega
      change readText opening none (.scalar '\\' :: .scalar 'u' :: _ :: _ :: _ :: _ :: t) = _
      rw [readText.eq_6 _ _ _ _ _ _ _ hx ht, CodePoint.ofNat_toNat, high]
      rfl
    · rename_i hc
      exact readText_plain opening hq hb hc t

theorem readText_written (opening : Nat) (s rest : Text) :
    readText opening none (s.flatMap escaped ++ .scalar '"' :: rest) = .ok (s, rest) := by
  induction s with
  | nil => rfl
  | cons c s ih =>
    have more : s.flatMap escaped ++ .scalar '"' :: rest ≠ [] := by simp
    rw [List.flatMap_cons, List.append_assoc, readText_escaped opening c more, ih]
    rfl

theorem quotes_escaped (s : Text) : Quotes (s.flatMap escaped) s :=
  fun opening rest => readText_written opening s rest

/-! ## Values -/

theorem writeInteger_of_writable {i : Int} (h : Integer.Writable i) :
    writeInteger i = .ok (Integer.text i) := by
  rw [writeInteger, Integer.text?_of_writable h]

/-- A value with what is written of it, a compact text. -/
def WritesCompact (depth : Nat) (v : Value) (t : Text) : Prop :=
  write v = .ok t ∧ Compact depth v t

theorem writeItems_compact {vs : List Value} (h : ∀ v ∈ vs, ∃ t, WritesCompact depth v t) :
    ∃ ps : List (Value × Text), vs = ps.map Prod.fst ∧ (∀ p ∈ ps, Compact depth p.1 p.2) ∧
      writeItems vs = .ok (ps.map Prod.snd) := by
  induction vs with
  | nil => exact ⟨[], rfl, nofun, by rw [writeItems]; rfl⟩
  | cons v vs ih =>
    obtain ⟨t, hw, hc⟩ := h v List.mem_cons_self
    obtain ⟨ps, rfl, hps, hws⟩ := ih fun u hu => h u (List.mem_cons_of_mem _ hu)
    refine ⟨(v, t) :: ps, rfl, List.forall_mem_cons.mpr ⟨hc, hps⟩, ?_⟩
    rw [writeItems, hw, hws]
    rfl

theorem writeMembers_compact {es : Entries Value}
    (h : ∀ e ∈ es, ∃ t, WritesCompact depth e.2 t) :
    ∃ ms : List Member, es = ms.map Member.entry ∧ (∀ m ∈ ms, Quotes m.spelling m.name) ∧
      (∀ m ∈ ms, Compact depth m.value m.text) ∧
      writeMembers es = .ok (ms.map Member.spelled) := by
  induction es with
  | nil => exact ⟨[], rfl, nofun, nofun, by rw [writeMembers]; rfl⟩
  | cons e es ih =>
    obtain ⟨k, v⟩ := e
    obtain ⟨t, hw, hc⟩ := h (k, v) List.mem_cons_self
    obtain ⟨ms, rfl, hq, hms, hws⟩ := ih fun e he => h e (List.mem_cons_of_mem _ he)
    refine ⟨⟨k, k.flatMap escaped, v, t⟩ :: ms, rfl,
      List.forall_mem_cons.mpr ⟨quotes_escaped k, hq⟩, List.forall_mem_cons.mpr ⟨hc, hms⟩, ?_⟩
    rw [writeMembers, hw, hws]
    rfl

theorem Portable.writesCompact {v : Value} (h : Portable depth v) :
    ∃ t, WritesCompact depth v t := by
  induction h with
  | null => exact ⟨"null", by rw [write], .null⟩
  | bool b =>
    cases b with
    | true => exact ⟨"true", by rw [write], .isTrue⟩
    | false => exact ⟨"false", by rw [write], .isFalse⟩
  | @int depth i hi =>
    exact ⟨Integer.text i, by rw [write, writeInteger_of_writable hi], .int hi⟩
  | text t => exact ⟨writeText t, by rw [write], .text (quotes_escaped t)⟩
  | list _ ih =>
    obtain ⟨ps, rfl, hps, hws⟩ := writeItems_compact ih
    exact ⟨_, by rw [write, hws]; rfl, .list hps⟩
  | dict hn _ ih =>
    obtain ⟨ms, rfl, hq, hms, hws⟩ := writeMembers_compact ih
    exact ⟨_, by rw [write, hws]; rfl, .dict hn hq hms⟩

/-! ## Whole texts -/

/-- A value that nests no deeper than brackets may is written, and its text is read back. -/
theorem read_write {v : Value} (h : Portable depth v) :
    ∃ t, write v = .ok t ∧ readDocument depth t = .ok v ∧ read depth t = .ok v := by
  obtain ⟨t, hw, hc⟩ := h.writesCompact
  have hdocument : readDocument depth t = .ok v := by
    have hread := hc.readDocument_append fun _ _ => delimited_nil
    rwa [List.append_nil] at hread
  refine ⟨t, hw, hdocument, ?_⟩
  rw [hc.readsBack.opens.read_eq, hdocument]
  rfl

end TangleGateway.Json
