import TangleGateway.Json.Writer
import TangleGateway.Proofs.Json.Nesting
import TangleGateway.Proofs.Number.Integer
import TangleGateway.Proofs.Value.Entries

/-! # Compact texts

A compact text of a value has no blanks between brackets and separators; its quoted texts may be
escaped in any way that is read back. The value is read from it, whatever comes after it. Only an
integer needs something after it that is no part of a number.
-/

namespace TangleGateway.Json

/-- What stands between two quotes is read as a text, whatever comes after the second one. -/
def Quotes (q s : Text) : Prop :=
  ∀ opening rest, readText opening none (q ++ .scalar '"' :: rest) = .ok (s, rest)

def quoted (q : Text) : Text :=
  .scalar '"' :: q ++ [.scalar '"']

/-- An entry of a dictionary with the text of its name, without the quotes, and of its value. -/
structure Member where
  name : Text
  spelling : Text
  value : Value
  text : Text

namespace Member

def entry (m : Member) : Text × Value :=
  (m.name, m.value)

def spelled (m : Member) : Text :=
  quoted m.spelling ++ .scalar ':' :: m.text

end Member

/-- A value of brackets that nest at most to a depth, and a compact text of it. -/
inductive Compact : Nat → Value → Text → Prop where
  | null {depth : Nat} : Compact depth .null "null"
  | isTrue {depth : Nat} : Compact depth (.bool true) "true"
  | isFalse {depth : Nat} : Compact depth (.bool false) "false"
  | int {depth : Nat} {i : Int} : Integer.Writable i → Compact depth (.int i) (Integer.text i)
  | text {depth : Nat} {q s : Text} : Quotes q s → Compact depth (.text s) (quoted q)
  | list {depth : Nat} {ps : List (Value × Text)} : (∀ p ∈ ps, Compact depth p.1 p.2) →
      Compact (depth + 1) (.list (ps.map Prod.fst))
        (.scalar '[' :: commaSeparated (ps.map Prod.snd) ++ [.scalar ']'])
  | dict {depth : Nat} {ms : List Member} : (Entries.names (ms.map Member.entry)).Nodup →
      (∀ m ∈ ms, Quotes m.spelling m.name) → (∀ m ∈ ms, Compact depth m.value m.text) →
      Compact (depth + 1) (.dict (ms.map Member.entry))
        (.scalar '{' :: commaSeparated (ms.map Member.spelled) ++ [.scalar '}'])

variable {depth : Nat} {rest : Text}

theorem Compact.mono {v : Value} {t : Text} (h : Compact depth v t) {depth' : Nat}
    (hd : depth ≤ depth') : Compact depth' v t := by
  induction h generalizing depth' with
  | null => exact .null
  | isTrue => exact .isTrue
  | isFalse => exact .isFalse
  | int hi => exact .int hi
  | text hq => exact .text hq
  | list _ ih =>
    obtain ⟨k, rfl⟩ := Nat.exists_eq_add_of_le' hd
    exact .list fun p hp => ih p hp (Nat.le_of_add_le_add_right hd)
  | dict hn hq _ ih =>
    obtain ⟨k, rfl⟩ := Nat.exists_eq_add_of_le' hd
    exact .dict hn hq fun m hm => ih m hm (Nat.le_of_add_le_add_right hd)

/-! ## Integers -/

/-- Nothing a number could go on with: the end, a separator, a closing bracket or a blank. -/
def Delimited (rest : Text) : Prop :=
  ∀ c t, rest = c :: t → c = .scalar ',' ∨ c = .scalar ']' ∨ c = .scalar '}' ∨ isBlank c = true

theorem delimited_nil : Delimited [] := nofun

theorem delimited_cons {c : CodePoint}
    (h : c = .scalar ',' ∨ c = .scalar ']' ∨ c = .scalar '}' ∨ isBlank c = true) (t : Text) :
    Delimited (c :: t) := by
  intro d s hd
  cases hd
  exact h

theorem isBlank_iff {c : CodePoint} : isBlank c = true ↔
    c = .scalar ' ' ∨ c = .scalar '\t' ∨ c = .scalar '\n' ∨ c = .scalar '\r' := by
  simp only [isBlank, Bool.or_eq_true, decide_eq_true_eq, or_assoc]

theorem delimited_cases {c : CodePoint} {t : Text} (h : Delimited (c :: t)) :
    c = .scalar ',' ∨ c = .scalar ']' ∨ c = .scalar '}' ∨
      c = .scalar ' ' ∨ c = .scalar '\t' ∨ c = .scalar '\n' ∨ c = .scalar '\r' := by
  rw [← isBlank_iff]
  exact h c t rfl

theorem spanDigits_digits {ds : List Char} (hd : ∀ c ∈ ds, c.isDigit = true)
    (hr : Delimited rest) : spanDigits (Text.ofChars ds ++ rest) = (ds, rest) := by
  induction ds with
  | nil =>
    cases rest with
    | nil => rfl
    | cons c t =>
      rcases delimited_cases hr with rfl | rfl | rfl | rfl | rfl | rfl | rfl <;> rfl
  | cons c ds ih =>
    have hs := ih fun d hd' => hd d (List.mem_cons_of_mem _ hd')
    change spanDigits (.scalar c :: (Text.ofChars ds ++ rest)) = _
    rw [spanDigits, if_pos (hd c List.mem_cons_self), hs]

theorem readWhole_digits (n : Nat) (hr : Delimited rest) :
    readWhole (Text.ofChars (Integer.digits n) ++ rest) = (Integer.digits n, rest) := by
  have hs := spanDigits_digits (fun c hc => Integer.isDigit_of_mem_digits (n := n) hc) hr
  obtain ⟨c, ds, hds, -, hz⟩ := Integer.digits_eq_cons n
  rw [hds] at hs ⊢
  by_cases hc : c = '0'
  · rw [hc, hz hc]
    rfl
  · rw [← hs]
    change readWhole (.scalar c :: (Text.ofChars ds ++ rest)) = _
    rw [readWhole]
    · rfl
    · intro r h
      cases h
      exact hc rfl

theorem readFraction_delimited (hr : Delimited rest) : readFraction rest = ([], rest) := by
  cases rest with
  | nil => rfl
  | cons c t => rcases delimited_cases hr with rfl | rfl | rfl | rfl | rfl | rfl | rfl <;> rfl

theorem readExponent_delimited (hr : Delimited rest) : readExponent rest = (none, rest) := by
  cases rest with
  | nil => rfl
  | cons c t => rcases delimited_cases hr with rfl | rfl | rfl | rfl | rfl | rfl | rfl <;> rfl

theorem readNumber_text {i : Int} (hi : Integer.Writable i) (hr : Delimited rest) :
    readNumber (Integer.text i ++ rest) = .ok (.int i, rest) := by
  obtain ⟨c, ds, hds, hc, -⟩ := Integer.digits_eq_cons i.natAbs
  have hw := readWhole_digits i.natAbs hr
  have hv := Integer.ofDigits_digits i.natAbs
  have hl : (Integer.digits i.natAbs).length ≤ Integer.maxDigits := hi
  unfold readNumber
  split
  rename_i negative unsigned hs
  have signed : negative = decide (i < 0) ∧
      unsigned = Text.ofChars (Integer.digits i.natAbs) ++ rest := by
    unfold Integer.text Integer.chars at hs
    by_cases hneg : i < 0
    · rw [if_pos hneg] at hs
      cases hs
      exact ⟨(decide_eq_true hneg).symm, rfl⟩
    · rw [if_neg hneg, hds] at hs
      split at hs
      · rename_i h
        cases h
        cases hc
      · cases hs
        exact ⟨(decide_eq_false hneg).symm, by rw [hds]⟩
  obtain ⟨rfl, rfl⟩ := signed
  rw [hds] at hw hv hl
  simp only [hds, hw, readFraction_delimited hr, readExponent_delimited hr, hv,
    if_neg (Nat.not_lt.mpr hl), decide_eq_true_eq]
  congr 3
  omega

/-! ## Values that are no list and no dictionary -/

/-- Neither a blank, nor a closing bracket, nor a byte order mark. -/
def StartsValue (c : CodePoint) : Prop :=
  isBlank c = false ∧ c ≠ .scalar ']' ∧ c ≠ .scalar '}' ∧ c ≠ .scalar '\uFEFF'

instance (c : CodePoint) : Decidable (StartsValue c) :=
  inferInstanceAs (Decidable (_ ∧ _))

def StartsScalar (c : CodePoint) : Prop :=
  StartsValue c ∧ c ≠ .scalar '[' ∧ c ≠ .scalar '{'

instance (c : CodePoint) : Decidable (StartsScalar c) :=
  inferInstanceAs (Decidable (_ ∧ _))

theorem startsScalar_of_isDigit {c : Char} (h : c.isDigit = true) : StartsScalar (.scalar c) := by
  have hne : ∀ b : Char, b.isDigit = false → CodePoint.scalar c ≠ .scalar b := by
    rintro b hb hc
    cases hc
    rw [h] at hb
    cases hb
  refine ⟨⟨?_, hne _ rfl, hne _ rfl, hne _ rfl⟩, hne _ rfl, hne _ rfl⟩
  simp [isBlank, hne ' ' rfl, hne '\t' rfl, hne '\n' rfl, hne '\r' rfl]

/-- A text that starts as a value does. -/
def Opens (t : Text) : Prop :=
  ∃ c s, t = c :: s ∧ StartsValue c

theorem Opens.append {t : Text} (h : Opens t) (s : Text) : Opens (t ++ s) := by
  obtain ⟨c, t, rfl, hc⟩ := h
  exact ⟨c, t ++ s, rfl, hc⟩

theorem Opens.length_pos {t : Text} (h : Opens t) : 0 < t.length := by
  obtain ⟨c, t, rfl, -⟩ := h
  exact Nat.succ_pos _

theorem Opens.skipBlank {t : Text} (h : Opens t) : skipBlank t = t := by
  obtain ⟨c, t, rfl, hb, -⟩ := h
  exact List.dropWhile_cons_of_neg (by simp [hb])

theorem Opens.ne_closing {t : Text} (h : Opens t) {c : CodePoint}
    (hc : c = .scalar ']' ∨ c = .scalar '}') (s : Text) : t ≠ c :: s := by
  obtain ⟨d, t, rfl, -, hlist, hdict, -⟩ := h
  rintro h
  cases h
  rcases hc with rfl | rfl
  · exact hlist rfl
  · exact hdict rfl

/-- A text of a value: it starts as values do, and the value is read from it. -/
structure ReadsBack (depth : Nat) (v : Value) (t : Text) : Prop where
  opens : Opens t
  read {rest : Text} : (∀ i, v = .int i → Delimited rest) →
    readValue depth (t ++ rest) = .ok (v, rest)

/-- A text of a value, which is read from it wherever nothing goes on with it. -/
structure Spells (depth : Nat) (v : Value) (t : Text) : Prop where
  opens : Opens t
  read {rest : Text} : Delimited rest → readValue depth (t ++ rest) = .ok (v, rest)

theorem ReadsBack.spells {v : Value} {t : Text} (h : ReadsBack depth v t) : Spells depth v t where
  opens := h.opens
  read hr := h.read fun _ _ => hr

theorem readValue_scalar {c : CodePoint} (hc : StartsScalar c) (depth : Nat) (s : Text) :
    readValue depth (c :: s) = readScalar (c :: s) := by
  obtain ⟨-, hl, hd⟩ := hc
  generalize ht : c :: s = t
  fun_cases readValue depth t with
  | case1 | case3 =>
    cases ht
    exact absurd rfl hl
  | case2 | case4 =>
    cases ht
    exact absurd rfl hd
  | case5 => rfl

theorem readsBack_scalar {v : Value} {c : CodePoint} {s : Text} (hc : StartsScalar c)
    (hr : ∀ rest, (∀ i, v = .int i → Delimited rest) →
      readScalar (c :: s ++ rest) = .ok (v, rest)) (depth : Nat) :
    ReadsBack depth v (c :: s) where
  opens := ⟨c, s, rfl, hc.1⟩
  read {rest} hrest := (readValue_scalar hc depth _).trans (hr rest hrest)

theorem readsBack_text {q s : Text} (hq : Quotes q s) (depth : Nat) :
    ReadsBack depth (.text s) (quoted q) := by
  refine readsBack_scalar (by decide) (fun rest _ => ?_) depth
  change (readText _ none (q ++ [.scalar '"'] ++ rest)).map _ = _
  rw [List.append_assoc, List.singleton_append, hq]
  rfl

theorem readScalar_digit {c : Char} (hc : c.isDigit = true) (t : Text) :
    readScalar (.scalar c :: t) = readNumber (.scalar c :: t) := by
  generalize hs : CodePoint.scalar c :: t = s
  fun_cases readScalar s with
  | case8 => rfl
  | _ =>
    cases hs
    cases hc

theorem readScalar_minus {c : Char} (hc : c.isDigit = true) (t : Text) :
    readScalar (.scalar '-' :: .scalar c :: t) = readNumber (.scalar '-' :: .scalar c :: t) := by
  generalize hs : CodePoint.scalar '-' :: .scalar c :: t = s
  fun_cases readScalar s with
  | case7 =>
    cases hs
    cases hc
  | case8 => rfl
  | _ => cases hs

theorem readsBack_int {i : Int} (hi : Integer.Writable i) (depth : Nat) :
    ReadsBack depth (.int i) (Integer.text i) := by
  have hr (rest : Text) (h : ∀ j, Value.int i = .int j → Delimited rest) :=
    readNumber_text hi (h i rfl)
  obtain ⟨c, ds, hds, hc, -⟩ := Integer.digits_eq_cons i.natAbs
  unfold Integer.text Integer.chars at hr ⊢
  split at hr
  · rename_i hneg
    rw [if_pos hneg]
    rw [hds] at hr ⊢
    refine readsBack_scalar (c := .scalar '-') (by decide) (fun rest h => ?_) depth
    exact (readScalar_minus hc _).trans (hr rest h)
  · rename_i hneg
    rw [if_neg hneg]
    rw [hds] at hr ⊢
    refine readsBack_scalar (startsScalar_of_isDigit hc) (fun rest h => ?_) depth
    exact (readScalar_digit hc _).trans (hr rest h)

/-! ## Lists and dictionaries -/

theorem commaSeparated_cons (t : Text) {ts : List Text} (h : ts ≠ []) :
    commaSeparated (t :: ts) = t ++ .scalar ',' :: commaSeparated ts := by
  rw [commaSeparated]
  exact h

theorem opens_commaSeparated {t : Text} (h : Opens t) (ts : List Text) :
    Opens (commaSeparated (t :: ts)) := by
  cases ts with
  | nil => exact h
  | cons u ts =>
    rw [commaSeparated_cons t (by simp)]
    exact h.append _

theorem length_le_commaSeparated {ts : List Text} (h : ∀ t ∈ ts, 0 < t.length) :
    ts.length ≤ (commaSeparated ts).length := by
  induction ts with
  | nil => exact Nat.zero_le _
  | cons t ts ih =>
    have hpos := h t List.mem_cons_self
    cases ts with
    | nil => exact hpos
    | cons u ts =>
      have hrest := ih fun t ht => h t (List.mem_cons_of_mem _ ht)
      rw [commaSeparated_cons t (by simp)]
      simp only [List.length_cons, List.length_append] at hrest ⊢
      omega

theorem readItems_commaSeparated {p : Value × Text} {ps : List (Value × Text)}
    (h : ∀ e ∈ p :: ps, ReadsBack depth e.1 e.2) (rest : Text) {clock : Nat}
    (hclock : ps.length < clock) :
    readItems (readValue depth) clock
        (commaSeparated (p.2 :: ps.map Prod.snd) ++ .scalar ']' :: rest) =
      .ok (p.1 :: ps.map Prod.fst, rest) := by
  induction ps generalizing p clock with
  | nil =>
    obtain ⟨k, rfl⟩ := Nat.exists_eq_add_of_lt hclock
    rw [readItems, List.map_nil, commaSeparated,
      (h p List.mem_cons_self).read fun _ _ => delimited_cons (by simp) rest]
    rfl
  | cons e ps ih =>
    obtain ⟨k, rfl⟩ := Nat.exists_eq_add_of_lt hclock
    have hps : ∀ e' ∈ e :: ps, ReadsBack depth e'.1 e'.2 :=
      fun e' he => h e' (List.mem_cons_of_mem _ he)
    have hopens := opens_commaSeparated (hps e List.mem_cons_self).opens (ps.map Prod.snd)
    rw [List.length_cons, readItems, List.map_cons, commaSeparated_cons _ (by simp),
      List.append_assoc, List.cons_append,
      (h p List.mem_cons_self).read fun _ _ => delimited_cons (by simp) _]
    change (readItems _ _ (skipBlank _) >>= _) = _
    rw [(hopens.append _).skipBlank, ih hps (by omega)]
    rfl

theorem readsBack_list {ps : List (Value × Text)} (h : ∀ p ∈ ps, ReadsBack depth p.1 p.2) :
    ReadsBack (depth + 1) (.list (ps.map Prod.fst))
      (.scalar '[' :: commaSeparated (ps.map Prod.snd) ++ [.scalar ']']) where
  opens := ⟨_, _, rfl, by decide⟩
  read {rest} _ := by
    cases ps with
    | nil => rfl
    | cons p ps =>
      have htext : .scalar '[' :: commaSeparated (p.2 :: ps.map Prod.snd) ++ [.scalar ']'] ++ rest =
          .scalar '[' :: (commaSeparated (p.2 :: ps.map Prod.snd) ++ .scalar ']' :: rest) := by simp
      have hopens := (opens_commaSeparated (h p List.mem_cons_self).opens
        (ps.map Prod.snd)).append (.scalar ']' :: rest)
      have hlength := length_le_commaSeparated
        (List.forall_mem_map.mpr fun e he => (h e he).opens.length_pos)
      simp only [List.length_cons, List.length_map, List.map_cons] at hlength
      rw [List.map_cons, htext, readValue, readList, hopens.skipBlank]
      split
      · rename_i hend
        exact absurd hend (hopens.ne_closing (.inl rfl) _)
      · rw [readItems_commaSeparated h rest (by rw [List.length_append]; omega)]
        rfl

namespace Member

theorem opens_spelled (m : Member) : Opens m.spelled :=
  ⟨.scalar '"', _, rfl, by decide⟩

/-- A member with a text that is read as its value, under a name that is read as its name. -/
structure ReadsBack (depth : Nat) (m : Member) : Prop where
  name : Quotes m.spelling m.name
  value : Json.ReadsBack depth m.value m.text

end Member

def Blank (b : Text) : Prop :=
  ∀ c ∈ b, isBlank c = true

instance (b : Text) : Decidable (Blank b) :=
  inferInstanceAs (Decidable (∀ c ∈ b, isBlank c = true))

theorem Blank.nil : Blank [] :=
  List.forall_mem_nil _

theorem Blank.skipBlank_append {b : Text} (h : Blank b) (t : Text) :
    skipBlank (b ++ t) = skipBlank t :=
  List.dropWhile_append_of_pos h

/-- An object after one of its entries: it ends there, or more members follow. -/
def readFurther (depth clock : Nat) (e : Text × Value) (t : Text) :
    Except Stop (List (Text × Value) × Text) :=
  match skipBlank t with
  | .scalar '}' :: rest => .ok ([e], rest)
  | .scalar ',' :: rest => do
    let (es, rest) ← readMembers (readValue depth) clock (skipBlank rest)
    return (e :: es, rest)
  | rest => fail .comma rest

/-- A name, a colon and a value, blanks between them, up to what comes after them. -/
theorem readMembers_padded {m : Member} (hq : Quotes m.spelling m.name)
    (hv : Spells depth m.value m.text) {b₁ b₂ : Text} (h₁ : Blank b₁) (h₂ : Blank b₂)
    (clock : Nat) {rest : Text} (hr : Delimited rest) :
    readMembers (readValue depth) (clock + 1)
        (quoted m.spelling ++ (b₁ ++ .scalar ':' :: (b₂ ++ (m.text ++ rest)))) =
      readFurther depth clock m.entry rest := by
  have htext : quoted m.spelling ++ (b₁ ++ .scalar ':' :: (b₂ ++ (m.text ++ rest))) =
      .scalar '"' ::
        (m.spelling ++ .scalar '"' :: (b₁ ++ .scalar ':' :: (b₂ ++ (m.text ++ rest)))) := by
    simp [quoted]
  have hcolon : skipBlank (b₁ ++ .scalar ':' :: (b₂ ++ (m.text ++ rest))) =
      .scalar ':' :: (b₂ ++ (m.text ++ rest)) := h₁.skipBlank_append _
  have hvalue : skipBlank (b₂ ++ (m.text ++ rest)) = m.text ++ rest := by
    rw [h₂.skipBlank_append, (hv.opens.append rest).skipBlank]
  rw [htext, readMembers]
  simp only [hq _ _, Except.ok_bind_eq, hcolon]
  change (readValue depth (skipBlank (b₂ ++ (m.text ++ rest))) >>= _) = _
  rw [hvalue, hv.read hr]
  rfl

theorem readMembers_member {m : Member} (hm : m.ReadsBack depth) (clock : Nat) {rest : Text}
    (hr : Delimited rest) :
    readMembers (readValue depth) (clock + 1) (m.spelled ++ rest) =
      readFurther depth clock m.entry rest := by
  have hpadded := readMembers_padded hm.name hm.value.spells .nil .nil clock hr
  rwa [List.nil_append, List.nil_append, ← List.cons_append, ← List.append_assoc] at hpadded

/-- A text that is read as an entry of a dictionary, after blanks if it starts with some. -/
structure ReadsEntry (depth : Nat) (e : Text × Value) (w : Text) : Prop where
  opens : Opens (skipBlank w)
  read (clock : Nat) {rest : Text} : Delimited rest →
    readMembers (readValue depth) (clock + 1) (skipBlank w ++ rest) =
      readFurther depth clock e rest

theorem Member.ReadsBack.readsEntry {m : Member} (h : m.ReadsBack depth) :
    ReadsEntry depth m.entry m.spelled := by
  have hskip := m.opens_spelled.skipBlank
  refine ⟨hskip.symm ▸ m.opens_spelled, fun clock rest hr => ?_⟩
  rw [hskip, readMembers_member h clock hr]

theorem skipBlank_append {w : Text} (h : Opens (skipBlank w)) (s : Text) :
    skipBlank (w ++ s) = skipBlank w ++ s := by
  have hne : (w.dropWhile isBlank).isEmpty = false := by
    rw [Bool.eq_false_iff, ne_eq, List.isEmpty_iff_length_eq_zero]
    exact Nat.pos_iff_ne_zero.mp h.length_pos
  rw [skipBlank, List.dropWhile_append, hne]
  rfl

theorem skipBlank_commaSeparated {w : Text} (h : Opens (skipBlank w)) (ws : List Text) (s : Text) :
    skipBlank (commaSeparated (w :: ws) ++ s) = commaSeparated (skipBlank w :: ws) ++ s := by
  cases ws with
  | nil => exact skipBlank_append h s
  | cons w' ws =>
    have hne : w' :: ws ≠ [] := by simp
    rw [commaSeparated_cons w hne, commaSeparated_cons (skipBlank w) hne, List.append_assoc,
      skipBlank_append h, List.append_assoc]

theorem readMembers_commaSeparated {p : (Text × Value) × Text} {ps : List ((Text × Value) × Text)}
    (h : ∀ q ∈ p :: ps, ReadsEntry depth q.1 q.2) (rest : Text) {clock : Nat}
    (hclock : ps.length < clock) :
    readMembers (readValue depth) clock
        (commaSeparated (skipBlank p.2 :: ps.map Prod.snd) ++ .scalar '}' :: rest) =
      .ok (p.1 :: ps.map Prod.fst, rest) := by
  induction ps generalizing p clock with
  | nil =>
    obtain ⟨k, rfl⟩ := Nat.exists_eq_add_of_lt hclock
    change readMembers _ (_ + 1) (skipBlank p.2 ++ .scalar '}' :: rest) = _
    rw [(h p List.mem_cons_self).read _ (delimited_cons (by simp) rest)]
    rfl
  | cons q ps ih =>
    obtain ⟨k, rfl⟩ := Nat.exists_eq_add_of_lt hclock
    have hps : ∀ e ∈ q :: ps, ReadsEntry depth e.1 e.2 :=
      fun e he => h e (List.mem_cons_of_mem _ he)
    rw [List.map_cons, commaSeparated_cons _ (by simp), List.append_assoc, List.cons_append]
    change readMembers _ (_ + 1) _ = _
    rw [(h p List.mem_cons_self).read _ (delimited_cons (by simp) _)]
    change (readMembers _ _ (skipBlank (commaSeparated (q.2 :: ps.map Prod.snd) ++ _)) >>= _) = _
    rw [skipBlank_commaSeparated (hps q List.mem_cons_self).opens, ih hps (by simp; omega)]
    rfl

theorem readsBack_entries {ps : List ((Text × Value) × Text)}
    (h : ∀ p ∈ ps, ReadsEntry depth p.1 p.2) :
    ReadsBack (depth + 1) (.dict (Entries.ofPairs (ps.map Prod.fst)))
      (.scalar '{' :: commaSeparated (ps.map Prod.snd) ++ [.scalar '}']) where
  opens := ⟨_, _, rfl, by decide⟩
  read {rest} _ := by
    cases ps with
    | nil => rfl
    | cons p ps =>
      have htext : .scalar '{' :: commaSeparated (p.2 :: ps.map Prod.snd) ++ [.scalar '}'] ++ rest =
          .scalar '{' :: (commaSeparated (p.2 :: ps.map Prod.snd) ++ .scalar '}' :: rest) := by simp
      have hp := (h p List.mem_cons_self).opens
      have hopens := (opens_commaSeparated hp (ps.map Prod.snd)).append (.scalar '}' :: rest)
      have hpositive : ∀ w ∈ skipBlank p.2 :: ps.map Prod.snd, 0 < w.length := by
        refine List.forall_mem_cons.mpr ⟨hp.length_pos, List.forall_mem_map.mpr fun q hq => ?_⟩
        exact Nat.lt_of_lt_of_le (h q (List.mem_cons_of_mem _ hq)).opens.length_pos
          (List.dropWhile_sublist _).length_le
      have hlength := length_le_commaSeparated hpositive
      simp only [List.length_cons, List.length_map] at hlength
      rw [List.map_cons, htext, readValue, readDict, skipBlank_commaSeparated hp]
      split
      · rename_i hend
        exact absurd hend (hopens.ne_closing (.inr rfl) _)
      · rw [readMembers_commaSeparated h rest (by rw [List.length_append]; omega)]
        rfl

theorem readsBack_dict {ms : List Member} (hn : (Entries.names (ms.map Member.entry)).Nodup)
    (h : ∀ m ∈ ms, Member.ReadsBack depth m) :
    ReadsBack (depth + 1) (.dict (ms.map Member.entry))
      (.scalar '{' :: commaSeparated (ms.map Member.spelled) ++ [.scalar '}']) := by
  have hentries := @readsBack_entries depth (ms.map fun m => (m.entry, m.spelled))
    (List.forall_mem_map.mpr fun m hm => (h m hm).readsEntry)
  simp only [List.map_map, Function.comp_def] at hentries
  rwa [Entries.ofPairs_of_nodup hn] at hentries

/-- A compact text starts as values do, and its value is read from it. -/
theorem Compact.readsBack {v : Value} {t : Text} (h : Compact depth v t) :
    ReadsBack depth v t := by
  induction h with
  | null => exact readsBack_scalar (by decide) (fun _ _ => rfl) _
  | isTrue => exact readsBack_scalar (by decide) (fun _ _ => rfl) _
  | isFalse => exact readsBack_scalar (by decide) (fun _ _ => rfl) _
  | int hi => exact readsBack_int hi _
  | text hq => exact readsBack_text hq _
  | list _ ih => exact readsBack_list ih
  | dict hn hq _ ih => exact readsBack_dict hn fun m hm => ⟨hq m hm, ih m hm⟩

/-! ## Whole texts -/

theorem Compact.readDocument_append {v : Value} {t : Text} (h : Compact depth v t)
    (hd : ∀ i, v = .int i → Delimited rest) :
    readDocument depth (t ++ rest) =
      match skipBlank rest with
      | [] => .ok v
      | rest => fail .extraData rest := by
  rw [readDocument, (h.readsBack.opens.append rest).skipBlank, h.readsBack.read hd]
  rfl

theorem Opens.read_eq {t : Text} (h : Opens t) :
    read depth t = (readDocument depth t).mapError (Stop.located t) := by
  obtain ⟨c, s, rfl, -, -, -, hmark⟩ := h
  rw [read, readUnmarked]
  intro s' hs
  cases hs
  exact hmark rfl

end TangleGateway.Json
