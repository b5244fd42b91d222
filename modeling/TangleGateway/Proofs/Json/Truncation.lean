import Mathlib.Data.List.Infix
import Mathlib.Data.List.TakeWhile
import TangleGateway.Proofs.Json.RoundTrip

/-! # Texts that are cut

A compact text of a list or a dictionary is read only as a whole: the reader gets stuck in every
beginning of it. A value that is no list and no dictionary may be read from a beginning, as long
as all of it is read; a number without its last digits is one.
-/

namespace TangleGateway.Json

/-- The text is no JSON from some place on. -/
def Stuck {α : Type} (r : Except Stop α) : Prop :=
  ∃ p left, r = .error (.problem p left)

namespace Stuck

variable {α β : Type} {r : Except Stop α}

instance (r : Except Stop α) : Decidable (Stuck r) :=
  match r with
  | .error (.problem p left) => .isTrue ⟨p, left, rfl⟩
  | .error (.integerTooLong _) => .isFalse nofun
  | .error (.nestedTooDeep _) => .isFalse nofun
  | .ok _ => .isFalse nofun

theorem fail (p : Problem) (rest : Text) : Stuck (fail p rest : Except Stop α) :=
  ⟨p, rest.length, rfl⟩

theorem bind (h : Stuck r) (f : α → Except Stop β) : Stuck (r >>= f) := by
  obtain ⟨p, left, rfl⟩ := h
  exact ⟨p, left, rfl⟩

theorem map (h : Stuck r) (f : α → β) : Stuck (r.map f) := by
  obtain ⟨p, left, rfl⟩ := h
  exact ⟨p, left, rfl⟩

end Stuck

/-- A beginning of a text with a separator ends before the separator or holds it. -/
theorem prefix_append_cons {p s t : Text} {c : CodePoint} (h : p <+: s ++ c :: t) :
    p <+: s ∨ ∃ p', p = s ++ c :: p' ∧ p' <+: t := by
  rcases List.prefix_or_prefix_of_prefix h (List.prefix_append s (c :: t)) with hp | ⟨p', rfl⟩
  · exact .inl hp
  · rcases List.prefix_cons_iff.mp ((List.prefix_append_right_inj s).mp h) with rfl | ⟨u, rfl, hu⟩
    · exact .inl ⟨[], by simp⟩
    · exact .inr ⟨u, rfl, hu⟩

/-- A proper beginning of an enclosed text does not reach the closing sign. -/
theorem prefix_enclosed {p s : Text} {o c : CodePoint} (hp : p <+: o :: (s ++ [c]))
    (hne : p ≠ o :: (s ++ [c])) : p = [] ∨ ∃ p', p = o :: p' ∧ p' <+: s := by
  rcases List.prefix_cons_iff.mp hp with rfl | ⟨p, rfl, hps⟩
  · exact .inl rfl
  · rcases prefix_append_cons hps with hps | ⟨p', rfl, hnil⟩
    · exact .inr ⟨p, rfl, hps⟩
    · rw [List.prefix_nil.mp hnil] at hne
      exact absurd rfl hne

/-! ## Texts -/

section Texts

variable {opening : Nat} {held : Option CodePoint} {s t rest : Text}

theorem prepend_append {cs more : Text} {r r' : Except Stop (Text × Text)}
    (hr : ∀ {s rest : Text}, r = .ok (s, rest) → r' = .ok (s, rest ++ more))
    (h : prepend cs r = .ok (s, rest)) : prepend cs r' = .ok (s, rest ++ more) := by
  obtain ⟨⟨s', rest'⟩, hs, h⟩ := Except.map_eq_ok_iff.mp h
  cases h
  rw [hr hs]
  rfl

theorem readText_append (h : readText opening held t = .ok (s, rest)) (more : Text) :
    readText opening held (t ++ more) = .ok (s, rest ++ more) := by
  have goesOn {u : Text} (hu : u = [] → False) : u ++ more ≠ [] :=
    fun h => hu (List.append_eq_nil_iff.mp h).1
  fun_induction readText opening held t generalizing s rest with
  | case1 | case3 | case4 | case10 | case11 | case13 | case14 => cases h
  | case2 =>
    cases h
    rfl
  | case5 _ _ _ _ tail n hx =>
    rename_i hl hend ih
    simp only [List.cons_append]
    rw [readText.eq_5 _ _ _ _ _ _ _ _ hx (goesOn hend), if_pos hl]
    exact prepend_append ih h
  | case6 _ _ _ _ tail n hx =>
    rename_i hl hh hend ih
    simp only [List.cons_append]
    rw [readText.eq_5 _ _ _ _ _ _ _ _ hx (goesOn hend), if_neg hl, if_pos hh]
    exact prepend_append ih h
  | case7 _ _ _ _ tail n hx =>
    rename_i hl hh hend ih
    simp only [List.cons_append]
    rw [readText.eq_5 _ _ _ _ _ _ _ _ hx (goesOn hend), if_neg hl, if_neg hh]
    exact prepend_append ih h
  | case8 _ _ _ _ tail n hx =>
    rename_i hh hend ih
    simp only [List.cons_append]
    rw [readText.eq_6 _ _ _ _ _ _ _ hx (goesOn hend), if_pos hh]
    exact ih h
  | case9 _ _ _ _ tail n hx =>
    rename_i hh hend ih
    simp only [List.cons_append]
    rw [readText.eq_6 _ _ _ _ _ _ _ hx (goesOn hend), if_neg hh]
    exact prepend_append ih h
  | case12 held c tail _ hu _ he ih =>
    simp only [List.cons_append]
    rw [readText, he]
    · exact prepend_append ih h
    · exact fun _ _ _ _ _ hc _ => hu hc
    · exact hu
  | case15 held c tail hq _ _ hend hmore hc ih =>
    have hb : c ≠ .scalar '\\' := by
      intro hb
      cases tail with
      | nil => exact hend hb rfl
      | cons d tail => exact hmore d tail hb rfl
    simp only [List.cons_append]
    rw [readText, if_neg hc]
    · exact prepend_append ih h
    · exact hq
    all_goals
      intros
      exact hb ‹_›

theorem readText_ok_or_stuck (opening : Nat) (held : Option CodePoint) (t : Text) :
    (∃ s rest, readText opening held t = .ok (s, rest)) ∨ Stuck (readText opening held t) := by
  have prepended {cs : Text} {r : Except Stop (Text × Text)}
      (h : (∃ s rest, r = .ok (s, rest)) ∨ Stuck r) :
      (∃ s rest, prepend cs r = .ok (s, rest)) ∨ Stuck (prepend cs r) := by
    rcases h with ⟨s, rest, rfl⟩ | h
    · exact .inl ⟨_, _, rfl⟩
    · exact .inr (h.map _)
  fun_induction readText opening held t with
  | case1 | case3 | case4 | case10 | case11 | case13 | case14 => exact .inr ⟨_, _, rfl⟩
  | case2 => exact .inl ⟨_, _, rfl⟩
  | case8 =>
    rename_i ih
    exact ih
  | case5 | case6 | case7 | case9 | case12 | case15 =>
    rename_i ih
    exact prepended ih

theorem Quotes.stuck {q : Text} (h : Quotes q s) {p : Text} (hp : p <+: q) (opening : Nat) :
    Stuck (readText opening none p) := by
  obtain ⟨more, rfl⟩ := hp
  rcases readText_ok_or_stuck opening none p with ⟨s', rest, hr⟩ | hs
  · have hlong := readText_append hr (more ++ [.scalar '"'])
    rw [← List.append_assoc, h opening []] at hlong
    simp at hlong
  · exact hs

end Texts

/-! ## Values that are no list and no dictionary -/

variable {depth : Nat} {v : Value} {t p : Text}

/-- Every beginning of a text that is read as a value is read to its end. -/
def UsedUp (depth : Nat) (t : Text) : Prop :=
  ∀ p, p <+: t → Stuck (readValue depth p) ∨ ∃ v, readValue depth p = .ok (v, [])

theorem readValue_nil (depth : Nat) : Stuck (readValue depth []) := by
  cases depth <;> exact ⟨_, _, rfl⟩

theorem ReadsBack.read_all (h : ReadsBack depth v t) : readValue depth t = .ok (v, []) := by
  have hread := h.read fun _ _ => delimited_nil
  rwa [List.append_nil] at hread

theorem usedUp_of_stuck (h : ReadsBack depth v t)
    (hp : ∀ p, p <+: t → p ≠ t → Stuck (readValue depth p)) : UsedUp depth t := by
  intro p hpt
  by_cases heq : p = t
  · exact .inr ⟨v, heq ▸ h.read_all⟩
  · exact .inl (hp p hpt heq)

theorem usedUp_word {c : CodePoint} {s : Text} (hc : StartsScalar c)
    (h : ReadsBack depth v (c :: s)) (hs : ∀ p ∈ s.inits, p ≠ s → Stuck (readScalar (c :: p))) :
    UsedUp depth (c :: s) := by
  refine usedUp_of_stuck h fun p hp hne => ?_
  rcases List.prefix_cons_iff.mp hp with rfl | ⟨p, rfl, hps⟩
  · exact readValue_nil depth
  · rw [readValue_scalar hc]
    exact hs p ((List.mem_inits p s).mpr hps) fun heq => hne (heq ▸ rfl)

theorem usedUp_text {q s : Text} (hq : Quotes q s) (depth : Nat) : UsedUp depth (quoted q) := by
  refine usedUp_of_stuck (readsBack_text hq depth) fun p hp hne => ?_
  rcases prefix_enclosed hp hne with rfl | ⟨p, rfl, hpq⟩
  · exact readValue_nil depth
  · rw [readValue_scalar (by decide)]
    exact (hq.stuck hpq _).map _

theorem usedUp_int {i : Int} (hi : Integer.Writable i) (depth : Nat) :
    UsedUp depth (Integer.text i) := by
  intro p hp
  rcases Integer.prefix_text hi hp with rfl | rfl | ⟨j, hj, rfl⟩
  · exact .inl (readValue_nil depth)
  · rw [readValue_scalar (by decide)]
    exact .inl ⟨_, _, rfl⟩
  · exact .inr ⟨_, (readsBack_int hj depth).read_all⟩

/-! ## Lists and dictionaries -/

theorem Opens.of_isPrefix (h : Opens t) (hp : p <+: t) : p = [] ∨ Opens p := by
  obtain ⟨c, s, rfl, hc⟩ := h
  rcases List.prefix_cons_iff.mp hp with rfl | ⟨p, rfl, -⟩
  · exact .inl rfl
  · exact .inr ⟨c, p, rfl, hc⟩

theorem opens_of_prefix_commaSeparated {ts : List Text} (h : ∀ t ∈ ts, Opens t)
    (hp : p <+: commaSeparated ts) : p = [] ∨ Opens p := by
  cases ts with
  | nil => exact .inl (List.prefix_nil.mp hp)
  | cons t ts => exact (opens_commaSeparated (h t List.mem_cons_self) ts).of_isPrefix hp

theorem skipBlank_of_opens (h : p = [] ∨ Opens p) : skipBlank p = p := by
  rcases h with rfl | h
  · rfl
  · exact h.skipBlank

/-- A text of a value, of which no beginning is read and something left. -/
structure Whole (depth : Nat) (v : Value) (t : Text) : Prop extends ReadsBack depth v t where
  usedUp : UsedUp depth t

theorem Whole.stuck_readItems (h : Whole depth v t) (hp : p <+: t) (clock : Nat) :
    Stuck (readItems (readValue depth) clock p) := by
  cases clock with
  | zero => exact .fail _ _
  | succ clock =>
    rw [readItems]
    rcases h.usedUp p hp with hs | ⟨w, hw⟩
    · exact hs.bind _
    · rw [hw]
      exact .fail _ _

theorem stuck_readItems {ps : List (Value × Text)} (h : ∀ e ∈ ps, Whole depth e.1 e.2)
    (hp : p <+: commaSeparated (ps.map Prod.snd)) (clock : Nat) :
    Stuck (readItems (readValue depth) clock p) := by
  induction ps generalizing p clock with
  | nil =>
    rw [List.prefix_nil.mp hp]
    cases clock with
    | zero => exact .fail _ _
    | succ clock => exact (readValue_nil depth).bind _
  | cons e ps ih =>
    have he := h e List.mem_cons_self
    cases ps with
    | nil => exact he.stuck_readItems hp clock
    | cons e' ps =>
      rw [List.map_cons, commaSeparated_cons _ (by simp)] at hp
      rcases prefix_append_cons hp with hp | ⟨p, rfl, hps⟩
      · exact he.stuck_readItems hp clock
      · have hwhole : ∀ e ∈ e' :: ps, Whole depth e.1 e.2 :=
          fun e he => h e (List.mem_cons_of_mem _ he)
        have hopens := opens_of_prefix_commaSeparated
          (List.forall_mem_map.mpr fun e he => (hwhole e he).opens) hps
        cases clock with
        | zero => exact .fail _ _
        | succ clock =>
          rw [readItems, he.read fun _ _ => delimited_cons (by simp) _]
          change Stuck (readItems _ _ (skipBlank p) >>= _)
          rw [skipBlank_of_opens hopens]
          exact (ih hwhole hps clock).bind _

theorem stuck_list {ps : List (Value × Text)} (h : ∀ e ∈ ps, Whole depth e.1 e.2)
    (hp : p <+: .scalar '[' :: commaSeparated (ps.map Prod.snd) ++ [.scalar ']'])
    (hne : p ≠ .scalar '[' :: commaSeparated (ps.map Prod.snd) ++ [.scalar ']']) :
    Stuck (readValue (depth + 1) p) := by
  rcases prefix_enclosed hp hne with rfl | ⟨p, rfl, hps⟩
  · exact readValue_nil _
  · have hopens := opens_of_prefix_commaSeparated
      (List.forall_mem_map.mpr fun e he => (h e he).opens) hps
    rw [readValue, readList, skipBlank_of_opens hopens]
    split
    · rcases hopens with hopens | hopens
      · cases hopens
      · exact absurd rfl (hopens.ne_closing (.inl rfl) _)
    · exact (stuck_readItems h hps _).bind _

namespace Member

/-- A member with a text of its value, of which no beginning is read and something left. -/
structure Whole (depth : Nat) (m : Member) : Prop extends Member.ReadsBack depth m where
  usedUp : UsedUp depth m.text

theorem Whole.stuck_readMembers {m : Member} (h : m.Whole depth) (hp : p <+: m.spelled)
    (clock : Nat) : Stuck (readMembers (readValue depth) clock p) := by
  cases clock with
  | zero => exact .fail _ _
  | succ clock =>
    have htext : m.spelled =
        .scalar '"' :: (m.spelling ++ .scalar '"' :: .scalar ':' :: m.text) := by
      simp [Member.spelled, quoted]
    rw [htext] at hp
    rcases List.prefix_cons_iff.mp hp with rfl | ⟨p, rfl, hname⟩
    · exact .fail _ _
    rw [readMembers]
    rcases prefix_append_cons hname with hname | ⟨p, rfl, hcolon⟩
    · exact (h.name.stuck hname _).bind _
    rw [h.name, Except.ok_bind_eq]
    rcases List.prefix_cons_iff.mp hcolon with rfl | ⟨p, rfl, hvalue⟩
    · exact .fail _ _
    change Stuck (readValue depth (skipBlank p) >>= _)
    rw [skipBlank_of_opens (h.value.opens.of_isPrefix hvalue)]
    rcases h.usedUp p hvalue with hs | ⟨w, hw⟩
    · exact hs.bind _
    · rw [hw]
      exact .fail _ _

end Member

theorem stuck_readMembers {ms : List Member} (h : ∀ m ∈ ms, Member.Whole depth m)
    (hp : p <+: commaSeparated (ms.map Member.spelled)) (clock : Nat) :
    Stuck (readMembers (readValue depth) clock p) := by
  induction ms generalizing p clock with
  | nil =>
    rw [List.prefix_nil.mp hp]
    cases clock <;> exact .fail _ _
  | cons m ms ih =>
    have hm := h m List.mem_cons_self
    cases ms with
    | nil => exact hm.stuck_readMembers hp clock
    | cons m' ms =>
      rw [List.map_cons, commaSeparated_cons _ (by simp)] at hp
      rcases prefix_append_cons hp with hp | ⟨p, rfl, hms⟩
      · exact hm.stuck_readMembers hp clock
      · have hopens := opens_of_prefix_commaSeparated
          (List.forall_mem_map.mpr fun m (_ : m ∈ m' :: ms) => m.opens_spelled) hms
        cases clock with
        | zero => exact .fail _ _
        | succ clock =>
          rw [readMembers_member hm.toReadsBack _ (delimited_cons (by simp) _)]
          change Stuck (readMembers _ _ (skipBlank p) >>= _)
          rw [skipBlank_of_opens hopens]
          exact (ih (fun m hm => h m (List.mem_cons_of_mem _ hm)) hms clock).bind _

theorem stuck_dict {ms : List Member} (h : ∀ m ∈ ms, Member.Whole depth m)
    (hp : p <+: .scalar '{' :: commaSeparated (ms.map Member.spelled) ++ [.scalar '}'])
    (hne : p ≠ .scalar '{' :: commaSeparated (ms.map Member.spelled) ++ [.scalar '}']) :
    Stuck (readValue (depth + 1) p) := by
  rcases prefix_enclosed hp hne with rfl | ⟨p, rfl, hps⟩
  · exact readValue_nil _
  · have hopens := opens_of_prefix_commaSeparated
      (List.forall_mem_map.mpr fun m (_ : m ∈ ms) => m.opens_spelled) hps
    rw [readValue, readDict, skipBlank_of_opens hopens]
    split
    · rcases hopens with hopens | hopens
      · cases hopens
      · exact absurd rfl (hopens.ne_closing (.inr rfl) _)
    · exact (stuck_readMembers h hps _).bind _

/-! ## Compact texts -/

namespace Compact

theorem whole (h : Compact depth v t) : Whole depth v t := by
  refine ⟨h.readsBack, ?_⟩
  induction h with
  | null => exact usedUp_word (by decide) null.readsBack (by decide)
  | isTrue => exact usedUp_word (by decide) isTrue.readsBack (by decide)
  | isFalse => exact usedUp_word (by decide) isFalse.readsBack (by decide)
  | int hi => exact usedUp_int hi _
  | text hq => exact usedUp_text hq _
  | list h ih =>
    have hwhole := fun e he => Whole.mk (h e he).readsBack (ih e he)
    exact usedUp_of_stuck (list h).readsBack fun p hp hne => stuck_list hwhole hp hne
  | dict hn hq h ih =>
    have hwhole := fun m hm => Member.Whole.mk ⟨hq m hm, (h m hm).readsBack⟩ (ih m hm)
    exact usedUp_of_stuck (dict hn hq h).readsBack fun p hp hne => stuck_dict hwhole hp hne

/-- Nothing but the whole text of a dictionary is read. -/
theorem stuck {es : Entries Value} (h : Compact depth (.dict es) t) (hp : p <+: t) (hne : p ≠ t) :
    Stuck (readValue depth p) := by
  cases h with
  | dict _ hq h =>
    exact stuck_dict (fun m hm => ⟨⟨hq m hm, (h m hm).readsBack⟩, (h m hm).whole.usedUp⟩) hp hne

end Compact

/-! ## Whole texts -/

/-- Something is missing at the end of a text, or comes after it and is not all blank. -/
def Unwhole (t b : Text) : Prop :=
  (b <+: t ∧ b ≠ t) ∨ ∃ more, b = t ++ more ∧ ∃ c ∈ more, isBlank c = false

theorem Stuck.read_malformed {depth : Nat} {b : Text} (h : Stuck (readDocument depth b))
    (hb : b = [] ∨ Opens b) :
    ∃ problem place, read depth b = .error (.malformed problem place) := by
  obtain ⟨problem, left, h⟩ := h
  rcases hb with rfl | hb
  · cases depth <;> exact ⟨_, _, rfl⟩
  · exact ⟨problem, _, by rw [hb.read_eq, h]; rfl⟩

namespace Compact

variable {es : Entries Value} {b : Text}

theorem read_blanks (h : Compact depth (.dict es) t) {blanks : Text}
    (hb : ∀ c ∈ blanks, isBlank c = true) : read depth (t ++ blanks) = .ok (.dict es) := by
  have hskip : skipBlank blanks = [] := List.dropWhile_eq_nil_iff.mpr hb
  rw [(h.readsBack.opens.append blanks).read_eq, h.readDocument_append nofun, hskip]
  rfl

theorem read_unwhole (h : Compact depth (.dict es) t) (hb : Unwhole t b) :
    ∃ problem place, read depth b = .error (.malformed problem place) := by
  rcases hb with ⟨hcut, hne⟩ | ⟨more, rfl, c, hc, hblank⟩
  · have hopens := h.readsBack.opens.of_isPrefix hcut
    refine Stuck.read_malformed ?_ hopens
    rw [readDocument, skipBlank_of_opens hopens]
    exact (h.stuck hcut hne).bind _
  · refine Stuck.read_malformed ?_ (.inr (h.readsBack.opens.append more))
    have noInteger : ∀ i, Value.dict es = .int i → Delimited more := by
      rintro i ⟨⟩
    rw [h.readDocument_append noInteger]
    split
    · rename_i hskip
      have hall := List.dropWhile_eq_nil_iff.mp hskip c hc
      rw [hblank] at hall
      cases hall
    · exact .fail _ _

end Compact

end TangleGateway.Json
