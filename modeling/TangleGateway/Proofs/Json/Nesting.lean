import TangleGateway.Json.Reader
import TangleGateway.Proofs.Except

/-! # How deep brackets nest

A reader fails for depth only on a text whose brackets outside of texts reach that depth. The
scan of a text for brackets keeps a level; what a reader leaves reaches no deeper than what it was
given.
-/

namespace TangleGateway.Json

/-- Where a scan stands: outside of texts, within one, or after a backslash there. -/
inductive Scan where
  | outside
  | quoted
  | escaped

/-- The greatest level that brackets outside of texts reach, from a level on. -/
def deepest : Scan → Nat → Text → Nat
  | _, level, [] => level
  | .outside, level, c :: t =>
    if c = .scalar '"' then deepest .quoted level t
    else if c = .scalar '[' ∨ c = .scalar '{' then deepest .outside (level + 1) t
    else if c = .scalar ']' ∨ c = .scalar '}' then max level (deepest .outside (level - 1) t)
    else deepest .outside level t
  | .quoted, level, c :: t =>
    if c = .scalar '"' then deepest .outside level t
    else if c = .scalar '\\' then deepest .escaped level t
    else deepest .quoted level t
  | .escaped, level, _ :: t => deepest .quoted level t

def nesting (t : Text) : Nat :=
  deepest .outside 0 t

theorem le_deepest (s : Scan) (level : Nat) (t : Text) : level ≤ deepest s level t := by
  induction t generalizing s level with
  | nil => cases s <;> exact Nat.le_refl level
  | cons c t ih =>
    cases s with
    | outside =>
      rw [deepest]
      split
      · exact ih _ _
      · split
        · exact Nat.le_of_succ_le (ih _ _)
        · split
          · exact Nat.le_max_left _ _
          · exact ih _ _
    | quoted =>
      rw [deepest]
      split
      · exact ih _ _
      · split
        · exact ih _ _
        · exact ih _ _
    | escaped => exact ih _ _

/-! ## One code point -/

section Step

variable (level : Nat) (t : Text)

theorem deepest_opening {c : CodePoint} (h : c = .scalar '[' ∨ c = .scalar '{') :
    deepest .outside level (c :: t) = deepest .outside (level + 1) t := by
  rcases h with rfl | rfl <;> rfl

theorem deepest_closing {c : CodePoint} (h : c = .scalar ']' ∨ c = .scalar '}') :
    deepest .outside (level + 1) (c :: t) = max (level + 1) (deepest .outside level t) := by
  rcases h with rfl | rfl <;> rfl

def IsFlat (c : CodePoint) : Prop :=
  c ≠ .scalar '"' ∧ c ≠ .scalar '[' ∧ c ≠ .scalar '{' ∧ c ≠ .scalar ']' ∧ c ≠ .scalar '}'

instance (c : CodePoint) : Decidable (IsFlat c) :=
  inferInstanceAs (Decidable (_ ∧ _))

theorem deepest_flat {c : CodePoint} (h : IsFlat c) :
    deepest .outside level (c :: t) = deepest .outside level t := by
  obtain ⟨hq, ho, ho', hc, hc'⟩ := h
  rw [deepest, if_neg hq, if_neg (not_or.mpr ⟨ho, ho'⟩), if_neg (not_or.mpr ⟨hc, hc'⟩)]

theorem deepest_quoted {c : CodePoint} (hq : c ≠ .scalar '"') (hb : c ≠ .scalar '\\') :
    deepest .quoted level (c :: t) = deepest .quoted level t := by
  rw [deepest, if_neg hq, if_neg hb]

theorem deepest_escape (c : CodePoint) :
    deepest .quoted level (.scalar '\\' :: c :: t) = deepest .quoted level t :=
  rfl

theorem isFlat_of_isDigit {c : Char} (h : c.isDigit = true) : IsFlat (.scalar c) := by
  refine ⟨?_, ?_, ?_, ?_, ?_⟩ <;>
  · intro hc
    cases hc
    exact absurd h (by decide)

theorem isFlat_of_isBlank {c : CodePoint} (h : isBlank c = true) : IsFlat c := by
  simp only [isBlank, Bool.or_eq_true, decide_eq_true_eq] at h
  rcases h with ((rfl | rfl) | rfl) | rfl <;> decide

theorem deepest_skipBlank : deepest .outside level (skipBlank t) = deepest .outside level t := by
  unfold skipBlank
  induction t with
  | nil => rfl
  | cons c t ih =>
    rw [List.dropWhile_cons]
    split
    · rename_i h
      rw [ih, deepest_flat level t (isFlat_of_isBlank h)]
    · rfl

end Step

/-! ## Texts and numbers -/

variable {level : Nat} {t rest : Text}

theorem deepest_unicodeEscape {a b c d : CodePoint} {n : Nat} (h : hexValue4? a b c d = some n) :
    deepest .quoted level (.scalar '\\' :: .scalar 'u' :: a :: b :: c :: d :: t) =
      deepest .quoted level t := by
  have hex : ∀ {x : CodePoint} {m : Nat}, x.hexValue? = some m →
      ∀ t, deepest .quoted level (x :: t) = deepest .quoted level t := by
    intro x m hx t
    refine deepest_quoted level t ?_ ?_
    · rintro rfl
      cases hx
    · rintro rfl
      cases hx
  simp only [hexValue4?, Option.bind_eq_bind, Option.bind_eq_some_iff] at h
  obtain ⟨_, ha, _, hb, _, hc, _, hd, -⟩ := h
  rw [deepest_escape, hex ha, hex hb, hex hc, hex hd]

theorem prepend_eq_ok {cs s : Text} {r : Except Stop (Text × Text)}
    (h : prepend cs r = .ok (s, rest)) : ∃ s', r = .ok (s', rest) := by
  obtain ⟨⟨s', rest'⟩, hr, h⟩ := Except.map_eq_ok_iff.mp h
  cases h
  exact ⟨s', hr⟩

theorem readText_rest (level : Nat) {opening : Nat} {held : Option CodePoint} {s : Text}
    (h : readText opening held t = .ok (s, rest)) :
    deepest .outside level rest = deepest .quoted level t := by
  fun_induction readText opening held t generalizing s rest with
  | case1 | case3 | case4 | case10 | case11 | case13 | case14 => cases h
  | case2 =>
    cases h
    rfl
  | case5 | case6 | case7 | case9 =>
    rename_i ih
    have hn := ‹hexValue4? _ _ _ _ = some _›
    obtain ⟨s', hr⟩ := prepend_eq_ok h
    rw [deepest_unicodeEscape hn, ih hr]
  | case8 =>
    rename_i ih
    have hn := ‹hexValue4? _ _ _ _ = some _›
    rw [deepest_unicodeEscape hn, ih h]
  | case12 _ _ _ _ _ _ _ ih =>
    obtain ⟨s', hr⟩ := prepend_eq_ok h
    rw [deepest_escape, ih hr]
  | case15 _ c t hq _ _ hend hmore _ ih =>
    have hb : c ≠ .scalar '\\' := by
      intro hb
      cases t with
      | nil => exact hend hb rfl
      | cons d t => exact hmore d t hb rfl
    obtain ⟨s', hr⟩ := prepend_eq_ok h
    rw [deepest_quoted level t hq hb, ih hr]

theorem readText_ne_nestedTooDeep {opening : Nat} {held : Option CodePoint} {b : Bracket} :
    readText opening held t ≠ .error (.nestedTooDeep b) := by
  fun_induction readText opening held t with
  | case1 | case2 | case3 | case4 | case10 | case11 | case13 | case14 => exact nofun
  | case8 =>
    rename_i ih
    exact ih
  | case5 | case6 | case7 | case9 | case12 | case15 =>
    rename_i ih
    intro h
    exact ih (Except.map_eq_error_iff.mp h)

theorem deepest_spanDigits (level : Nat) (t : Text) :
    deepest .outside level (spanDigits t).2 = deepest .outside level t := by
  fun_induction spanDigits t with
  | case1 c rest hd ds rest' hr ih =>
    rw [hr] at ih
    rw [ih, deepest_flat level rest (isFlat_of_isDigit hd)]
  | case2 => rfl
  | case3 => rfl

theorem deepest_readWhole (level : Nat) (t : Text) :
    deepest .outside level (readWhole t).2 = deepest .outside level t := by
  unfold readWhole
  split
  · exact (deepest_flat level _ (by decide)).symm
  · exact deepest_spanDigits level _

theorem deepest_readFraction (level : Nat) (t : Text) :
    deepest .outside level (readFraction t).2 = deepest .outside level t := by
  unfold readFraction
  split
  · rename_i rest
    split
    · rfl
    · rw [deepest_spanDigits, deepest_flat level rest (by decide)]
  · rfl

theorem isFlat_of_exponent {c : Char} (h : c = 'e' ∨ c = 'E') : IsFlat (.scalar c) := by
  rcases h with rfl | rfl <;> decide

theorem deepest_readExponent (level : Nat) (t : Text) :
    deepest .outside level (readExponent t).2 = deepest .outside level t := by
  unfold readExponent
  split
  · rename_i e rest
    split
    · rename_i he
      rw [deepest_flat level rest (isFlat_of_exponent he)]
      split
      rename_i negative digits hs
      have hd : deepest .outside level digits = deepest .outside level rest := by
        split at hs
        · cases hs
          exact (deepest_flat level _ (by decide)).symm
        · cases hs
          exact (deepest_flat level _ (by decide)).symm
        · cases hs
          rfl
      split
      · exact deepest_flat level rest (isFlat_of_exponent he)
      · rename_i ds rest' _ hr
        have hr' := deepest_spanDigits level digits
        rw [hr] at hr'
        exact hr'.trans hd
    · rfl
  · rfl

theorem readNumber_rest (level : Nat) {v : Value} (h : readNumber t = .ok (v, rest)) :
    deepest .outside level rest = deepest .outside level t := by
  unfold readNumber at h
  split at h
  rename_i negative unsigned hs
  have hu : deepest .outside level unsigned = deepest .outside level t := by
    split at hs
    · cases hs
      exact (deepest_flat level _ (by decide)).symm
    · cases hs
      rfl
  have hw := deepest_readWhole level unsigned
  split at h
  · cases h
  · rename_i whole rest₁ _ hr
    rw [hr] at hw
    have hf := deepest_readFraction level rest₁
    split at h
    rename_i fraction rest₂ hr'
    rw [hr'] at hf
    have he := deepest_readExponent level rest₂
    split at h
    · split at h
      · cases h
      · cases h
        exact hf.trans (hw.trans hu)
    · rename_i hr''
      cases h
      rw [hr''] at he
      exact he.trans (hf.trans (hw.trans hu))

theorem readNumber_ne_nestedTooDeep {b : Bracket} : readNumber t ≠ .error (.nestedTooDeep b) := by
  unfold readNumber
  intro h
  split at h
  split at h
  · cases h
  · split at h
    split at h
    · split at h
      · cases h
      · cases h
    · cases h

/-! ## Readers -/

/--
What a reader made of a text, taking brackets from one level to another: the code points left reach
no deeper than the text did, and a failure for depth shows that the text reaches beyond a limit.
-/
structure Confined {α : Type} (before after limit : Nat) (t : Text)
    (r : Except Stop (α × Text)) : Prop where
  left {a : α} {rest : Text} : r = .ok (a, rest) →
    deepest .outside after rest ≤ deepest .outside before t
  tooDeep {b : Bracket} : r = .error (.nestedTooDeep b) → limit < deepest .outside before t

namespace Confined

variable {α β : Type} {before between after limit : Nat} {t' : Text}

theorem ok {a : α} (h : deepest .outside after rest ≤ deepest .outside before t) :
    Confined before after limit t (.ok (a, rest)) where
  left hr := by
    cases hr
    exact h
  tooDeep := nofun

theorem fail {p : Problem} :
    Confined before after limit t (fail p rest : Except Stop (α × Text)) :=
  ⟨nofun, nofun⟩

theorem bind {r : Except Stop (α × Text)} {next : α × Text → Except Stop (β × Text)}
    (hr : Confined before between limit t r)
    (hn : ∀ a rest, Confined between after limit rest (next (a, rest))) :
    Confined before after limit t (r >>= next) where
  left h := by
    obtain ⟨⟨a, rest⟩, ha, h⟩ := Except.bind_eq_ok_iff.mp h
    exact Nat.le_trans ((hn a rest).left h) (hr.left ha)
  tooDeep h := by
    rcases Except.bind_eq_error_iff.mp h with h | ⟨⟨a, rest⟩, ha, h⟩
    · exact hr.tooDeep h
    · exact Nat.lt_of_lt_of_le ((hn a rest).tooDeep h) (hr.left ha)

theorem of_le {r : Except Stop (α × Text)} (hr : Confined before after limit t' r)
    (h : deepest .outside before t' ≤ deepest .outside before t) :
    Confined before after limit t r where
  left ha := Nat.le_trans (hr.left ha) h
  tooDeep hb := Nat.lt_of_lt_of_le (hr.tooDeep hb) h

theorem opened {c : CodePoint} {r : Except Stop (α × Text)}
    (h : c = .scalar '[' ∨ c = .scalar '{') (hr : Confined (level + 1) after limit t r) :
    Confined level after limit (c :: t) r where
  left ha := by
    rw [deepest_opening level t h]
    exact hr.left ha
  tooDeep hb := by
    rw [deepest_opening level t h]
    exact hr.tooDeep hb

end Confined

theorem readText_confined (level limit opening : Nat) (held : Option CodePoint) (t : Text) :
    Confined level level limit (.scalar '"' :: t) (readText opening held t) where
  left h := Nat.le_of_eq (readText_rest level h)
  tooDeep h := absurd h readText_ne_nestedTooDeep

theorem readNumber_confined (level limit : Nat) (t : Text) :
    Confined level level limit t (readNumber t) where
  left h := Nat.le_of_eq (readNumber_rest level h)
  tooDeep h := absurd h readNumber_ne_nestedTooDeep

theorem readScalar_confined (level limit : Nat) (t : Text) :
    Confined level level limit t (readScalar t) := by
  fun_cases readScalar t with
  | case1 rest =>
    exact (readText_confined level limit _ none rest).bind fun _ _ => .ok (Nat.le_refl _)
  | case8 => exact readNumber_confined level limit t
  | _ => exact .ok (Nat.le_refl _)

section Containers

variable {item : ValueReader} {limit : Nat}

theorem le_deepest_closing {c : CodePoint} (h : c = .scalar ']' ∨ c = .scalar '}') :
    deepest .outside level t ≤ deepest .outside (level + 1) (c :: t) := by
  rw [deepest_closing level t h]
  exact Nat.le_max_right _ _

theorem deepest_separated {c : CodePoint} (h : IsFlat c) (hr : skipBlank t = c :: rest) :
    deepest .outside level (skipBlank rest) = deepest .outside level t := by
  rw [deepest_skipBlank, ← deepest_flat level rest h, ← hr, deepest_skipBlank]

theorem deepest_closed {c : CodePoint} (h : c = .scalar ']' ∨ c = .scalar '}')
    (hr : skipBlank t = c :: rest) :
    deepest .outside level rest ≤ deepest .outside (level + 1) t := by
  rw [← deepest_skipBlank (level + 1) t, hr]
  exact le_deepest_closing h

theorem readItems_confined (hi : ∀ t, Confined (level + 1) (level + 1) limit t (item t))
    (clock : Nat) (t : Text) :
    Confined (level + 1) level limit t (readItems item clock t) := by
  induction clock generalizing t with
  | zero => exact .fail
  | succ clock ih =>
    refine (hi t).bind fun v rest => ?_
    dsimp only
    split
    · rename_i hr
      exact .ok (deepest_closed (.inl rfl) hr)
    · rename_i hr
      refine .of_le (.bind (ih _) fun _ _ => .ok (Nat.le_refl _)) ?_
      exact Nat.le_of_eq (deepest_separated (by decide) hr)
    · exact .fail

theorem readMembers_confined (hi : ∀ t, Confined (level + 1) (level + 1) limit t (item t))
    (clock : Nat) (t : Text) :
    Confined (level + 1) level limit t (readMembers item clock t) := by
  induction clock generalizing t with
  | zero => exact .fail
  | succ clock ih =>
    unfold readMembers
    split
    · refine (readText_confined _ _ _ _ _).bind fun name rest => ?_
      dsimp only
      split
      · rename_i hc
        refine .of_le (.bind (hi _) fun v rest' => ?_)
          (Nat.le_of_eq (deepest_separated (by decide) hc))
        dsimp only
        split
        · rename_i hr
          exact .ok (deepest_closed (.inr rfl) hr)
        · rename_i hr
          refine .of_le (.bind (ih _) fun _ _ => .ok (Nat.le_refl _)) ?_
          exact Nat.le_of_eq (deepest_separated (by decide) hr)
        · exact .fail
      · exact .fail
    · exact .fail

theorem readList_confined (hi : ∀ t, Confined (level + 1) (level + 1) limit t (item t))
    (t : Text) : Confined (level + 1) level limit t (readList item t) := by
  unfold readList
  split
  · rename_i hr
    exact .ok (deepest_closed (.inl rfl) hr)
  · refine .of_le (.bind (readItems_confined hi _ _) fun _ _ => .ok (Nat.le_refl _)) ?_
    exact Nat.le_of_eq (deepest_skipBlank _ t)

theorem readDict_confined (hi : ∀ t, Confined (level + 1) (level + 1) limit t (item t))
    (t : Text) : Confined (level + 1) level limit t (readDict item t) := by
  unfold readDict
  split
  · rename_i hr
    exact .ok (deepest_closed (.inr rfl) hr)
  · refine .of_le (.bind (readMembers_confined hi _ _) fun _ _ => .ok (Nat.le_refl _)) ?_
    exact Nat.le_of_eq (deepest_skipBlank _ t)

end Containers

/-- Each level of brackets that is left to a reader stands for one that is gone. -/
theorem readValue_confined (depth level : Nat) (t : Text) :
    Confined level level (level + depth) t (readValue depth t) := by
  induction depth using Nat.strongRecOn generalizing level t with
  | ind depth ih =>
    fun_cases readValue depth t with
    | case1 | case2 => exact ⟨nofun, fun _ => le_deepest .outside (level + 1) _⟩
    | case3 depth rest =>
      have hi := ih depth (Nat.lt_succ_self depth) (level + 1)
      rw [Nat.add_right_comm] at hi
      exact .opened (.inl rfl) (readList_confined hi rest)
    | case4 depth rest =>
      have hi := ih depth (Nat.lt_succ_self depth) (level + 1)
      rw [Nat.add_right_comm] at hi
      exact .opened (.inr rfl) (readDict_confined hi rest)
    | case5 => exact readScalar_confined level _ t

theorem readDocument_nestedTooDeep {b : Bracket}
    (h : readDocument depth t = .error (.nestedTooDeep b)) : depth < nesting t := by
  rcases Except.bind_eq_error_iff.mp h with h | ⟨⟨v, rest⟩, -, h⟩
  · have hd := (readValue_confined depth 0 (skipBlank t)).tooDeep h
    rwa [deepest_skipBlank, Nat.zero_add] at hd
  · dsimp only at h
    split at h <;> cases h

/-- A text whose brackets nest no deeper than they may is not refused for its depth. -/
theorem read_nestedTooDeep {b : Bracket} (h : read depth t = .error (.nestedTooDeep b)) :
    depth < nesting t := by
  obtain ⟨stop, hs, hb⟩ := Except.mapError_eq_error_iff.mp h
  cases stop with
  | nestedTooDeep b' =>
    unfold readUnmarked at hs
    split at hs
    · cases hs
    · exact readDocument_nestedTooDeep hs
  | problem | integerTooLong => cases hb

/-! ## Towers of brackets -/

theorem readList_of_item_error {item : ValueReader} {stop : Stop}
    (h : item (.scalar '[' :: t) = .error stop) :
    readList item (.scalar '[' :: t) = .error stop := by
  change ((item (.scalar '[' :: t) >>= _) >>= _) = _
  rw [h]
  rfl

theorem readValue_tower (depth : Nat) (rest : Text) :
    readValue depth (.scalar '[' :: (List.replicate depth (.scalar '[') ++ rest)) =
      .error (.nestedTooDeep .array) := by
  induction depth with
  | zero => rfl
  | succ depth ih =>
    rw [List.replicate_succ, List.cons_append]
    exact readList_of_item_error ih

theorem read_of_value_error {b : Bracket}
    (h : readValue depth (.scalar '[' :: t) = .error (.nestedTooDeep b)) :
    read depth (.scalar '[' :: t) = .error (.nestedTooDeep b) := by
  change Except.mapError _ (readValue depth (.scalar '[' :: t) >>= _) = _
  rw [h]
  rfl

/-- One bracket too many is refused, whatever comes after it. -/
theorem read_tower {n : Nat} (hn : depth < n) (rest : Text) :
    read depth (List.replicate n (.scalar '[') ++ rest) = .error (.nestedTooDeep .array) := by
  obtain ⟨k, rfl⟩ := Nat.exists_eq_add_of_le hn
  rw [← List.replicate_append_replicate, List.append_assoc, List.replicate_succ, List.cons_append]
  exact read_of_value_error (readValue_tower depth _)

end TangleGateway.Json
