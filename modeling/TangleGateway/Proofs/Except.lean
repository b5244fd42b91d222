/-! # Steps that may fail

A chain of steps gives a result exactly when each of them does, and fails as the first of them
that fails.
-/

namespace Except

variable {ε ε' α β : Type}

@[simp] theorem ok_bind_eq (a : α) (f : α → Except ε β) : (ok a >>= f) = f a := rfl

@[simp] theorem error_bind_eq (e : ε) (f : α → Except ε β) : (error e >>= f) = error e := rfl

@[simp] theorem map_ok_eq (f : α → β) (a : α) : (ok a : Except ε α).map f = ok (f a) := rfl

@[simp] theorem map_error_eq (f : α → β) (e : ε) : (error e : Except ε α).map f = error e := rfl

@[simp] theorem mapError_ok (f : ε → ε') (a : α) : (ok a : Except ε α).mapError f = ok a := rfl

@[simp] theorem mapError_error (f : ε → ε') (e : ε) :
    (error e : Except ε α).mapError f = error (f e) := rfl

theorem bind_eq_ok_iff {x : Except ε α} {f : α → Except ε β} {b : β} :
    (x >>= f) = ok b ↔ ∃ a, x = ok a ∧ f a = ok b := by
  cases x <;> simp

theorem exists_bind_eq_ok_iff {x : Except ε α} {f : α → Except ε β} :
    (∃ b, (x >>= f) = ok b) ↔ ∃ a, x = ok a ∧ ∃ b, f a = ok b := by
  cases x <;> simp

theorem exists_pure_eq_ok (b : β) : ∃ c, (pure b : Except ε β) = ok c :=
  ⟨b, rfl⟩

theorem exists_map_eq_ok_iff {x : Except ε α} {f : α → β} :
    (∃ b, x.map f = ok b) ↔ ∃ a, x = ok a := by
  cases x <;> simp

theorem bind_eq_error_iff {x : Except ε α} {f : α → Except ε β} {e : ε} :
    (x >>= f) = error e ↔ x = error e ∨ ∃ a, x = ok a ∧ f a = error e := by
  cases x <;> simp

theorem map_eq_ok_iff {x : Except ε α} {f : α → β} {b : β} :
    x.map f = ok b ↔ ∃ a, x = ok a ∧ f a = b := by
  cases x <;> simp

theorem map_eq_error_iff {x : Except ε α} {f : α → β} {e : ε} :
    x.map f = error e ↔ x = error e := by
  cases x <;> simp

theorem mapError_eq_ok_iff {x : Except ε α} {f : ε → ε'} {a : α} :
    x.mapError f = ok a ↔ x = ok a := by
  cases x <;> simp

theorem mapError_eq_error_iff {x : Except ε α} {f : ε → ε'} {e : ε'} :
    x.mapError f = error e ↔ ∃ d, x = error d ∧ f d = e := by
  cases x <;> simp

theorem mapM_eq_ok {f : α → Except ε β} {g : α → β} {xs : List α}
    (h : ∀ x ∈ xs, f x = ok (g x)) : xs.mapM f = ok (xs.map g) := by
  induction xs with
  | nil => rfl
  | cons x xs ih =>
    rw [List.mapM_cons, h x List.mem_cons_self,
      ih fun y hy => h y (List.mem_cons_of_mem _ hy)]
    rfl

theorem exists_mapM_eq_ok_iff {f : α → Except ε β} {xs : List α} :
    (∃ ys, xs.mapM f = ok ys) ↔ ∀ x ∈ xs, ∃ y, f x = ok y := by
  induction xs with
  | nil => exact iff_of_true ⟨[], rfl⟩ nofun
  | cons x xs ih =>
    rw [List.mapM_cons, exists_bind_eq_ok_iff, List.forall_mem_cons, ← ih]
    simp only [exists_bind_eq_ok_iff]
    constructor
    · rintro ⟨y, hy, ys, hys, -⟩
      exact ⟨⟨y, hy⟩, ys, hys⟩
    · rintro ⟨⟨y, hy⟩, ys, hys⟩
      exact ⟨y, hy, ys, hys, _, rfl⟩

theorem exists_of_mem_mapM {f : α → Except ε β} {xs : List α} {ys : List β}
    (h : xs.mapM f = ok ys) {y : β} (hy : y ∈ ys) : ∃ x ∈ xs, f x = ok y := by
  induction xs generalizing ys with
  | nil =>
    cases h
    cases hy
  | cons x xs ih =>
    rw [List.mapM_cons] at h
    obtain ⟨z, hz, h⟩ := bind_eq_ok_iff.mp h
    obtain ⟨zs, hzs, h⟩ := bind_eq_ok_iff.mp h
    cases h
    rcases List.mem_cons.mp hy with rfl | hy
    · exact ⟨x, List.mem_cons_self, hz⟩
    · obtain ⟨w, hw, hwy⟩ := ih hzs hy
      exact ⟨w, List.mem_cons_of_mem _ hw, hwy⟩

theorem exists_of_mapM_eq_error {f : α → Except ε β} {xs : List α} {e : ε}
    (h : xs.mapM f = error e) : ∃ x ∈ xs, f x = error e := by
  induction xs with
  | nil => cases h
  | cons x xs ih =>
    rw [List.mapM_cons] at h
    rcases bind_eq_error_iff.mp h with hx | ⟨y, -, h⟩
    · exact ⟨x, List.mem_cons_self, hx⟩
    · rcases bind_eq_error_iff.mp h with hxs | ⟨ys, -, h⟩
      · obtain ⟨w, hw, hwe⟩ := ih hxs
        exact ⟨w, List.mem_cons_of_mem _ hw, hwe⟩
      · cases h

/-- Where every failure is the same one, the place of the first does not show. -/
theorem mapM_eq_error {f : α → Except ε β} {e : ε} {xs : List α}
    (h : ∀ x ∈ xs, f x = error e ∨ ∃ b, f x = ok b) (hx : ∃ x ∈ xs, f x = error e) :
    xs.mapM f = error e := by
  induction xs with
  | nil =>
    obtain ⟨_, hx, -⟩ := hx
    cases hx
  | cons x xs ih =>
    rw [List.mapM_cons]
    rcases h x List.mem_cons_self with he | ⟨b, hb⟩
    · rw [he, error_bind_eq]
    · have hxs : ∃ y ∈ xs, f y = error e := by
        obtain ⟨y, hy, he⟩ := hx
        rcases List.mem_cons.mp hy with rfl | hy
        · rw [hb] at he
          cases he
        · exact ⟨y, hy, he⟩
      rw [hb, ok_bind_eq, ih (fun y hy => h y (List.mem_cons_of_mem _ hy)) hxs, error_bind_eq]

end Except
