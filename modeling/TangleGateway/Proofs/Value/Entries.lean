import Mathlib.Data.List.Nodup
import TangleGateway.Value.Entries

/-! # Looking up entries

Entries without a repeated name are found wherever they stand, in any order, and putting them one
after the other changes nothing. Of entries that are put into others the last one of a name wins,
and a new name comes after the names before it. Where names may lack a value, the entries that have
one say which names lack it.
-/

namespace TangleGateway.Entries

variable {β : Type} {es : Entries β} {name : Text} {value : β}

theorem names_cons (e : Text × β) (es : Entries β) : names (e :: es) = e.1 :: es.names := rfl

theorem putAll_cons (es : Entries β) (e : Text × β) (more : Entries β) :
    es.putAll (e :: more) = (es.put e.1 e.2).putAll more := rfl

theorem put_of_notMem (h : name ∉ es.names) : es.put name value = es ++ [(name, value)] := by
  induction es with
  | nil => rfl
  | cons e es ih =>
    obtain ⟨k, v⟩ := e
    simp only [names, List.map_cons, List.mem_cons, not_or] at h
    rw [put, if_neg (fun hk => h.1 hk.symm), ih h.2]
    rfl

theorem putAll_of_nodup {more : Entries β} (h : (names (es ++ more)).Nodup) :
    es.putAll more = es ++ more := by
  induction more generalizing es with
  | nil => exact (List.append_nil es).symm
  | cons e more ih =>
    obtain ⟨k, v⟩ := e
    have fresh : k ∉ es.names := by
      intro hk
      rw [names, List.map_append] at h
      exact (List.nodup_append.mp h).2.2 k hk k List.mem_cons_self rfl
    rw [putAll_cons, put_of_notMem fresh, ih (by rwa [List.append_assoc]), List.append_assoc]
    rfl

theorem ofPairs_of_nodup (h : es.names.Nodup) : ofPairs es = es := by
  have hfresh : (names ([] ++ es)).Nodup := h
  exact putAll_of_nodup hfresh

theorem get?_of_mem (hn : es.names.Nodup) (h : (name, value) ∈ es) :
    es.get? name = some value := by
  induction es with
  | nil => cases h
  | cons e es ih =>
    obtain ⟨k, v⟩ := e
    obtain ⟨hk, hn⟩ := List.nodup_cons.mp hn
    rw [get?]
    rcases List.mem_cons.mp h with he | he
    · cases he
      exact if_pos rfl
    · have hne : k ≠ name := by
        rintro rfl
        exact hk (List.mem_map.mpr ⟨_, he, rfl⟩)
      rw [if_neg hne, ih hn he]

theorem get?_of_notMem (h : name ∉ es.names) : es.get? name = none := by
  induction es with
  | nil => rfl
  | cons e es ih =>
    obtain ⟨k, v⟩ := e
    simp only [names, List.map_cons, List.mem_cons, not_or] at h
    rw [get?, if_neg (fun hk => h.1 hk.symm), ih h.2]

theorem mem_of_get? (h : es.get? name = some value) : (name, value) ∈ es := by
  induction es with
  | nil => cases h
  | cons e es ih =>
    obtain ⟨k, v⟩ := e
    rw [get?] at h
    split at h
    case isTrue hk =>
      cases h
      exact hk ▸ List.mem_cons_self
    case isFalse => exact List.mem_cons_of_mem _ (ih h)

theorem get?_perm {es' : Entries β} (hp : es.Perm es') (hn : es.names.Nodup) (name : Text) :
    es.get? name = es'.get? name := by
  have hn' : es'.names.Nodup := (hp.map Prod.fst).nodup_iff.mp hn
  refine Option.ext fun value => ⟨fun h => ?_, fun h => ?_⟩
  · exact get?_of_mem hn' (hp.mem_iff.mp (mem_of_get? h))
  · exact get?_of_mem hn (hp.mem_iff.mpr (mem_of_get? h))

theorem get?_append (es more : Entries β) (name : Text) :
    get? name (es ++ more) = (es.get? name).or (more.get? name) := by
  induction es with
  | nil => rfl
  | cons e es ih =>
    obtain ⟨k, v⟩ := e
    rw [List.cons_append, get?, get?, ih]
    split <;> rfl

/-! ## One after the other -/

theorem mem_names_put {other : Text} :
    other ∈ (es.put name value).names ↔ other ∈ es.names ∨ other = name := by
  rw [names_put]
  split
  case isTrue h =>
    constructor
    · exact .inl
    · rintro (ho | rfl)
      · exact ho
      · exact h
  case isFalse => rw [List.mem_append, List.mem_singleton]

theorem mem_names_putAll {more : Entries β} :
    name ∈ (es.putAll more).names ↔ name ∈ es.names ∨ name ∈ more.names := by
  induction more generalizing es with
  | nil => simp [putAll, names]
  | cons e more ih =>
    rw [putAll_cons, ih, mem_names_put, names_cons, List.mem_cons, or_assoc]

theorem get?_putAll_reverse (es more : Entries β) (name : Text) :
    (es.putAll more).get? name = (get? name more.reverse).or (es.get? name) := by
  induction more generalizing es with
  | nil => rfl
  | cons e more ih =>
    obtain ⟨k, v⟩ := e
    rw [putAll_cons, ih, get?_put, List.reverse_cons, get?_append, Option.or_assoc, get?]
    by_cases hname : name = k
    · rw [if_pos hname, if_pos hname.symm]
      rfl
    · rw [if_neg hname, if_neg (Ne.symm hname)]
      rfl

theorem get?_putAll {more : Entries β} (hn : more.names.Nodup) (name : Text) :
    (es.putAll more).get? name = (more.get? name).or (es.get? name) := by
  rw [get?_putAll_reverse, get?_perm (List.reverse_perm more).symm hn]

theorem get?_ofPairs (pairs : Entries β) (name : Text) :
    (ofPairs pairs).get? name = get? name pairs.reverse := by
  rw [ofPairs, get?_putAll_reverse]
  exact Option.or_none

/-- New names come after the old ones, each where it stands first. -/
theorem names_putAll (es more : Entries β) :
    (es.putAll more).names =
      es.names ++ (more.names.filter fun name => name ∉ es.names).eraseDups := by
  induction more generalizing es with
  | nil => exact (List.append_nil _).symm
  | cons e more ih =>
    obtain ⟨k, v⟩ := e
    rw [putAll_cons, ih, names_put, names_cons]
    by_cases hk : k ∈ es.names
    · rw [if_pos hk, List.filter_cons_of_neg (by simpa using hk)]
    · rw [if_neg hk, List.filter_cons_of_pos (by simpa using hk), List.eraseDups_cons,
        List.filter_filter, List.append_assoc, List.singleton_append]
      congr 3
      refine List.filter_congr fun name _ => ?_
      by_cases hname : name = k <;> simp [hname]

theorem nodup_names_putAll (hn : es.names.Nodup) (more : Entries β) :
    (es.putAll more).names.Nodup := by
  induction more generalizing es with
  | nil => exact hn
  | cons e more ih =>
    have hput : (es.put e.1 e.2).names.Nodup := by
      rw [names_put]
      split
      case isTrue => exact hn
      case isFalse h => exact hn.append (List.nodup_singleton _) (by simpa using h)
    exact ih hput

/-! ## Names that may lack a value -/

def present (fs : Entries (Option β)) : Entries β :=
  fs.filterMap fun f => f.2.map (f.1, ·)

variable {fs gs : Entries (Option β)}

theorem mem_present : (name, value) ∈ present fs ↔ (name, some value) ∈ fs := by
  simp only [present, List.mem_filterMap, Option.map_eq_some_iff]
  constructor
  · rintro ⟨⟨k, o⟩, hf, v, rfl, he⟩
    cases he
    exact hf
  · intro hf
    exact ⟨_, hf, value, rfl, rfl⟩

theorem sublist_names_present (fs : Entries (Option β)) :
    (present fs).names.Sublist fs.names := by
  induction fs with
  | nil => exact .slnil
  | cons f fs ih =>
    obtain ⟨k, o⟩ := f
    cases o with
    | none => exact ih.cons k
    | some v => exact ih.cons_cons k

theorem nodup_names_present (hn : fs.names.Nodup) : (present fs).names.Nodup :=
  hn.sublist (sublist_names_present fs)

/-- What a name is found with among the present entries is the value it has or lacks. -/
theorem get?_present (hn : fs.names.Nodup) {o : Option β} (h : (name, o) ∈ fs) :
    (present fs).get? name = o := by
  cases o with
  | some v => exact get?_of_mem (nodup_names_present hn) (mem_present.mpr h)
  | none =>
    refine get?_of_notMem fun hmem => ?_
    obtain ⟨⟨k, v⟩, he, rfl⟩ := List.mem_map.mp hmem
    have hv := List.inj_on_of_nodup_map hn h (mem_present.mp he) rfl
    cases hv

theorem present_injective (hn : fs.names.Nodup) (hg : gs.names = fs.names)
    (h : present fs = present gs) : fs = gs := by
  have hn' : gs.names.Nodup := hg ▸ hn
  have hlength : fs.length = gs.length := by simpa [names] using congrArg List.length hg.symm
  refine List.ext_getElem hlength fun i hi hi' => ?_
  have hname : fs[i].1 = gs[i].1 := by simpa [names, hi, hi'] using congrArg (·[i]?) hg.symm
  have hvalue : (present fs).get? fs[i].1 = fs[i].2 := get?_present hn (List.getElem_mem hi)
  have hvalue' : (present gs).get? gs[i].1 = gs[i].2 := get?_present hn' (List.getElem_mem hi')
  rw [h, hname, hvalue'] at hvalue
  exact Prod.ext hname hvalue.symm

end TangleGateway.Entries
