import TangleGateway.Text.Basic

/-! # Entries in order

A map from names to values is a list of pairs. A name put again keeps its place and takes the new
value.
-/

namespace TangleGateway

abbrev Entries (β : Type) := List (Text × β)

namespace Entries

variable {β : Type}

def get? (name : Text) : Entries β → Option β
  | [] => none
  | (k, v) :: es => if k = name then some v else get? name es

def put (name : Text) (value : β) : Entries β → Entries β
  | [] => [(name, value)]
  | (k, v) :: es => if k = name then (k, value) :: es else (k, v) :: put name value es

def putAll (es : Entries β) (more : Entries β) : Entries β :=
  more.foldl (fun acc e => put e.1 e.2 acc) es

/-- The entries of a list of pairs, the last value of each name in the place of its first. -/
def ofPairs (pairs : List (Text × β)) : Entries β :=
  putAll [] pairs

def names (es : Entries β) : List Text :=
  es.map Prod.fst

theorem get?_put (es : Entries β) (name : Text) (value : β) (other : Text) :
    get? other (put name value es) = if other = name then some value else get? other es := by
  induction es with
  | nil => simp [put, get?, eq_comm]
  | cons e es ih =>
    obtain ⟨k, v⟩ := e
    simp only [put]
    split
    · rename_i h; subst h; by_cases ho : other = k <;> simp [get?, ho, eq_comm]
    · rename_i h
      simp only [get?, ih]
      by_cases ho : k = other
      · subst ho; simp [h]
      · simp [ho]

theorem names_put (es : Entries β) (name : Text) (value : β) :
    names (put name value es) = if name ∈ names es then names es else names es ++ [name] := by
  induction es with
  | nil => simp [put, names]
  | cons e es ih =>
    obtain ⟨k, v⟩ := e
    simp only [put]
    split
    · rename_i h; simp [names, h]
    · rename_i h
      have h' : name ≠ k := fun he => h he.symm
      simp only [names, List.map_cons] at ih ⊢
      rw [ih]
      by_cases hm : name ∈ es.map Prod.fst <;> simp [hm, h']

end Entries

end TangleGateway
