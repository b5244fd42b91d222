import TangleGateway.Fault.Basic

/-! # Below a class

A handler of a class handles the classes below it, along whichever of their parents they are
reached. The bounded search of `isA` misses none of them, and a numbered fault of the operating
system stays below the class it was raised as.
-/

namespace TangleGateway

namespace StandardClass

/-- The class is another one, or one of its parents is below that one. -/
inductive Below : StandardClass → StandardClass → Prop where
  | refl (c : StandardClass) : Below c c
  | step {c parent ancestor : StandardClass} :
      parent ∈ c.parents → Below parent ancestor → Below c ancestor

variable {c ancestor : StandardClass}

theorem Below.trans {c' : StandardClass} (h : c.Below c') (h' : c'.Below ancestor) :
    c.Below ancestor := by
  induction h with
  | refl c => exact h'
  | step hp _ ih => exact .step hp (ih h')

theorem below_of_mem_lineage {n : Nat} (h : ancestor ∈ lineage n c) : c.Below ancestor := by
  induction n generalizing c with
  | zero =>
    obtain rfl := List.mem_singleton.mp h
    exact .refl ancestor
  | succ n ih =>
    rw [lineage] at h
    rcases List.mem_cons.mp h with rfl | h
    · exact .refl ancestor
    · obtain ⟨parent, hp, h⟩ := List.mem_flatMap.mp h
      exact .step hp (ih h)

/-- Five levels are all there are. -/
theorem parents_mem_lineage (c : StandardClass) :
    ∀ c' ∈ lineage 5 c, ∀ parent ∈ c'.parents, parent ∈ lineage 5 c := by
  cases c <;> decide

theorem mem_lineage_of_below {c' : StandardClass} (hc : c' ∈ lineage 5 c)
    (h : c'.Below ancestor) : ancestor ∈ lineage 5 c := by
  induction h with
  | refl _ => exact hc
  | step hp _ ih => exact ih (parents_mem_lineage c _ hc _ hp)

theorem isA_iff : c.isA ancestor = true ↔ c.Below ancestor := by
  rw [isA, List.contains_iff_mem]
  exact ⟨below_of_mem_lineage, mem_lineage_of_below List.mem_cons_self⟩

instance : Decidable (c.Below ancestor) :=
  decidable_of_iff _ isA_iff

end StandardClass

namespace FaultClass

/-- A class of the caller is below what one of its bases is below. -/
def Below : FaultClass → StandardClass → Prop
  | standard c, ancestor => c.Below ancestor
  | derived _ bases _, ancestor => ∃ c ∈ bases, c.Below ancestor

variable {c : FaultClass} {ancestor : StandardClass}

theorem Below.trans {c' : StandardClass} (h : c.Below c') (h' : c'.Below ancestor) :
    c.Below ancestor := by
  cases c with
  | standard c => exact StandardClass.Below.trans h h'
  | derived name bases wording =>
    obtain ⟨base, hb, h⟩ := h
    exact ⟨base, hb, h.trans h'⟩

theorem isA_iff : c.isA ancestor = true ↔ c.Below ancestor := by
  cases c with
  | standard c => exact StandardClass.isA_iff
  | derived name bases wording =>
    simp only [isA, Below, List.any_eq_true, StandardClass.isA_iff]

instance : Decidable (c.Below ancestor) :=
  decidable_of_iff _ isA_iff

end FaultClass

namespace Fault

/-- A fault of the operating system or of a request. -/
def Folds (f : Fault) : Prop :=
  f.cls.Below .system ∨ f.cls.Below .request

instance (f : Fault) : Decidable f.Folds :=
  inferInstanceAs (Decidable (_ ∨ _))

/-- A fault of a value, of a type or of a key. -/
def Unparsable (f : Fault) : Prop :=
  f.cls.Below .value ∨ f.cls.Below .type ∨ f.cls.Below .key

theorem isIoFault_iff {f : Fault} : f.isIoFault = true ↔ f.Folds := by
  simp only [isIoFault, Folds, Bool.or_eq_true, FaultClass.isA_iff]

theorem isAnswerFault_iff {f : Fault} : f.isAnswerFault = true ↔ f.Unparsable := by
  simp only [isAnswerFault, Unparsable, Bool.or_eq_true, FaultClass.isA_iff, or_assoc]

theorem below_system_of_systemClass? {n : Int} {c : StandardClass} (h : systemClass? n = some c) :
    c.Below .system := by
  unfold systemClass? at h
  split at h <;> cases h <;> decide

theorem below_raise (cls : StandardClass) (arguments : List Value) :
    (raise (.standard cls) arguments).cls.Below cls := by
  unfold raise
  split
  · rename_i h
    obtain rfl := FaultClass.standard.inj h
    change StandardClass.Below (Option.getD _ _) _
    cases hn : (systemNumber? arguments).bind systemClass? with
    | none => exact .refl _
    | some c =>
      obtain ⟨n, -, hc⟩ := Option.bind_eq_some_iff.mp hn
      exact below_system_of_systemClass? hc
  · exact .refl _

end Fault

end TangleGateway
