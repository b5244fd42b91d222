import TangleGateway.Fault.Basic
import TangleGateway.Proofs.Number.Integer

/-! # Messages of faults

The only values that cannot be written are integers of too many digits. A fault that carries
texts, or integers of fewer digits, has a message, whatever its class and however many of them
there are.
-/

namespace TangleGateway

namespace Value

def IsText (v : Value) : Prop := ∃ t : Text, v = .text t

/-- A text, or an integer that can be written. -/
inductive IsPlain : Value → Prop where
  | text (t : Text) : IsPlain (.text t)
  | int {i : Int} : Integer.Writable i → IsPlain (.int i)

/-- The value can be written next to others. -/
def Legible (v : Value) : Prop := ∃ t, v.literal? = some t

theorem IsText.isPlain {v : Value} (h : v.IsText) : v.IsPlain := by
  obtain ⟨t, rfl⟩ := h
  exact .text t

theorem IsPlain.legible {v : Value} (h : v.IsPlain) : v.Legible := by
  cases h with
  | text t => exact ⟨t.quoted, by rw [literal?]⟩
  | @int i hi => exact ⟨Integer.text i, by rw [literal?, Integer.text?_of_writable hi]⟩

theorem legible_null : Legible .null :=
  ⟨"None", by rw [literal?]⟩

theorem Legible.text? {v : Value} (h : v.Legible) : ∃ t, v.text? = some t := by
  unfold Value.text?
  split
  · exact ⟨_, rfl⟩
  · exact h

theorem literals?_legible {vs : List Value} (h : ∀ v ∈ vs, v.Legible) :
    ∃ ts, literals? vs = some ts := by
  induction vs with
  | nil => exact ⟨[], by rw [literals?]⟩
  | cons v vs ih =>
    obtain ⟨t, ht⟩ := h v List.mem_cons_self
    obtain ⟨ts, hts⟩ := ih fun w hw => h w (List.mem_cons_of_mem _ hw)
    exact ⟨t :: ts, by rw [literals?, ht, hts]; rfl⟩

theorem legible_tuple {vs : List Value} (h : ∀ v ∈ vs, v.Legible) : (tuple vs).Legible := by
  obtain ⟨ts, hts⟩ := literals?_legible h
  rw [Legible, literal?, hts]
  exact ⟨_, rfl⟩

theorem legible_getD {o : Option Value} (h : ∀ v ∈ o, v.Legible) : (o.getD .null).Legible := by
  cases o with
  | none => exact legible_null
  | some v => exact h v rfl

end Value

namespace Fault

open Value (Legible)

theorem orTooLong_eq_ok_iff {α : Type} {o : Option α} {a : α} :
    orTooLong o = .ok a ↔ o = some a := by
  cases o <;> simp [orTooLong]

/-- A fault whose arguments, or whose detail, are texts. -/
def CarriesTexts : Fault → Prop
  | raised _ arguments => ∀ v ∈ arguments, v.IsText
  | call _ detail _ _ => detail.IsText
  | _ => True

/-- A fault whose arguments, or whose detail, are texts and integers that can be written. -/
def CarriesPlain : Fault → Prop
  | raised _ arguments => ∀ v ∈ arguments, v.IsPlain
  | call _ detail _ _ => detail.IsPlain
  | _ => True

theorem CarriesTexts.carriesPlain {f : Fault} (h : f.CarriesTexts) : f.CarriesPlain := by
  cases f with
  | raised cls arguments => exact fun v hv => (h v hv).isPlain
  | call kind detail status cause => exact Value.IsText.isPlain h
  | _ => trivial

section Legible

variable {vs : List Value}

theorem argumentsText?_legible (h : ∀ v ∈ vs, v.Legible) : ∃ t, argumentsText? vs = some t := by
  unfold argumentsText?
  split
  · exact ⟨[], rfl⟩
  · exact (h _ List.mem_cons_self).text?
  · exact Value.legible_tuple h

theorem systemText?_legible (h : ∀ v ∈ vs, v.Legible) : ∃ t, systemText? vs = some t := by
  match vs, h with
  | [], h => exact argumentsText?_legible h
  | [_], h => exact argumentsText?_legible h
  | number :: message :: more, h =>
    obtain ⟨n, hn⟩ := (h number (by simp)).text?
    obtain ⟨m, hm⟩ := (h message (by simp)).text?
    have legible_more : ∀ v ∈ more, v.Legible := fun v hv => h v (by simp [hv])
    have legible_file : Legible (more.head?.getD .null) :=
      Value.legible_getD fun v hv => legible_more v (List.mem_of_head? hv)
    have legible_other : Legible (more[2]?.getD .null) :=
      Value.legible_getD fun v hv => legible_more v (List.mem_of_getElem? hv)
    simp only [systemText?]
    by_cases many : 3 < more.length
    · rw [if_pos many]
      exact argumentsText?_legible h
    · rw [if_neg many, hn, hm]
      generalize more.head?.getD .null = file at legible_file
      generalize more[2]?.getD .null = other at legible_other
      obtain ⟨f, hf⟩ := legible_file
      obtain ⟨o, ho⟩ := legible_other
      simp only [Option.bind_eq_bind, Option.bind_some]
      split
      · exact ⟨_, rfl⟩
      · rw [hf]
        exact ⟨_, rfl⟩
      · rw [hf, ho]
        exact ⟨_, rfl⟩

theorem tlsText?_legible (h : ∀ v ∈ vs, v.Legible) : ∃ t, tlsText? vs = some t := by
  match vs, h with
  | [], h => exact Value.legible_tuple h
  | [_], h => exact Value.legible_tuple h
  | number :: message :: more, h =>
    have legible_pair : ∀ v ∈ [number, message], v.Legible := by
      intro v hv
      exact h v (List.mem_append_left more hv)
    simp only [tlsText?]
    by_cases many : 3 < more.length
    · rw [if_pos many]
      exact Value.legible_tuple h
    · rw [if_neg many]
      split
      · exact ⟨_, rfl⟩
      · exact Value.legible_tuple h
      · exact Value.legible_tuple legible_pair

theorem mem_of_mem_dropWritten {v : Value} (h : v ∈ dropWritten vs) : v ∈ vs := by
  unfold dropWritten at h
  split at h
  · exact List.mem_append_left [_] h
  · exact List.mem_append_left [_] h
  · exact h

theorem raisedText?_legible (c : FaultClass) (h : ∀ v ∈ vs, v.Legible) :
    ∃ t, raisedText? c vs = some t := by
  unfold raisedText?
  split
  · exact ⟨_, rfl⟩
  · exact argumentsText?_legible h
  · split
    · exact systemText?_legible fun v hv => h v (mem_of_mem_dropWritten hv)
    · exact systemText?_legible h
  · exact tlsText?_legible h
  · split
    · exact h _ List.mem_cons_self
    · exact argumentsText?_legible h
  · unfold malformedJsonText?
    split
    · exact ⟨_, rfl⟩
    · exact argumentsText?_legible h
  · unfold undecodableText?
    split
    · exact ⟨_, rfl⟩
    · exact argumentsText?_legible h
  · unfold unencodableText?
    split
    · exact ⟨_, rfl⟩
    · exact argumentsText?_legible h

end Legible

theorem CarriesPlain.text? {f : Fault} (h : f.CarriesPlain) : ∃ t, f.text? = some t := by
  cases f with
  | raised c arguments => exact raisedText?_legible c fun v hv => (h v hv).legible
  | call kind detail status cause => exact (Value.IsPlain.legible h).text?
  | _ => exact ⟨_, rfl⟩

theorem CarriesTexts.text? {f : Fault} (h : f.CarriesTexts) : ∃ t, f.text? = some t :=
  h.carriesPlain.text?

end Fault

end TangleGateway
