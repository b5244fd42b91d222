import TangleGateway.Proofs.Fault.Class
import TangleGateway.Proofs.Gateway.Failures

/-! # Which faults escape

A fault of a transport is folded into an answer if it is one of input and output, and escapes as
it is otherwise. Of the faults of reading a body, those of a value, a type or a key become an
outcome, and the others escape.
-/

namespace TangleGateway

open Answer

/-- The fault of reading a body, or of the parser that is given what was read. -/
def Answer.ReadFails {α : Type} (nesting : Nat) (body : Text) (parse : Value → Except Fault α)
    (f : Fault) : Prop :=
  (∃ e, Json.read nesting body = .error e ∧ f = .unreadable e) ∨
    ∃ v, Json.read nesting body = .ok v ∧ parse v = .error f

theorem Answer.parsed_eq_error_iff {α : Type} {nesting : Nat} {body : Text}
    {parse : Value → Except Fault α} {f : Fault} :
    parsed nesting body parse = .error f ↔ ReadFails nesting body parse f := by
  rw [parsed, Except.bind_eq_error_iff]
  constructor
  · rintro (h | ⟨v, hv, hf⟩)
    · obtain ⟨e, he, rfl⟩ := Except.mapError_eq_error_iff.mp h
      exact .inl ⟨e, he, rfl⟩
    · exact .inr ⟨v, Except.mapError_eq_ok_iff.mp hv, hf⟩
  · rintro (⟨e, he, rfl⟩ | ⟨v, hv, hf⟩)
    · exact .inl (Except.mapError_eq_error_iff.mpr ⟨e, he, rfl⟩)
    · exact .inr ⟨v, Except.mapError_eq_ok_iff.mpr hv, hf⟩

theorem Answer.parsed_error_text? {α : Type} {nesting : Nat} {body : Text}
    {parse : Value → Except Fault α} (hparse : ∀ v f, parse v = .error f → f.CarriesPlain)
    {f : Fault} (h : parsed nesting body parse = .error f) : ∃ t, f.text? = some t := by
  rcases parsed_eq_error_iff.mp h with ⟨e, -, rfl⟩ | ⟨v, -, hf⟩
  · exact ⟨_, rfl⟩
  · exact (hparse v f hf).text?

namespace Gateway

/-- An answer of an integer status or of none, or a fault, with texts and integers for arguments. -/
inductive PlainReply : Except Fault Answer → Prop where
  | answered {status : Option Int} {fault : Option Fault} (body : Text) :
      (∀ n, status = some n → Integer.Writable n) → (∀ f, fault = some f → f.CarriesPlain) →
      PlainReply (.ok (.plain status body fault))
  | raised {f : Fault} : f.CarriesPlain → PlainReply (.error f)

variable {http : HttpLibrary} {g : Gateway http} {c : ValueCommand} {url : Text} {f : Fault}

theorem settle_of_folds (hf : f.Folds) :
    settle (.error f) = ⟨.ok (.ofFault f), [.unreachable f.text?]⟩ := by
  simp only [settle, Fault.isIoFault_iff.mpr hf, if_true]

theorem settle_of_not_folds (hf : ¬ f.Folds) : settle (.error f) = ⟨.error f, []⟩ := by
  have hio : f.isIoFault = false := Bool.eq_false_iff.mpr (mt Fault.isIoFault_iff.mp hf)
  simp only [settle, hio, Bool.false_eq_true, if_false]

theorem settle_error_iff :
    ((settle (.error f)).result = .ok (.ofFault f) ↔ f.Folds) ∧
      ((settle (.error f)).result = .error f ↔ ¬ f.Folds) := by
  by_cases hf : f.Folds
  · rw [settle_of_folds hf]
    simp [hf]
  · rw [settle_of_not_folds hf]
    simp [hf]

theorem settle_classify_iff {α : Type} {nesting : Nat} {parse : Value → Except Fault α}
    {reply : Except Fault Answer} (hr : PlainReply reply)
    (hparse : ∀ v f, parse v = .error f → f.CarriesPlain) :
    ((settle reply).result >>= fun a => (a.classify nesting parse).result) = .error f ↔
      (reply = .error f ∧ ¬ f.Folds) ∨
        ∃ body, reply = .ok (plain (some 200) body none) ∧ ReadFails nesting body parse f ∧
          ¬ f.Unparsable := by
  cases hr with
  | @answered status fault body hs hf =>
    change ((plain status body fault).classify nesting parse).result = .error f ↔ _
    rw [classify_eq_error_iff hs hf fun f => parsed_error_text? hparse, parsed_eq_error_iff,
      ← Bool.not_eq_true, Fault.isAnswerFault_iff]
    constructor
    · rintro ⟨rfl, rfl, hread⟩
      exact .inr ⟨body, rfl, hread⟩
    · rintro (⟨h, -⟩ | ⟨body', h, hread⟩)
      · cases h
      · cases status with
        | none => cases h
        | some n =>
          cases h
          exact ⟨rfl, rfl, hread⟩
  | @raised e he =>
    by_cases hfolds : e.Folds
    · obtain ⟨reason, hreason⟩ := he.text?
      rw [settle_of_folds hfolds, Except.ok_bind_eq,
        classify_unreached (a := .ofFault e) rfl hreason]
      constructor
      · intro h
        cases h
      · rintro (⟨h, hf⟩ | ⟨body, h, -⟩)
        · cases h
          exact absurd hfolds hf
        · cases h
    · rw [settle_of_not_folds hfolds, Except.error_bind_eq]
      constructor
      · intro h
        cases h
        exact .inl ⟨rfl, hfolds⟩
      · rintro (⟨h, -⟩ | ⟨body, h, -⟩)
        · cases h
          rfl
        · cases h

/--
What escapes: of a transport every fault but those of input and output, which are folded into an
answer, and of a body of success every fault but those of a value, a type or a key.
-/
theorem escape_iff (hu : g.config.baseUrl = .ok url)
    (hr : PlainReply (g.transport.send (g.config.requestOf url c)).answer) {α : Type}
    (parse : Value → Except Fault α) (hparse : ∀ v f, parse v = .error f → f.CarriesPlain)
    (nesting : Nat) :
    let reply := (g.transport.send (g.config.requestOf url c)).answer
    (∀ a, reply = .ok a → (g.execute c).result = .ok a) ∧
    (∀ f, reply = .error f →
      ((g.execute c).result = .ok ⟨.null, .text [], some f⟩ ↔
        f.cls.Below .system ∨ f.cls.Below .request) ∧
      ((g.execute c).result = .error f ↔ ¬ (f.cls.Below .system ∨ f.cls.Below .request))) ∧
    (∀ arguments, (Fault.raise (.standard .system) arguments).cls.Below .system) ∧
    (∀ f, (g.call nesting c parse).result = .error f ↔
      (reply = .error f ∧ ¬ (f.cls.Below .system ∨ f.cls.Below .request)) ∨
      ∃ body, reply = .ok (plain (some 200) body none) ∧
        ((∃ e, Json.read nesting body = .error e ∧ f = .unreadable e) ∨
          ∃ v, Json.read nesting body = .ok v ∧ parse v = .error f) ∧
        ¬ (f.cls.Below .value ∨ f.cls.Below .type ∨ f.cls.Below .key)) ∧
    (∀ cls : FaultClass, cls.Below .malformedJson ∨ cls.Below .key →
      cls.Below .value ∨ cls.Below .type ∨ cls.Below .key) ∧
    (∀ cls : StandardClass, cls = .lookup ∨ cls = .index ∨ cls = .noAttribute →
      ¬ (cls.Below .value ∨ cls.Below .type ∨ cls.Below .key)) ∧
    ∀ name bases wording,
      let cls : FaultClass := .derived name bases wording
      cls.Below .value ∨ cls.Below .type ∨ cls.Below .key ↔
        ∃ base ∈ bases, base.Below .value ∨ base.Below .type ∨ base.Below .key := by
  intro reply
  have hexecute : (g.execute c).result = (settle reply).result := by
    rw [execute_eq_dispatch hu, dispatch_eq]
  refine ⟨fun a ha => ?_, fun f hf => ?_, Fault.below_raise .system, fun f => ?_,
    fun cls h => ?_, ?_, fun name bases wording => ?_⟩
  · rw [hexecute, ha]
    rfl
  · rw [hexecute, hf]
    exact settle_error_iff
  · rw [call_result parse hu]
    exact settle_classify_iff hr hparse
  · rcases h with h | h
    · exact .inl (h.trans (by decide))
    · exact .inr (.inr h)
  · rintro cls (rfl | rfl | rfl) <;> decide
  · simp only [FaultClass.Below, ← exists_or, and_or_left]

/-- An index out of range in the parser escapes, unless its class lies below that of values too. -/
theorem escape_index_and_odd_value :
    let c : ValueCommand := .plain (.word "getTips")
    let gateway (reply : Except Fault Answer) :=
      recording HttpClient.library {} ⟨[reply], false⟩ false
    let refused : Fault := .raise (.standard .system) [.int 111, .text "refused"]
    let unsupported : Fault := .raise (.standard .unsupportedOperation) [.text "seek"]
    let index : Fault := .raised (.standard .index) [.text "list index out of range"]
    let odd : Fault := .raised (.derived "OddValue" [.index, .value] .arguments) []
    ((gateway (.error refused)).execute c).result =
        .ok ⟨.null, .text [],
          some (.raised (.standard .connectionRefused) [.int 111, .text "refused"])⟩ ∧
      ((gateway (.error unsupported)).execute c).result =
        .ok ⟨.null, .text [], some unsupported⟩ ∧
      let answered := gateway (.ok (plain (some 200) "[]" none))
      (answered.call 90 c fun _ => .error (α := Reply) index).result = .error index ∧
      (answered.call 90 c fun _ => .error (α := Reply) odd).result ≠ .error odd := by
  intro c gateway refused unsupported index odd
  have hu (reply) : (gateway reply).config.baseUrl = .ok "http://localhost:14265" := rfl
  have hparse (e : Fault) (he : e.CarriesPlain) :
      ∀ v f, (fun _ : Value => Except.error (α := Reply) e) v = .error f → f.CarriesPlain := by
    intro v f h
    cases h
    exact he
  have one (t : Text) : ∀ v ∈ [Value.text t], v.IsPlain :=
    List.forall_mem_singleton.mpr (.text t)
  have hindex := hparse index (one _)
  have hrefused : PlainReply (.error refused) :=
    .raised (List.forall_mem_cons.mpr ⟨.int (by decide), one _⟩)
  have hanswered : PlainReply (.ok (plain (some 200) "[]" none)) := by
    refine .answered _ (fun n hn => ?_) nofun
    cases hn
    decide
  refine ⟨?_, ?_, ?_, ?_⟩
  · obtain ⟨-, executed, -⟩ :=
      escape_iff (g := gateway (.error refused)) (c := c) (hu _) hrefused _ hindex 90
    exact (executed _ rfl).1.mpr (by decide)
  · obtain ⟨-, executed, -⟩ := escape_iff (g := gateway (.error unsupported)) (c := c) (hu _)
      (.raised (one _)) _ hindex 90
    exact (executed _ rfl).1.mpr (by decide)
  · obtain ⟨-, -, -, called, -⟩ := escape_iff (g := gateway (.ok (plain (some 200) "[]" none)))
      (c := c) (hu _) hanswered _ hindex 90
    exact (called index).mpr (.inr ⟨_, rfl, .inr ⟨.list [], rfl, rfl⟩, by decide⟩)
  · obtain ⟨-, -, -, called, -⟩ := escape_iff (g := gateway (.ok (plain (some 200) "[]" none)))
      (c := c) (hu _) hanswered _ (hparse odd nofun) 90
    intro h
    rcases (called odd).mp h with ⟨h, -⟩ | ⟨_, -, -, h⟩
    · cases h
    · exact h (by decide)

end Gateway

end TangleGateway
