import TangleGateway.Http.Client
import TangleGateway.Proofs.Gateway.Dispatch
import TangleGateway.Proofs.Json.Nesting
import TangleGateway.Proofs.Outcome.Classification

/-! # What escapes a call

Whatever a node answers and however the network fails, a call comes to an outcome, with a single
exception: a body of success whose brackets nest too deep for the reader. That fault is none of
those that show a body to be no answer, so it leaves the call as it is.
-/

namespace TangleGateway

open Answer

def Reply.kind : Reply → ReplyKind
  | nodeInfo _ => .nodeInfo
  | neighbors _ => .neighbors
  | addNeighbors _ => .addNeighbors
  | removeNeighbors _ => .removeNeighbors
  | tips _ => .tips
  | findTransactions _ => .findTransactions
  | inclusionStates _ => .inclusionStates
  | trytes _ => .trytes
  | transactionsToApprove _ => .transactionsToApprove

theorem ReplyKind.kind_of_ofValue {k : ReplyKind} {v : Value} {r : Reply}
    (h : k.ofValue v = .ok r) : r.kind = k := by
  cases k <;>
  · obtain ⟨_, -, h⟩ := Except.map_eq_ok_iff.mp h
    cases h
    rfl

/-! ## Reading a reply -/

section Read

variable {nesting : Nat} {kind : ReplyKind} {body : Text} {f : Fault} {n : Int}

/-- A body that is not read as a reply nests too deep, or shows that it is no answer. -/
theorem parsed_replyParser_error (h : parsed nesting body (Gateway.replyParser kind) = .error f) :
    (∃ b, Json.read nesting body = .error (.nestedTooDeep b) ∧ f = .unreadable (.nestedTooDeep b)) ∨
      f.isAnswerFault = true ∧ ∃ reason, f.text? = some reason := by
  rcases Except.bind_eq_error_iff.mp h with h | ⟨v, -, h⟩
  · obtain ⟨e, he, rfl⟩ := Except.mapError_eq_error_iff.mp h
    cases e with
    | malformed => exact .inr ⟨rfl, _, rfl⟩
    | integerTooLong => exact .inr ⟨rfl, _, rfl⟩
    | nestedTooDeep b => exact .inl ⟨b, he, rfl⟩
  · obtain ⟨e, -, rfl⟩ := Except.mapError_eq_error_iff.mp h
    exact .inr ⟨rfl, _, rfl⟩

theorem classify_reply_nestedTooDeep {b : Json.Bracket}
    (h : Json.read nesting body = .error (.nestedTooDeep b)) (kind : ReplyKind) :
    (plain (some 200) body none).classify nesting (Gateway.replyParser kind) =
      ⟨.error (.unreadable (.nestedTooDeep b)), []⟩ := by
  have hp : parsed nesting body (Gateway.replyParser kind) =
      .error (.unreadable (.nestedTooDeep b)) := by
    simp only [parsed, h, Except.mapError_error, Except.error_bind_eq]
  exact classify_escaped hp rfl

theorem classify_reply_error_iff (hn : Integer.Writable n) :
    ((plain (some n) body none).classify nesting (Gateway.replyParser kind)).result = .error f ↔
      n = 200 ∧ ∃ b, Json.read nesting body = .error (.nestedTooDeep b) ∧
        f = .unreadable (.nestedTooDeep b) := by
  have hs : ∀ m, some n = some m → Integer.Writable m := by
    intro m hm
    cases hm
    exact hn
  have hf : ∀ f : Fault, none = some f → f.CarriesPlain := nofun
  have hparse : ∀ f, parsed nesting body (Gateway.replyParser kind) = .error f →
      ∃ t, f.text? = some t := by
    intro f hp
    rcases parsed_replyParser_error hp with ⟨b, -, rfl⟩ | ⟨-, ht⟩
    · exact ⟨_, rfl⟩
    · exact ht
  rw [classify_eq_error_iff hs hf hparse]
  constructor
  · rintro ⟨h200, -, hp, ha⟩
    rcases parsed_replyParser_error hp with hb | ⟨ha', -⟩
    · exact ⟨Option.some.inj h200, hb⟩
    · rw [ha] at ha'
      cases ha'
  · rintro ⟨rfl, b, hb, rfl⟩
    refine ⟨rfl, rfl, ?_, rfl⟩
    simp only [parsed, hb, Except.mapError_error, Except.error_bind_eq]

end Read

namespace Gateway

/-- What a node or the network can make of a request: an answer, or a failure on the way. -/
inductive NetworkReply : Except Fault Answer → Prop where
  | answered {n : Int} (body : Text) : Integer.Writable n →
      NetworkReply (.ok (.plain (some n) body none))
  | failed {cls : FaultClass} {arguments : List Value} :
      (Fault.raised cls arguments).isIoFault = true → (∀ v ∈ arguments, v.IsText) →
      NetworkReply (.error (.raised cls arguments))

/-- A reply of success whose brackets nest too deep. -/
def NestsTooDeep (nesting : Nat) (reply : Except Fault Answer) (b : Json.Bracket) : Prop :=
  ∃ body, reply = .ok (.plain (some 200) body none) ∧
    Json.read nesting body = .error (.nestedTooDeep b)

variable {http : HttpLibrary} {g : Gateway http} {c : ValueCommand} {op : Operation} {url : Text}
  {nesting : Nat} {reply : Except Fault Answer} {kind : ReplyKind} {f : Fault}

theorem nestsTooDeep_answered {n : Int} {body : Text} {b : Json.Bracket} :
    NestsTooDeep nesting (.ok (.plain (some n) body none)) b ↔
      n = 200 ∧ Json.read nesting body = .error (.nestedTooDeep b) := by
  constructor
  · rintro ⟨body', h, hb⟩
    cases h
    exact ⟨rfl, hb⟩
  · rintro ⟨rfl, hb⟩
    exact ⟨body, rfl, hb⟩

theorem NetworkReply.settled (h : NetworkReply reply) :
    ∃ a, (settle reply).result = .ok a ∧ ∀ nesting kind f,
      (a.classify nesting (replyParser kind)).result = .error f ↔
        ∃ b, NestsTooDeep nesting reply b ∧ f = .unreadable (.nestedTooDeep b) := by
  cases h with
  | @answered n body hn =>
    refine ⟨_, rfl, fun nesting kind f => ?_⟩
    simp only [classify_reply_error_iff hn, nestsTooDeep_answered]
    constructor
    · rintro ⟨hn, b, hb, hf⟩
      exact ⟨b, ⟨hn, hb⟩, hf⟩
    · rintro ⟨b, ⟨hn, hb⟩, hf⟩
      exact ⟨hn, b, hb, hf⟩
  | @failed cls arguments hio ht =>
    obtain ⟨reason, hr⟩ := Fault.CarriesTexts.text? (f := .raised cls arguments) ht
    refine ⟨.ofFault (.raised cls arguments), ?_, fun nesting kind f => ?_⟩
    · simp only [settle, hio, if_true]
    · rw [classify_unreached (a := .ofFault (.raised cls arguments)) rfl hr]
      constructor
      · intro h
        cases h
      · rintro ⟨b, ⟨body, h, -⟩, -⟩
        cases h

theorem call_result {α : Type} (parse : Value → Except Fault α)
    (hu : g.config.baseUrl = .ok url) :
    (g.call nesting c parse).result =
      (settle (g.transport.send (g.config.requestOf url c)).answer).result >>= fun a =>
        (a.classify nesting parse).result := by
  rw [call, Trace.andThen_result, execute_eq_dispatch hu, dispatch_eq]

theorem perform_result (h : op.command = .ok c) :
    (g.perform nesting op).result =
      (g.call nesting c (replyParser op.replyKind)).result >>= Outcome.unwrap := by
  simp only [perform, h, Trace.andThen_result]

theorem perform_of_execute_error (h : op.command = .ok c) (hf : (g.execute c).result = .error f)
    (nesting : Nat) : (g.perform nesting op).result = .error f := by
  rw [perform_result h, call, Trace.andThen_result, hf]
  rfl

theorem call_reply_error_iff (hu : g.config.baseUrl = .ok url)
    (hr : NetworkReply (g.transport.send (g.config.requestOf url c)).answer) :
    (g.call nesting c (replyParser kind)).result = .error f ↔
      ∃ b, NestsTooDeep nesting (g.transport.send (g.config.requestOf url c)).answer b ∧
        f = .unreadable (.nestedTooDeep b) := by
  obtain ⟨a, ha, hc⟩ := hr.settled
  rw [call_result _ hu, ha, Except.ok_bind_eq, hc]

/-- An operation comes to its reply or to an error of some kind, or fails as its call does. -/
theorem perform_result_cases (h : op.command = .ok c) :
    (∃ r, (g.perform nesting op).result = .ok (some r) ∧ r.kind = op.replyKind) ∨
    (∃ kind detail status cause,
      (g.perform nesting op).result = .error (.call (some kind) detail status cause)) ∨
    ∃ f, (g.call nesting c (replyParser op.replyKind)).result = .error f ∧
      (g.perform nesting op).result = .error f := by
  rw [perform_result h]
  cases hc : (g.call nesting c (replyParser op.replyKind)).result with
  | error f => exact .inr (.inr ⟨f, rfl, rfl⟩)
  | ok o =>
    have ho : Exclusive (replyParser op.replyKind) o := by
      rw [call, Trace.andThen_result] at hc
      obtain ⟨a, -, ha⟩ := Except.bind_eq_ok_iff.mp hc
      exact classify_exclusive ha
    rcases ho with ⟨w, r, hr, rfl⟩ | ⟨kind, detail, status, cause, rfl⟩
    · exact .inl ⟨r, rfl, ReplyKind.kind_of_ofValue (Except.mapError_eq_ok_iff.mp hr)⟩
    · exact .inr (.inl ⟨kind, detail, status, cause, rfl⟩)

theorem perform_nestedTooDeep {b : Json.Bracket} (hu : g.config.baseUrl = .ok url)
    (hop : op.command = .ok c)
    (hb : NestsTooDeep nesting (g.transport.send (g.config.requestOf url c)).answer b) :
    (g.perform nesting op).result = .error (.unreadable (.nestedTooDeep b)) := by
  obtain ⟨body, hreply, hread⟩ := hb
  rw [perform_result hop, call_result _ hu, hreply]
  change (((plain (some 200) body none).classify nesting _).result >>= _) = _
  rw [classify_reply_nestedTooDeep hread, Except.error_bind_eq]

/-- A tower of brackets for a body of success leaves a call without an outcome, with room for half
of them even. -/
theorem tower_escapes :
    let nesting := 10000
    let body : Text := List.replicate 20000 (.scalar '[')
    let g := recording HttpClient.library {} ⟨[.ok (plain (some 200) body none)], false⟩ false
    ((plain (some 200) body none).classify nesting (replyParser .tips)).result =
        .error (.unreadable (.nestedTooDeep .array)) ∧
      (g.perform nesting .getTips).result = .error (.unreadable (.nestedTooDeep .array)) := by
  intro nesting body g
  have tower : Json.read nesting body = .error (.nestedTooDeep .array) := by
    have hn : nesting < 20000 := by decide
    have h := Json.read_tower hn []
    rwa [List.append_nil] at h
  constructor
  · rw [classify_reply_nestedTooDeep tower]
  · have hu : g.config.baseUrl = .ok "http://localhost:14265" := rfl
    have hop : Operation.getTips.command = .ok (.plain (.word "getTips")) := rfl
    exact perform_nestedTooDeep hu hop ⟨body, rfl, tower⟩

/--
For all that a node or the network can cause, a call comes to an outcome, and an operation to its
reply or to an error of some kind. The one exception is a body of success whose brackets nest
deeper than there is room for.
-/
theorem call_returns_unless_nested_too_deep (hu : g.config.baseUrl = .ok url)
    (hr : NetworkReply (g.transport.send (g.config.requestOf url c)).answer) (nesting : Nat) :
    let reply := (g.transport.send (g.config.requestOf url c)).answer
    (∀ kind n body f, Integer.Writable n →
      (((plain (some n) body none).classify nesting (replyParser kind)).result = .error f ↔
        n = 200 ∧ ∃ b, Json.read nesting body = .error (.nestedTooDeep b) ∧
          f = .unreadable (.nestedTooDeep b))) ∧
    (∀ kind cls arguments, (∀ v ∈ arguments, v.IsText) → ∃ o,
      ((Answer.ofFault (.raised cls arguments)).classify nesting (replyParser kind)).result =
        .ok o) ∧
    (∀ kind f, (g.call nesting c (replyParser kind)).result = .error f ↔
      ∃ b, NestsTooDeep nesting reply b ∧ f = .unreadable (.nestedTooDeep b)) ∧
    (∀ op, op.command = .ok c →
      ((∃ r, (g.perform nesting op).result = .ok (some r) ∧ r.kind = op.replyKind) ∨
        (∃ kind detail status cause,
          (g.perform nesting op).result = .error (.call (some kind) detail status cause)) ∨
        ∃ b, NestsTooDeep nesting reply b) ∧
      ∀ b, NestsTooDeep nesting reply b →
        (g.perform nesting op).result = .error (.unreadable (.nestedTooDeep b))) ∧
    (∀ b, NestsTooDeep nesting reply b → ∃ body, reply = .ok (plain (some 200) body none) ∧
      nesting < Json.nesting body) ∧
    ∀ n rest, nesting < n →
      reply = .ok (plain (some 200) (List.replicate n (.scalar '[') ++ rest) none) →
      NestsTooDeep nesting reply .array := by
  intro reply
  have hcall : ∀ kind f, (g.call nesting c (replyParser kind)).result = .error f ↔ _ :=
    fun kind f => call_reply_error_iff hu hr
  refine ⟨fun kind n body f hn => classify_reply_error_iff hn, ?_, hcall, ?_, ?_, ?_⟩
  · intro kind cls arguments ht
    obtain ⟨reason, hreason⟩ := Fault.CarriesTexts.text? (f := .raised cls arguments) ht
    rw [classify_unreached (a := .ofFault (.raised cls arguments)) rfl hreason]
    exact ⟨_, rfl⟩
  · intro op hop
    constructor
    · rcases perform_result_cases (g := g) hop with hreply | herror | ⟨f, hf, -⟩
      · exact .inl hreply
      · exact .inr (.inl herror)
      · obtain ⟨b, hb, -⟩ := (hcall _ f).mp hf
        exact .inr (.inr ⟨b, hb⟩)
    · exact fun b hb => perform_nestedTooDeep hu hop hb
  · rintro b ⟨body, hreply, hb⟩
    exact ⟨body, hreply, Json.read_nestedTooDeep hb⟩
  · intro n rest hn hreply
    exact ⟨_, hreply, Json.read_tower hn rest⟩

theorem call_returns_after_reset_and_cut :
    let reset : Except Fault Answer :=
      .error (.raised (.standard .connectionReset) [.text "reset"])
    let cut : Except Fault Answer := .ok (plain (some 200) "[[1" none)
    let gateway (reply : Except Fault Answer) :=
      recording HttpClient.library {} ⟨[reply], false⟩ false
    ∀ kind f,
      ((gateway reset).call 90 (.plain (.word "getTips")) (replyParser kind)).result ≠ .error f ∧
      ((gateway cut).call 90 (.plain (.word "getTips")) (replyParser kind)).result ≠ .error f := by
  intro reset cut gateway kind f
  have hu : (gateway reset).config.baseUrl = .ok "http://localhost:14265" := rfl
  have hreset : NetworkReply reset := by
    refine .failed (by decide) fun v hv => ?_
    obtain rfl := List.mem_singleton.mp hv
    exact ⟨_, rfl⟩
  have hcut : NetworkReply cut := .answered _ (by decide)
  constructor
  · intro h
    obtain ⟨-, -, call, -⟩ :=
      call_returns_unless_nested_too_deep (g := gateway reset) hu hreset 90
    obtain ⟨b, ⟨body, hb, -⟩, -⟩ := (call kind f).mp h
    cases hb
  · intro h
    obtain ⟨-, -, call, -, deep, -⟩ :=
      call_returns_unless_nested_too_deep (g := gateway cut) hu hcut 90
    obtain ⟨b, hb, -⟩ := (call kind f).mp h
    obtain ⟨body, hbody, hdeep⟩ := deep b hb
    cases hbody
    exact absurd hdeep (by decide)

end Gateway

end TangleGateway
