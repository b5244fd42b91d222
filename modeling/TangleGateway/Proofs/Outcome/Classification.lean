import TangleGateway.Outcome
import TangleGateway.Proofs.Except
import TangleGateway.Proofs.Fault.Message
import TangleGateway.Proofs.Number.Integer

/-! # The classes of answers

An answer that did not reach the node is a failure of the transport, whatever else it holds. One
that did is classified by its status, and only a status of success gets as far as the parser. The
error for any other status determines the status, and the body where the body is shown.
-/

namespace TangleGateway.Answer

open Classify

variable {α : Type} {status : Option Int} {body : Text} {fault : Option Fault} {i j : Int}

/-- An answer of an integer status, or of none, with a text for a body. -/
def plain (status : Option Int) (body : Text) (fault : Option Fault) : Answer :=
  ⟨status.elim .null .int, .text body, fault⟩

def parsed (nesting : Nat) (body : Text) (parse : Value → Except Fault α) : Except Fault α :=
  (Json.read nesting body).mapError .unreadable >>= parse

theorem reachedNode_plain_eq_false_iff :
    (plain status body fault).reachedNode = false ↔ status = none ∨ fault ≠ none := by
  cases status <;> cases fault <;> simp [reachedNode, plain, Value.isNull]

theorem exists_reason (hf : ∀ f, fault = some f → f.CarriesPlain) :
    ∃ reason, fault.elim (some ("None" : Text)) Fault.text? = some reason := by
  cases fault with
  | none => exact ⟨_, rfl⟩
  | some f => exact (hf f rfl).text?

/-! ## One lemma for each class -/

theorem classify_unreached {a : Answer} {reason : Text} (h : a.reachedNode = false)
    (hr : a.fault.elim (some ("None" : Text)) Fault.text? = some reason)
    (nesting : Nat) (parse : Value → Except Fault α) :
    a.classify nesting parse = ⟨.ok ⟨none, some (.call (some .transport)
      (.text (("node not reachable: " : Text) ++ reason)) .null a.fault)⟩, []⟩ := by
  simp only [classify, h, unreached, hr]
  rfl

theorem classify_answered (i : Int) (body : Text) (nesting : Nat) (parse : Value → Except Fault α) :
    (plain (some i) body none).classify nesting parse =
      if i = 200 then ⟨success nesting parse (plain (some i) body none), []⟩
      else if i = 400 then ⟨.ok (failure .client (.text body) (.int i) none), []⟩
      else if i = 401 ∨ i = 500 then ⟨inaccessible (plain (some i) body none), []⟩
      else unexpected (plain (some i) body none) := by
  have reached : (plain (some i) body none).reachedNode = true := rfl
  have eq (n : Int) : (plain (some i) body none).status.equalsInt n = decide (i = n) := rfl
  simp only [classify, reached, eq, if_true, Bool.or_eq_true, decide_eq_true_eq, successStatus,
    refusedStatus, unauthorizedStatus, brokenStatus]
  rfl

theorem classify_refused (body : Text) (nesting : Nat) (parse : Value → Except Fault α) :
    (plain (some 400) body none).classify nesting parse =
      ⟨.ok ⟨none, some (.call (some .client) (.text body) (.int 400) none)⟩, []⟩ := by
  rw [classify_answered]
  rfl

theorem classify_inaccessible (hi : Integer.Writable i) (h : i = 401 ∨ i = 500) (body : Text)
    (nesting : Nat) (parse : Value → Except Fault α) :
    (plain (some i) body none).classify nesting parse =
      ⟨.ok ⟨none, some (.call (some .access)
        (.text (Integer.text i ++ (" " : Text) ++ body)) (.int i) none)⟩, []⟩ := by
  have hs : (plain (some i) body none).status.text? = some (Integer.text i) :=
    Integer.text?_of_writable hi
  rw [classify_answered, if_neg (by omega), if_neg (by omega), if_pos h]
  simp only [inaccessible, hs]
  rfl

theorem classify_unexpected (hi : Integer.Writable i)
    (h : i ≠ 200 ∧ i ≠ 400 ∧ i ≠ 401 ∧ i ≠ 500) (body : Text) (nesting : Nat)
    (parse : Value → Except Fault α) :
    (plain (some i) body none).classify nesting parse =
      ⟨.ok ⟨none, some (.call (some .transport)
        (.text (("unexpected status " : Text) ++ Integer.text i)) (.int i) none)⟩,
        [.unexpectedStatus (Integer.text i) body]⟩ := by
  have hs : (plain (some i) body none).status.text? = some (Integer.text i) :=
    Integer.text?_of_writable hi
  have hb : (plain (some i) body none).body.text? = some body := rfl
  rw [classify_answered, if_neg h.1, if_neg h.2.1, if_neg (by omega)]
  simp only [unexpected, hs, hb]
  rfl

theorem classify_parsed {nesting : Nat} {parse : Value → Except Fault α} {v : α}
    (h : parsed nesting body parse = .ok v) :
    (plain (some 200) body none).classify nesting parse = ⟨.ok ⟨some v, none⟩, []⟩ := by
  have hd : Answer.decodeBody nesting (.text body) >>= parse = .ok v := h
  rw [classify_answered, if_pos rfl]
  simp only [success, plain, hd]
  rfl

theorem classify_unparsed {nesting : Nat} {parse : Value → Except Fault α} {f : Fault}
    (h : parsed nesting body parse = .error f) (ha : f.isAnswerFault = true) :
    (plain (some 200) body none).classify nesting parse =
      ⟨(Fault.orTooLong f.text?).map fun reason => ⟨none, some (.call (some .transport)
        (.text (("unparsable response: " : Text) ++ reason)) (.int 200) (some f))⟩, []⟩ := by
  have hd : Answer.decodeBody nesting (.text body) >>= parse = .error f := h
  rw [classify_answered, if_pos rfl]
  simp only [success, plain, hd, ha, if_true]
  cases f.text? <;> rfl

/-- A fault that does not show the body to be no answer is not an outcome of the call. -/
theorem classify_escaped {nesting : Nat} {parse : Value → Except Fault α} {f : Fault}
    (h : parsed nesting body parse = .error f) (ha : f.isAnswerFault = false) :
    (plain (some 200) body none).classify nesting parse = ⟨.error f, []⟩ := by
  have hd : Answer.decodeBody nesting (.text body) >>= parse = .error f := h
  rw [classify_answered, if_pos rfl]
  simp only [success, plain, hd, ha, Bool.false_eq_true, if_false]

/-- A body of success is parsed, or is no answer, or its fault escapes. -/
theorem classify_success_cases (body : Text) (nesting : Nat) (parse : Value → Except Fault α) :
    (∃ v, parsed nesting body parse = .ok v ∧
      (plain (some 200) body none).classify nesting parse = ⟨.ok ⟨some v, none⟩, []⟩) ∨
    (∃ f, parsed nesting body parse = .error f ∧ f.isAnswerFault = true ∧
      (plain (some 200) body none).classify nesting parse =
        ⟨(Fault.orTooLong f.text?).map fun reason => ⟨none, some (.call (some .transport)
          (.text (("unparsable response: " : Text) ++ reason)) (.int 200) (some f))⟩, []⟩) ∨
    ∃ f, parsed nesting body parse = .error f ∧ f.isAnswerFault = false ∧
      (plain (some 200) body none).classify nesting parse = ⟨.error f, []⟩ := by
  cases hp : parsed nesting body parse with
  | ok v => exact .inl ⟨v, rfl, classify_parsed hp⟩
  | error f =>
    cases ha : f.isAnswerFault with
    | true => exact .inr (.inl ⟨f, rfl, ha, classify_unparsed hp ha⟩)
    | false => exact .inr (.inr ⟨f, rfl, ha, classify_escaped hp ha⟩)

theorem classify_value_iff {nesting : Nat} {parse : Value → Except Fault α} {v : α} :
    ((plain (some 200) body none).classify nesting parse).result = .ok ⟨some v, none⟩ ↔
      parsed nesting body parse = .ok v := by
  constructor
  · intro h
    rcases classify_success_cases body nesting parse with
      ⟨w, hp, hc⟩ | ⟨f, -, -, hc⟩ | ⟨f, -, -, hc⟩
    · rw [hc] at h
      cases h
      exact hp
    · rw [hc] at h
      obtain ⟨_, -, h⟩ := Except.map_eq_ok_iff.mp h
      cases h
    · rw [hc] at h
      cases h
  · intro h
    rw [classify_parsed h]

theorem classify_error_iff {nesting : Nat} {parse : Value → Except Fault α} {e : Fault} :
    ((plain (some 200) body none).classify nesting parse).result = .ok ⟨none, some e⟩ ↔
      ∃ f reason, parsed nesting body parse = .error f ∧ f.isAnswerFault = true ∧
        f.text? = some reason ∧ e = .call (some .transport)
          (.text (("unparsable response: " : Text) ++ reason)) (.int 200) (some f) := by
  constructor
  · intro h
    rcases classify_success_cases body nesting parse with
      ⟨w, -, hc⟩ | ⟨f, hp, ha, hc⟩ | ⟨f, -, -, hc⟩
    · rw [hc] at h
      cases h
    · rw [hc] at h
      obtain ⟨reason, hr, h⟩ := Except.map_eq_ok_iff.mp h
      cases h
      exact ⟨f, reason, hp, ha, Fault.orTooLong_eq_ok_iff.mp hr, rfl⟩
    · rw [hc] at h
      cases h
  · rintro ⟨f, reason, hp, ha, hr, rfl⟩
    rw [classify_unparsed hp ha, hr]
    rfl

/-- An outcome holds a value that was parsed, or an error of some kind, and not both. -/
def Exclusive (parse : Value → Except Fault α) (o : Outcome α) : Prop :=
  (∃ w v, parse w = .ok v ∧ o = ⟨some v, none⟩) ∨
    ∃ kind detail status cause, o = ⟨none, some (.call (some kind) detail status cause)⟩

section Exclusive

variable {nesting : Nat} {parse : Value → Except Fault α} {a : Answer} {o : Outcome α}

theorem exclusive_failure (kind : ErrorKind) (detail status : Value) (cause : Option Fault) :
    Exclusive parse (failure kind detail status cause) :=
  .inr ⟨kind, detail, status, cause, rfl⟩

theorem success_exclusive (h : success nesting parse a = .ok o) : Exclusive parse o := by
  unfold success at h
  split at h
  · rename_i hp
    obtain ⟨w, -, hw⟩ := Except.bind_eq_ok_iff.mp hp
    cases h
    exact .inl ⟨w, _, hw, rfl⟩
  · split at h
    · obtain ⟨_, -, h⟩ := Except.bind_eq_ok_iff.mp h
      cases h
      exact exclusive_failure ..
    · cases h

theorem inaccessible_exclusive (h : inaccessible a = .ok o) : Exclusive parse o := by
  obtain ⟨_, -, h⟩ := Except.bind_eq_ok_iff.mp h
  obtain ⟨_, -, h⟩ := Except.bind_eq_ok_iff.mp h
  cases h
  exact exclusive_failure ..

theorem unexpected_exclusive (h : (unexpected a).result = .ok o) : Exclusive parse o := by
  obtain ⟨_, -, h⟩ := Except.bind_eq_ok_iff.mp h
  cases h
  exact exclusive_failure ..

theorem classify_exclusive (h : (a.classify nesting parse).result = .ok o) : Exclusive parse o := by
  unfold classify at h
  split at h
  · split at h
    · exact success_exclusive h
    · split at h
      · cases h
        exact exclusive_failure ..
      · split at h
        · exact inaccessible_exclusive h
        · exact unexpected_exclusive h
  · obtain ⟨_, -, h⟩ := Except.bind_eq_ok_iff.mp h
    cases h
    exact exclusive_failure ..

end Exclusive

/-! ## The error determines the status -/

theorem refusal_cases {nesting : Nat} {parse : Value → Except Fault α} {k : Option ErrorKind}
    {d s : Value} {c : Option Fault} (hi : Integer.Writable i) (h : i ≠ 200)
    (hr : ((plain (some i) body none).classify nesting parse).result =
      .ok ⟨none, some (.call k d s c)⟩) :
    (i = 400 ∧ k = some .client ∧ d = .text body) ∨
    ((i = 401 ∨ i = 500) ∧ k = some .access ∧
      d = .text (Integer.text i ++ (" " : Text) ++ body)) ∨
    ((i ≠ 400 ∧ i ≠ 401 ∧ i ≠ 500) ∧ k = some .transport ∧
      d = .text (("unexpected status " : Text) ++ Integer.text i)) := by
  by_cases h4 : i = 400
  · subst h4
    rw [classify_refused] at hr
    cases hr
    exact .inl ⟨rfl, rfl, rfl⟩
  by_cases ha : i = 401 ∨ i = 500
  · rw [classify_inaccessible hi ha] at hr
    cases hr
    exact .inr (.inl ⟨ha, rfl, rfl⟩)
  · have hu : i ≠ 400 ∧ i ≠ 401 ∧ i ≠ 500 := by omega
    rw [classify_unexpected hi ⟨h, hu⟩] at hr
    cases hr
    exact .inr (.inr ⟨hu, rfl, rfl⟩)

theorem inaccessible_detail_injective {body body' : Text} (hi : i = 401 ∨ i = 500)
    (hj : j = 401 ∨ j = 500)
    (h : Integer.text i ++ (" " : Text) ++ body = Integer.text j ++ (" " : Text) ++ body') :
    i = j ∧ body = body' := by
  have differ : ∀ b b' : Text,
      Integer.text 401 ++ (" " : Text) ++ b ≠ Integer.text 500 ++ (" " : Text) ++ b' := by
    intro b b' hb
    have head : some (CodePoint.scalar '4') = some (.scalar '5') := congrArg List.head? hb
    exact absurd head (by decide)
  rcases hi with rfl | rfl <;> rcases hj with rfl | rfl
  · exact ⟨rfl, List.append_cancel_left h⟩
  · exact absurd h (differ _ _)
  · exact absurd h.symm (differ _ _)
  · exact ⟨rfl, List.append_cancel_left h⟩

/-- Kind and detail of the error determine the status, and the body if the detail shows it. -/
theorem refusal_injective {β : Type} {nesting : Nat} {parse : Value → Except Fault α}
    {nesting' : Nat} {parse' : Value → Except Fault β} {body' : Text} {k : Option ErrorKind}
    {d s s' : Value} {c c' : Option Fault} (hi : Integer.Writable i) (hj : Integer.Writable j)
    (hni : i ≠ 200) (hnj : j ≠ 200)
    (hx : ((plain (some i) body none).classify nesting parse).result =
      .ok ⟨none, some (.call k d s c)⟩)
    (hy : ((plain (some j) body' none).classify nesting' parse').result =
      .ok ⟨none, some (.call k d s' c')⟩) :
    i = j ∧ (i = 400 ∨ i = 401 ∨ i = 500 → body = body') := by
  rcases refusal_cases hi hni hx with ⟨rfl, rfl, rfl⟩ | ⟨ha, rfl, rfl⟩ | ⟨hu, rfl, rfl⟩
  · rcases refusal_cases hj hnj hy with ⟨rfl, -, hd⟩ | ⟨-, hk, -⟩ | ⟨-, hk, -⟩
    · exact ⟨rfl, fun _ => Value.text.inj hd⟩
    · cases hk
    · cases hk
  · rcases refusal_cases hj hnj hy with ⟨-, hk, -⟩ | ⟨hb, -, hd⟩ | ⟨-, hk, -⟩
    · cases hk
    · obtain ⟨hij, hbody⟩ := inaccessible_detail_injective ha hb (Value.text.inj hd)
      exact ⟨hij, fun _ => hbody⟩
    · cases hk
  · rcases refusal_cases hj hnj hy with ⟨-, hk, -⟩ | ⟨-, hk, -⟩ | ⟨-, -, hd⟩
    · cases hk
    · cases hk
    · have ht := List.append_cancel_left (Value.text.inj hd)
      refine ⟨Integer.text_injective ht, fun hc => ?_⟩
      omega

theorem classify_independent (hi : Integer.Writable i) (h : i ≠ 200) (body : Text) :
    ∃ e logs, ∀ {α : Type} (nesting : Nat) (parse : Value → Except Fault α),
      (plain (some i) body none).classify nesting parse = ⟨.ok ⟨none, some e⟩, logs⟩ := by
  by_cases h4 : i = 400
  · subst h4
    exact ⟨_, _, fun nesting parse => classify_refused body nesting parse⟩
  by_cases ha : i = 401 ∨ i = 500
  · exact ⟨_, _, fun nesting parse => classify_inaccessible hi ha body nesting parse⟩
  · exact ⟨_, _, fun nesting parse => classify_unexpected hi ⟨h, by omega⟩ body nesting parse⟩

/-! ## What is no outcome -/

/--
Only a fault of a body of success is no outcome, and only if it does not show the body to be no
answer.
-/
theorem classify_eq_error_iff {nesting : Nat} {parse : Value → Except Fault α} {f : Fault}
    (hs : ∀ n, status = some n → Integer.Writable n) (hf : ∀ f, fault = some f → f.CarriesPlain)
    (hparse : ∀ f, parsed nesting body parse = .error f → ∃ t, f.text? = some t) :
    ((plain status body fault).classify nesting parse).result = .error f ↔
      status = some 200 ∧ fault = none ∧ parsed nesting body parse = .error f ∧
        f.isAnswerFault = false := by
  by_cases hreached : (plain status body fault).reachedNode = false
  · obtain ⟨reason, hr⟩ := exists_reason hf
    rw [classify_unreached hreached hr]
    constructor
    · intro h
      cases h
    · rintro ⟨rfl, rfl, -⟩
      cases hreached
  obtain ⟨hstatus, hfault⟩ := not_or.mp (mt reachedNode_plain_eq_false_iff.mpr hreached)
  obtain ⟨n, rfl⟩ := Option.ne_none_iff_exists'.mp hstatus
  obtain rfl := Classical.not_not.mp hfault
  by_cases hn : n = 200
  · subst hn
    rcases classify_success_cases body nesting parse with
      ⟨v, hp, hc⟩ | ⟨e, hp, ha, hc⟩ | ⟨e, hp, ha, hc⟩
    · simp [hc, hp]
    · obtain ⟨t, ht⟩ := hparse e hp
      rw [hc, hp, ht]
      constructor
      · intro h
        cases h
      · rintro ⟨-, -, he, hna⟩
        cases he
        rw [ha] at hna
        cases hna
    · rw [hc, hp]
      constructor
      · intro h
        cases h
        exact ⟨rfl, rfl, rfl, ha⟩
      · rintro ⟨-, -, he, -⟩
        cases he
        rfl
  · obtain ⟨e, logs, hc⟩ := classify_independent (hs n rfl) hn body
    rw [hc]
    constructor
    · intro h
      cases h
    · rintro ⟨h, -⟩
      exact absurd (Option.some.inj h) hn

/--
Whether the node was reached and its status decide the outcome. Only the value read from a body of
success, or the fault that kept it from being read, depends on the parser.
-/
theorem classify_partition (hs : ∀ n, status = some n → Integer.Writable n)
    (hf : ∀ f, fault = some f → f.CarriesTexts) :
    let a := plain status body fault
    (∀ {α : Type} (nesting : Nat) (parse : Value → Except Fault α) o,
      (a.classify nesting parse).result = .ok o →
      (∃ v, o = ⟨some v, none⟩) ∨
        ∃ kind detail s cause, o = ⟨none, some (.call (some kind) detail s cause)⟩) ∧
    (a.reachedNode = false ↔ status = none ∨ fault ≠ none) ∧
    (a.reachedNode = false → ∃ reason,
      fault.elim (some ("None" : Text)) Fault.text? = some reason ∧
      ∀ {α : Type} (nesting : Nat) (parse : Value → Except Fault α),
        a.classify nesting parse = ⟨.ok ⟨none, some (.call (some .transport)
          (.text (("node not reachable: " : Text) ++ reason)) .null fault)⟩, []⟩) ∧
    (∀ n, status = some n → fault = none →
      (n = 200 → ∀ {α : Type} (nesting : Nat) (parse : Value → Except Fault α),
        let read := (Json.read nesting body).mapError .unreadable >>= parse
        (∀ v, (a.classify nesting parse).result = .ok ⟨some v, none⟩ ↔ read = .ok v) ∧
        ∀ e, (a.classify nesting parse).result = .ok ⟨none, some e⟩ ↔
          ∃ f reason, read = .error f ∧ f.isAnswerFault = true ∧ f.text? = some reason ∧
            e = .call (some .transport) (.text (("unparsable response: " : Text) ++ reason))
              (.int n) (some f)) ∧
      (n = 400 → ∀ {α : Type} (nesting : Nat) (parse : Value → Except Fault α),
        a.classify nesting parse =
          ⟨.ok ⟨none, some (.call (some .client) (.text body) (.int n) none)⟩, []⟩) ∧
      (n = 401 ∨ n = 500 → ∀ {α : Type} (nesting : Nat) (parse : Value → Except Fault α),
        a.classify nesting parse = ⟨.ok ⟨none, some (.call (some .access)
          (.text (Integer.text n ++ (" " : Text) ++ body)) (.int n) none)⟩, []⟩) ∧
      (n ≠ 200 ∧ n ≠ 400 ∧ n ≠ 401 ∧ n ≠ 500 →
        ∀ {α : Type} (nesting : Nat) (parse : Value → Except Fault α), a.classify nesting parse =
          ⟨.ok ⟨none, some (.call (some .transport)
            (.text (("unexpected status " : Text) ++ Integer.text n)) (.int n) none)⟩,
            [.unexpectedStatus (Integer.text n) body]⟩)) ∧
    (status ≠ some 200 ∨ fault ≠ none → ∃ e logs,
      ∀ {α : Type} (nesting : Nat) (parse : Value → Except Fault α),
        a.classify nesting parse = ⟨.ok ⟨none, some e⟩, logs⟩) ∧
    (∀ n, status = some n → n ≠ 200 → fault = none → ∀ m, m ≠ 200 → Integer.Writable m →
      ∀ {α β : Type} (nesting : Nat) (parse : Value → Except Fault α) (nesting' : Nat)
        (parse' : Value → Except Fault β)
        (body' : Text) (kind : Option ErrorKind) (detail s s' : Value) (c c' : Option Fault),
        (a.classify nesting parse).result = .ok ⟨none, some (.call kind detail s c)⟩ →
        ((plain (some m) body' none).classify nesting' parse').result =
          .ok ⟨none, some (.call kind detail s' c')⟩ →
        n = m ∧ (n = 400 ∨ n = 401 ∨ n = 500 → body = body')) := by
  intro a
  obtain ⟨reason, hr⟩ := exists_reason fun f h => (hf f h).carriesPlain
  refine ⟨fun nesting parse o h => ?_, reachedNode_plain_eq_false_iff,
    fun h => ⟨reason, hr, fun nesting parse => classify_unreached h hr nesting parse⟩, ?_, ?_, ?_⟩
  · rcases classify_exclusive h with ⟨w, v, -, ho⟩ | ho
    · exact .inl ⟨v, ho⟩
    · exact .inr ho
  · rintro n rfl rfl
    have hn := hs n rfl
    refine ⟨?_, ?_, fun h _ nesting parse => classify_inaccessible hn h body nesting parse,
      fun h _ nesting parse => classify_unexpected hn h body nesting parse⟩
    · rintro rfl α nesting parse
      exact ⟨fun v => classify_value_iff, fun e => classify_error_iff⟩
    · rintro rfl α nesting parse
      exact classify_refused body nesting parse
  · intro h
    by_cases hreached : a.reachedNode = false
    · exact ⟨_, _, fun nesting parse => classify_unreached hreached hr nesting parse⟩
    · obtain ⟨hstatus, hfault⟩ := not_or.mp (mt reachedNode_plain_eq_false_iff.mpr hreached)
      obtain ⟨n, rfl⟩ := Option.ne_none_iff_exists'.mp hstatus
      obtain rfl := Classical.not_not.mp hfault
      exact classify_independent (hs n rfl) (by simpa using h) body
  · rintro n rfl hn rfl m hm hw α β nesting parse nesting' parse' body' kind detail s s' c c' hx hy
    exact refusal_injective (hs n rfl) hw hn hm hx hy

theorem classify_refused_connection :
    let fault : Fault := .raised (.standard .connect) [.text "refused"]
    (plain (some 200) "{}" fault).classify 90 (fun v => .ok v) =
        ⟨.ok ⟨none, some (.call (some .transport) (.text "node not reachable: refused")
          .null fault)⟩, []⟩ ∧
      (plain (some 404) "{}" none).classify 90 (fun v => .ok v) =
        ⟨.ok ⟨none, some (.call (some .transport) (.text "unexpected status 404")
          (.int 404) none)⟩, [.unexpectedStatus "404" "{}"]⟩ := by
  intro fault
  have writable : ∀ i : Int, i = 200 ∨ i = 404 → ∀ n, some i = some n → Integer.Writable n := by
    rintro i (rfl | rfl) n h
    · cases h
      decide
    · cases h
      decide
  constructor
  · have texts : ∀ f, some fault = some f → f.CarriesTexts := by
      intro f h
      cases h
      intro v hv
      obtain rfl := List.mem_singleton.mp hv
      exact ⟨_, rfl⟩
    obtain ⟨-, -, unreached, -⟩ :=
      @classify_partition (some 200) "{}" _ (writable 200 (.inl rfl)) texts
    obtain ⟨reason, hr, h⟩ := unreached rfl
    cases hr
    exact h _ _
  · obtain ⟨-, -, -, reached, -⟩ :=
      @classify_partition (some 404) "{}" none (writable 404 (.inr rfl)) nofun
    exact (reached 404 rfl rfl).2.2.2 (by decide) _ _

end TangleGateway.Answer
