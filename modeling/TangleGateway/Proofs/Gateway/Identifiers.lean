import TangleGateway.Proofs.Gateway.Posting
import TangleGateway.Proofs.Gateway.Requests
import TangleGateway.Proofs.Gateway.Validation

/-! # Identifiers on the wire

Three operations check the identifiers they are given. Every request of theirs carries those
identifiers in order. A search by addresses sends each without its checksum; the other two send
each as it is given, with the checksum if it has one.
-/

namespace TangleGateway

namespace Trytes

variable {v : Value}

/-- An identifier without a checksum. -/
def IsBare (v : Value) : Prop :=
  ∃ t : Text, v = .text t ∧ t.length = 81 ∧ ∀ c ∈ t, IsTryte c

def bare : Value → Value
  | .text t => .text (t.take 81)
  | v => v

theorem IsBare.isIdentifier (h : IsBare v) : IsIdentifier v := by
  obtain ⟨t, rfl, hl, ht⟩ := h
  exact ⟨t, rfl, .inl hl, ht⟩

theorem IsIdentifier.isBare_bare (h : IsIdentifier v) : IsBare (bare v) := by
  obtain ⟨t, rfl, hl, ht⟩ := h
  refine ⟨t.take 81, rfl, ?_, fun c hc => ht c (List.mem_of_mem_take hc)⟩
  rw [List.length_take]
  omega

end Trytes

open Trytes

/-! ## What a request carries -/

/-- The object of a request: its payload, or what the content of a post is decoded to. -/
def SentRequest.object? : SentRequest → Option (Entries Value)
  | recorded r =>
    match r.payload with
    | .dict es => some es
    | _ => none
  | posted p =>
    match Answer.decodeBody 2 (.bytes p.content) with
    | .ok (.dict es) => some es
    | _ => none

namespace Entries

/-- The items of a list that stands under a name. -/
def itemsAt (es : Entries Value) (name : Text) : List Value :=
  match es.get? name with
  | some (.list vs) => vs
  | _ => []

/-- The identifiers under any of the names that an object has for them. -/
def identifiers (es : Entries Value) : List Value :=
  (["hashes", "transactions", "tips", "addresses"] : List Text).flatMap es.itemsAt

end Entries

theorem Transport.object?_of_mem_sent {http : HttpLibrary} (hd : http.Documented)
    {t : Transport http} {r : NodeRequest} {es : Entries Value} (hr : r.payload = .dict es)
    (hes : Json.Portable 2 (.dict es)) {sent : SentRequest} (hs : sent ∈ (t.send r).sent) :
    sent.object? = some es := by
  cases t with
  | recorder recorder =>
    obtain rfl := List.mem_singleton.mp hs
    simp only [SentRequest.object?, hr]
  | poster p =>
    obtain ⟨post, hpost, rfl⟩ := List.mem_map.mp hs
    have he : http.encode (.dict es) = .ok post.content := hr ▸ hd.encode_of_mem_sent hpost
    obtain ⟨t, hw, hc⟩ := hd.encode_compact he
    simp only [SentRequest.object?, Json.decodeBody_object hes hw hc]

namespace Operation

def checksIdentifiers : Operation → Bool
  | findTransactionsByAddresses _ | getInclusionStates .. | getTrytes _ => true
  | _ => false

def stripsChecksums : Operation → Bool
  | findTransactionsByAddresses _ => true
  | _ => false

def identifiers : Operation → List Value
  | findTransactionsByAddresses addresses => addresses
  | getInclusionStates transactions tips =>
    transactions.sequence?.getD [] ++ tips.sequence?.getD []
  | getTrytes hashes => hashes
  | _ => []

/-- The identifiers as an operation sends them. -/
def identifiersSent (op : Operation) : List Value :=
  if op.stripsChecksums then op.identifiers.map bare else op.identifiers

variable {op : Operation} {c : ValueCommand}

/-- What a command is made of, once the identifiers are checked. -/
structure Checked (op : Operation) (c : ValueCommand) : Prop where
  given : ∀ x ∈ op.identifiers, IsIdentifier x
  sent : Entries.identifiers (c.payload id) = op.identifiersSent
  portable : Json.Portable 2 (.dict (c.payload id))

theorem portable_payload {word : Text} (lists : List (Text × List Value))
    (hn : (("command" : Text) :: lists.map Prod.fst).Nodup)
    (h : ∀ l ∈ lists, ∀ x ∈ l.2, IsIdentifier x) :
    Json.Portable 2 (.dict (("command", .text word) :: lists.map fun l => (l.1, .list l.2))) := by
  refine .dict (by simpa [Entries.names, Function.comp_def] using hn) ?_
  simp only [List.forall_mem_cons, List.forall_mem_map]
  refine ⟨.text word, fun l hl => .list fun x hx => ?_⟩
  obtain ⟨t, rfl, -⟩ := h l hl x hx
  exact .text t

theorem checked_getTrytes {hashes : List Value} (hc : (getTrytes hashes).command = .ok c) :
    Checked (getTrytes hashes) c := by
  have hid : ∀ x ∈ hashes, IsIdentifier x := by
    by_contra h
    rw [getTrytes_command_eq_error (by simpa using h)] at hc
    cases hc
  obtain rfl := Except.ok.inj ((getTrytes_command hid).symm.trans hc)
  refine ⟨hid, List.append_nil hashes, ?_⟩
  have hn : (["command", "hashes"] : List Text).Nodup := by decide
  exact portable_payload [("hashes", hashes)] hn (List.forall_mem_singleton.mpr hid)

theorem checked_getInclusionStates {transactions tips : Value}
    (hc : (getInclusionStates transactions tips).command = .ok c) :
    Checked (getInclusionStates transactions tips) c := by
  have hid : IsIdentifierSequence transactions ∧ IsIdentifierSequence tips := by
    by_contra h
    rw [getInclusionStates_command_eq_error h] at hc
    cases hc
  obtain ⟨⟨xs, hx, hxs⟩, ys, hy, hys⟩ := hid
  obtain rfl := Except.ok.inj ((getInclusionStates_command hx hy hxs hys).symm.trans hc)
  have hgiven : (getInclusionStates transactions tips).identifiers = xs ++ ys := by
    simp only [identifiers, hx, hy, Option.getD_some]
  refine ⟨?_, ?_, ?_⟩
  · rw [hgiven, List.forall_mem_append]
    exact ⟨hxs, hys⟩
  · change xs ++ (ys ++ []) = (getInclusionStates transactions tips).identifiers
    rw [hgiven, List.append_nil]
  · have hn : (["command", "transactions", "tips"] : List Text).Nodup := by decide
    exact portable_payload [("transactions", xs), ("tips", ys)] hn
      (List.forall_mem_cons.mpr ⟨hxs, List.forall_mem_singleton.mpr hys⟩)

theorem checked_findTransactionsByAddresses {addresses : List Value}
    (hc : (findTransactionsByAddresses addresses).command = .ok c) :
    Checked (findTransactionsByAddresses addresses) c := by
  have hid : ∀ x ∈ addresses, IsIdentifier x := by
    by_contra h
    rw [findTransactionsByAddresses_command_eq_error (by simpa using h)] at hc
    cases hc
  obtain ⟨texts, rfl⟩ := Gateway.exists_texts hid
  have htexts : ∀ t ∈ texts, IsIdentifier (.text t) := fun t ht => hid _ (List.mem_map_of_mem ht)
  obtain rfl := Except.ok.inj ((findTransactionsByAddresses_command htexts).symm.trans hc)
  have hbare : texts.map (fun t => Value.text (t.take 81)) = (texts.map Value.text).map bare := by
    rw [List.map_map]
    rfl
  refine ⟨hid, ?_, ?_⟩
  · change texts.map (fun t => Value.text (t.take 81)) ++ [] = (texts.map Value.text).map bare
    rw [List.append_nil, hbare]
  · have hn : (["command", "addresses"] : List Text).Nodup := by decide
    refine portable_payload [("addresses", texts.map fun t => .text (t.take 81))] hn
      (List.forall_mem_singleton.mpr ?_)
    rw [hbare, List.forall_mem_map]
    exact fun x hx => (hid x hx).isBare_bare.isIdentifier

theorem checked_command (hop : op.checksIdentifiers = true) (hc : op.command = .ok c) :
    Checked op c := by
  cases op with
  | getTrytes => exact checked_getTrytes hc
  | getInclusionStates => exact checked_getInclusionStates hc
  | findTransactionsByAddresses => exact checked_findTransactionsByAddresses hc
  | _ => cases hop

end Operation

namespace Gateway

variable {http : HttpLibrary}

theorem execute_requests (g : Gateway http) (c : ValueCommand) :
    (g.execute c).requests = [] ∨
      ∃ url, (g.execute c).requests = (g.transport.send (g.config.requestOf url c)).sent := by
  cases hu : g.config.baseUrl with
  | error f => exact .inl (by simp only [execute, hu]; rfl)
  | ok url => exact .inr ⟨url, by rw [execute_eq_dispatch hu, dispatch_eq]⟩

theorem object?_of_mem_perform (hd : http.Documented) {g : Gateway http} {op : Operation}
    (hop : op.checksIdentifiers = true) {nesting : Nat} {r : SentRequest}
    (hr : r ∈ (g.perform nesting op).requests) :
    (∀ x ∈ op.identifiers, IsIdentifier x) ∧
      ∃ es, r.object? = some es ∧ es.identifiers = op.identifiersSent := by
  cases hc : op.command with
  | error f =>
    rw [perform, hc] at hr
    cases hr
  | ok c =>
    have hchecked := Operation.checked_command hop hc
    rw [perform_requests nesting hc] at hr
    rcases g.execute_requests c with hnone | ⟨url, hsent⟩
    · rw [hnone] at hr
      cases hr
    · rw [hsent] at hr
      exact ⟨hchecked.given, _, Transport.object?_of_mem_sent hd rfl hchecked.portable hr,
        hchecked.sent⟩

/--
Whenever in a session an operation checks identifiers and sends a request, the identifiers it was
given are well-formed and all of them go out in order. Addresses go out without checksums, all
others as they are given: so no checksum goes out unless it was given to one of the other two.
-/
theorem identifiers_on_wire (hd : http.Documented) (g : Gateway http) {steps : List Step}
    {i nesting : Nat} {op : Operation} (hi : steps[i]? = some (.perform nesting op))
    (hop : op.checksIdentifiers = true) :
    ∃ t, (g.run steps)[i]? = some t ∧ ∀ r ∈ t.requests, ∃ es, r.object? = some es ∧
      (∀ x ∈ op.identifiers, IsIdentifier x) ∧
      es.identifiers = (if op.stripsChecksums then op.identifiers.map bare else op.identifiers) ∧
      (∀ x ∈ es.identifiers, IsIdentifier x) ∧
      ((∀ x ∈ es.identifiers, IsBare x) ↔
        op.stripsChecksums = true ∨ ∀ x ∈ op.identifiers, IsBare x) := by
  refine ⟨_, by rw [run_getElem?, hi]; rfl, fun r hr => ?_⟩
  obtain ⟨hgiven, es, hes, hsent⟩ := object?_of_mem_perform hd hop hr
  refine ⟨es, hes, hgiven, hsent, ?_⟩
  rw [hsent, Operation.identifiersSent]
  by_cases hstrips : op.stripsChecksums = true
  · rw [if_pos hstrips]
    have hbare : ∀ x ∈ op.identifiers.map bare, IsBare x :=
      List.forall_mem_map.mpr fun x hx => (hgiven x hx).isBare_bare
    exact ⟨fun x hx => (hbare x hx).isIdentifier, iff_of_true hbare (.inl hstrips)⟩
  · rw [if_neg hstrips]
    exact ⟨hgiven, (or_iff_right hstrips).symm⟩

theorem identifiers_on_wire_stripped :
    let g := recording HttpClient.library {} ⟨[], false⟩ false
    let trytes (n : Nat) : Value := .text (List.replicate n (.scalar '9'))
    let op : Operation := .findTransactionsByAddresses [trytes 90, trytes 81]
    ∃ t r es, (g.run [.close, .perform 3 op])[1]? = some t ∧ t.requests = [r] ∧
      r.object? = some es ∧ es.identifiers = [trytes 81, trytes 81] := by
  intro g trytes op
  have hi : ([.close, .perform 3 op] : List Step)[1]? = some (.perform 3 op) := rfl
  obtain ⟨t, ht, h⟩ := identifiers_on_wire HttpClient.documented_library g hi rfl
  obtain ⟨r, hr⟩ : ∃ r, t.requests = [r] := by
    cases ht
    exact ⟨_, rfl⟩
  obtain ⟨es, hes, -, hsent, -⟩ := h r (hr ▸ List.mem_singleton_self r)
  exact ⟨t, r, es, ht, hr, hes, hsent⟩

/-- A hash that is given with a checksum goes out with it. -/
theorem checksum_on_wire :
    let g := recording HttpClient.library {} ⟨[], false⟩ false
    let hash : Value := .text (List.replicate 90 (.scalar '9'))
    g.Reachable ∧ ∃ t r es, (g.run [.perform 3 (.getTrytes [hash])])[0]? = some t ∧
      t.requests = [r] ∧ r.object? = some es ∧ es.get? "hashes" = some (.list [hash]) ∧
      ¬ IsBare hash := by
  intro g hash
  have built : (withTransport {} g.transport false).result = .ok g := rfl
  refine ⟨.withTransport built, _, _, _, rfl, rfl, rfl, rfl, ?_⟩
  rintro ⟨t, ht, hl, -⟩
  obtain rfl := Value.text.inj ht
  simp at hl

end Gateway

end TangleGateway
