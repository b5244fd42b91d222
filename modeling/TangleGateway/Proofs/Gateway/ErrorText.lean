import TangleGateway.Proofs.Command.Payload
import TangleGateway.Proofs.Gateway.Failures
import TangleGateway.Proofs.Gateway.Posting
import TangleGateway.Proofs.Gateway.Validation
import TangleGateway.Proofs.Text.Utf8

/-! # The error text of a node

A body in UTF-8 is read as the text it encodes. The text reaches the caller of an operation as it
is when the node refuses the request, and after the status when the node refuses access or fails.
-/

namespace TangleGateway

open Json (Encodable Shallow)

/-- A reply whose body is a text in UTF-8. -/
def HttpReply.encoded (status : Int) (cs : List Char) (contentType : Option Text) : HttpReply :=
  ⟨status, cs.flatMap String.utf8EncodeChar, contentType⟩

section Encoded

variable {http : HttpLibrary} {status : Int} {contentType : Option Text}

theorem Poster.answerOf_encoded (hd : http.Documented) (cs : List Char)
    (h : http.charset contentType = .ok none ∨ http.charset contentType = .ok (some "utf-8")) :
    answerOf (http.respond (.encoded status cs contentType)) =
      .ok (.plain (some status) (.ofChars cs) none) := by
  rw [hd.respond_utf8 h, HttpReply.encoded, Utf8.decodeLossy_encoded]
  rfl

end Encoded

/-! ## Operations on texts -/

/-- A text, or texts in a list or a tuple, or null for what is left out. -/
inductive Value.IsTexts : Value → Prop where
  | null : IsTexts .null
  | text (t : Text) : IsTexts (.text t)
  | list (ts : List Text) : IsTexts (.list (ts.map .text))
  | tuple (ts : List Text) : IsTexts (.tuple (ts.map .text))

theorem Value.IsTexts.writable {v : Value} (h : v.IsTexts) : Json.Writable v := by
  have texts (ts : List Text) : ∀ v ∈ ts.map Value.text, Json.Writable v :=
    List.forall_mem_map.mpr fun t _ => Json.writable_text t
  cases h with
  | null => exact ⟨_, rfl⟩
  | text t => exact Json.writable_text t
  | list ts => exact Json.writable_list_iff.mpr (texts ts)
  | tuple ts => exact Json.writable_tuple_iff.mpr (texts ts)

theorem Recipe.exists_filterOf {v : Value} (h : v.IsTexts) : ∃ f, filterOf id v = .ok f := by
  cases h <;> exact ⟨_, rfl⟩

theorem Value.IsTexts.shallow {v : Value} (h : v.IsTexts) : Shallow 1 v := by
  have texts (ts : List Text) : ∀ v ∈ ts.map Value.text, Shallow 0 v :=
    List.forall_mem_map.mpr fun t _ => .text t
  cases h with
  | null => exact .null
  | text t => exact .text t
  | list ts => exact .list (texts ts)
  | tuple ts => exact .tuple (texts ts)

namespace Operation

variable {op : Operation}

/-- All arguments are texts, but for a depth, which is an integer that can be written. -/
def GivenTexts : Operation → Prop
  | getTransactionsToApprove depth reference =>
    (∃ i, Integer.Writable i ∧ depth = .int i) ∧ reference.IsTexts
  | op => ∀ v ∈ op.arguments, v.IsTexts

theorem GivenTexts.writable (h : op.GivenTexts) : ∀ v ∈ op.arguments, Json.Writable v := by
  cases op with
  | getTransactionsToApprove depth reference =>
    obtain ⟨⟨i, hi, rfl⟩, hr⟩ := h
    exact List.forall_mem_cons.mpr
      ⟨Json.writable_int hi, List.forall_mem_singleton.mpr hr.writable⟩
  | _ => exact fun v hv => (h v hv).writable

theorem GivenTexts.shallow (h : op.GivenTexts) : ∀ v ∈ op.arguments, Shallow 1 v := by
  cases op with
  | getTransactionsToApprove depth reference =>
    obtain ⟨⟨i, -, rfl⟩, hr⟩ := h
    exact List.forall_mem_cons.mpr ⟨.int i, List.forall_mem_singleton.mpr hr.shallow⟩
  | _ => exact fun v hv => (h v hv).shallow

/-- No malformed identifier keeps the operation from its command. -/
def PassesValidation (op : Operation) : Prop :=
  ∀ f, op.command = .error f → f.cls ≠ .standard .validation

theorem GivenTexts.exists_command (h : op.GivenTexts) (hv : op.PassesValidation) :
    ∃ c, op.command = .ok c := by
  cases hr : op.recipe with
  | error f =>
    have hc : op.command = .error f := by rw [command, hr, Except.error_bind_eq]
    exact absurd (cls_of_recipe hr) (hv f hc)
  | ok r =>
    rw [command, hr, Except.ok_bind_eq]
    cases op with
    | findTransactions filters =>
      cases hr
      simp only [GivenTexts, arguments, List.forall_mem_cons] at h
      obtain ⟨ha, ht, hp, hb, -⟩ := h
      obtain ⟨a, ha⟩ := Recipe.exists_filterOf ha
      obtain ⟨t, ht⟩ := Recipe.exists_filterOf ht
      obtain ⟨p, hp⟩ := Recipe.exists_filterOf hp
      obtain ⟨b, hb⟩ := Recipe.exists_filterOf hb
      exact ⟨_, by rw [Recipe.ofValues, Recipe.build, ha, ht, hp, hb]; rfl⟩
    | findTransactionsByAddresses addresses =>
      obtain ⟨stripped, -, hr⟩ := Except.bind_eq_ok_iff.mp hr
      cases hr
      exact ⟨_, rfl⟩
    | getInclusionStates transactions tips =>
      obtain ⟨⟨⟩, hx, hr⟩ := Except.bind_eq_ok_iff.mp hr
      obtain ⟨⟨⟩, hy, hr⟩ := Except.bind_eq_ok_iff.mp hr
      cases hr
      obtain ⟨x, hx⟩ := exists_sequenceOf hx
      obtain ⟨y, hy⟩ := exists_sequenceOf hy
      exact ⟨_, by rw [Recipe.ofValues, Recipe.build, hx, hy]; rfl⟩
    | getTrytes hashes =>
      obtain ⟨-, -, hr⟩ := Except.bind_eq_ok_iff.mp hr
      cases hr
      exact ⟨_, rfl⟩
    | _ =>
      cases hr
      exact ⟨_, rfl⟩

end Operation

/-! ## The text of an error -/

namespace Gateway

variable {http : HttpLibrary} {g : Gateway http} {p : Poster http} {op : Operation}
  {c : ValueCommand} {f : Fault}

/-- The call that a posted request is part of classifies the reply of the network. -/
theorem Posts.call_result (hd : http.Documented) (hg : g.Posts) (ht : g.transport = .poster p)
    {content : List UInt8} (he : http.encode (.dict (c.payload id)) = .ok content) {α : Type}
    (nesting : Nat) (parse : Value → Except Fault α) :
    (g.call nesting c parse).result =
      (settle (p.network.next.map http.respond >>= Poster.answerOf)).result >>= fun a =>
        (a.classify nesting parse).result := by
  obtain ⟨p', ht', hopen⟩ := hg.client
  obtain rfl := Transport.poster.inj (ht.symm.trans ht')
  obtain ⟨url, hu⟩ := hg.url
  rw [call, Trace.andThen_result, (execute_open hd ht hu he hopen).1]

/--
The text a node sends with a status of refusal reaches the caller verbatim, whatever operation was
performed: alone where the request is refused, and after the status where access is or where the
node failed. An operation is not posted only if an argument of it has no bytes.
-/
theorem error_text_verbatim (hd : http.Documented) (hg : g.Posts) (ht : g.transport = .poster p)
    (hop : op.GivenTexts) (hv : op.PassesValidation) {status : Int} (s : List Char)
    {contentType : Option Text}
    (hct : http.charset contentType = .ok none ∨ http.charset contentType = .ok (some "utf-8"))
    (hr : p.network.head? = some (.ok (.encoded status s contentType))) (nesting : Nat) :
    let t := g.perform nesting op
    let raised (kind : ErrorKind) (detail : Text) : Fault :=
      .call (some kind) (.text detail) (.int status) none
    ((∃ post, t.requests = [.posted post]) ∨
      t.requests = [] ∧ (∃ v ∈ op.arguments, ¬ Encodable v) ∧
        ∃ f, t.result = .error f ∧ f.cls = .standard .unencodable) ∧
    ((∃ post, t.requests = [.posted post]) →
      (status = 400 → t.result = .error (raised .client (.ofChars s))) ∧
      (status = 401 → t.result = .error (raised .access (("401 " : Text) ++ .ofChars s))) ∧
      (status = 500 → t.result = .error (raised .access (("500 " : Text) ++ .ofChars s)))) ∧
    ∀ kind detail, (raised kind detail).cls = .standard kind.cls ∧
      (raised kind detail).text? = some detail := by
  intro t raised
  obtain ⟨c, hc⟩ := hop.exists_command hv
  obtain ⟨body, hw⟩ := Operation.inherited_payload Json.inherited_writable hc hop.writable
  have hs := Operation.inherited_payload Json.inherited_shallow hc hop.shallow
  have hrequests : t.requests = (g.execute c).requests := perform_requests nesting hc
  refine ⟨?_, ?_, fun kind detail => ⟨rfl, rfl⟩⟩
  · rw [hrequests]
    rcases hg.posted_or_refused hd hs hw with ⟨-, hposted⟩ | ⟨hhalf, hnone, f, hf, hcls⟩
    · exact .inl hposted
    · refine .inr ⟨hnone, ?_, f, perform_of_execute_error hc hf nesting, hcls⟩
      by_contra! hall
      exact hhalf (Operation.inherited_payload Json.inherited_encodable hc hall)
  · rintro ⟨post, hpost⟩
    obtain ⟨content, he⟩ : ∃ content, http.encode (.dict (c.payload id)) = .ok content := by
      cases he : http.encode (.dict (c.payload id)) with
      | ok content => exact ⟨content, rfl⟩
      | error f =>
        rw [hrequests, (hg.unencodable hd he).2] at hpost
        cases hpost
    have hnext : p.network.next.map http.respond >>= Poster.answerOf =
        .ok (.plain (some status) (.ofChars s) none) := by
      rw [Network.next, hr]
      exact Poster.answerOf_encoded hd s hct
    have raises {f : Fault} (h : (Answer.plain (some status) (.ofChars s) none).classify nesting
        (replyParser op.replyKind) = ⟨.ok ⟨none, some f⟩, []⟩) : t.result = .error f := by
      rw [perform_result hc, hg.call_result hd ht he, hnext]
      change (Answer.classify _ _ _).result >>= Outcome.unwrap = _
      rw [h]
      rfl
    refine ⟨?_, ?_, ?_⟩
    · rintro rfl
      exact raises (Answer.classify_refused _ _ _)
    · rintro rfl
      exact raises (Answer.classify_inaccessible (by decide) (.inl rfl) _ _ _)
    · rintro rfl
      exact raises (Answer.classify_inaccessible (by decide) (.inr rfl) _ _ _)

/-- A mark in front, a line break, a null and characters of every width stay as they are. -/
theorem error_text_verbatim_after_mark :
    let s : List Char := ['\uFEFF', '\n', '\x00', 'é', '\u2028', '😀']
    let op : Operation := .findTransactions ⟨.null, .list [.text "TAG"], .text "AB", .null⟩
    (HttpReply.encoded 401 s none).body = [0xEF, 0xBB, 0xBF, 0x0A, 0x00, 0xC3, 0xA9,
      0xE2, 0x80, 0xA8, 0xF0, 0x9F, 0x98, 0x80] ∧
    ∀ contentType ∈ [none, some "text/plain", some "text/plain; charset=UTF-8"],
      ((fresh [.ok (.encoded 401 s contentType)]).perform 3 op).result =
        .error (.call (some .access) (.text (("401 " : Text) ++ .ofChars s)) (.int 401) none) := by
  intro s op
  have hop : op.GivenTexts := by
    simp only [op, Operation.GivenTexts, Operation.arguments, List.forall_mem_cons]
    exact ⟨.null, .list ["TAG"], .text "AB", .null, nofun⟩
  have hv : op.PassesValidation := by
    rintro f ⟨⟩
  have hm : ContentType.IsMediaType "text/plain" := ⟨by decide, by decide⟩
  have raised {contentType : Option Text} (h : ContentType.IsUtf8 contentType) :
      ((fresh [.ok (.encoded 401 s contentType)]).perform 3 op).result =
        .error (.call (some .access) (.text (("401 " : Text) ++ .ofChars s)) (.int 401) none) := by
    obtain ⟨hposted, hresult, -⟩ := error_text_verbatim HttpClient.documented_library
      (posts_fresh [.ok (.encoded 401 s contentType)]) rfl hop hv s
      (HttpClient.charset_of_isUtf8 h) rfl 3
    refine (hresult (hposted.resolve_right ?_)).2.1 rfl
    rintro ⟨-, ⟨v, hmem, hhalf⟩, -⟩
    have tags : Encodable (.list [.text "TAG"]) :=
      .list (List.forall_mem_singleton.mpr (.text ⟨_, rfl⟩))
    have hall : ∀ v ∈ op.arguments, Encodable v := by
      simp only [op, Operation.arguments, List.forall_mem_cons]
      exact ⟨.null, tags, .text ⟨_, rfl⟩, .null, nofun⟩
    exact hhalf (hall v hmem)
  refine ⟨by decide, ?_⟩
  simp only [List.forall_mem_cons]
  refine ⟨raised .none, raised (.mediaType hm (by decide)), ?_, nofun⟩
  exact raised (.named (u := "UTF-8") hm (by decide) rfl)

end Gateway

end TangleGateway
