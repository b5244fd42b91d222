import TangleGateway.Http.Client
import TangleGateway.Proofs.Gateway.Dispatch
import TangleGateway.Proofs.Value.Entries

/-! # Stacks of headers

Headers are added to a sender one around the other. The one closest to the sender is put last, so it
wins over those around it, while a name keeps the place that the outermost of them gave it.
-/

namespace TangleGateway

/-- The request with a list of headers put into it, from the last one to the first. -/
def NodeRequest.withHeaders (headers : List (Text × Value)) (r : NodeRequest) : NodeRequest :=
  { r with headers := r.headers.putAll headers.reverse }

namespace NodeRequest

variable (headers : List (Text × Value)) (r : NodeRequest)

theorem withHeaders_cons (h : Text × Value) :
    r.withHeaders (h :: headers) = (r.withHeaders headers).withHeader h.1 h.2 := by
  simp only [withHeaders, withHeader, Entries.putAll, List.reverse_cons, List.foldl_append,
    List.foldl_cons, List.foldl_nil]

theorem get?_withHeaders (name : Text) :
    (r.withHeaders headers).headers.get? name =
      (Entries.get? name headers).or (r.headers.get? name) := by
  rw [withHeaders, Entries.get?_putAll_reverse, List.reverse_reverse]

theorem names_withHeaders : (r.withHeaders headers).headers.names = r.headers.names ++
    ((headers.map Prod.fst).reverse.filter fun name => name ∉ r.headers.names).eraseDups := by
  have hnames : Entries.names headers.reverse = (headers.map Prod.fst).reverse :=
    List.map_reverse
  rw [withHeaders, Entries.names_putAll, hnames]

end NodeRequest

/-- A stack of headers passes one request on, whatever it is passed on to. -/
theorem Sender.addHeaders_eq {α : Type} (headers : List (Text × Value)) (send : NodeRequest → α)
    (r : NodeRequest) : addHeaders headers send r = send (r.withHeaders headers) := by
  induction headers generalizing send with
  | nil => rfl
  | cons h headers ih =>
    change addHeaders headers (addHeader h.1 h.2 send) r = _
    rw [ih, r.withHeaders_cons]
    rfl

/-! ## Requests by reference -/

namespace SharedSender

variable {α : Type}

/-- The sender sends a request as it is at the moment, and no map is changed. -/
structure Sends (shared : SharedSender α) (send : NodeRequest → α) : Prop where
  result : ∀ (r : SharedRequest) (s : HeaderStore), (shared r s).1 = send (s.view r)
  maps : ∀ (r : SharedRequest) (s : HeaderStore), s.maps <+: (shared r s).2.maps

theorem sends_ofSender (send : NodeRequest → α) : (ofSender send).Sends send :=
  ⟨fun _ _ => rfl, fun _ _ => List.prefix_rfl⟩

theorem view_copyWith (s : HeaderStore) (name : Text) (value : Value) (r : SharedRequest) :
    (s.copyWith name value r).2.view (s.copyWith name value r).1 =
      (s.view r).withHeader name value := by
  simp [HeaderStore.copyWith, HeaderStore.view, NodeRequest.withHeader]

variable {shared : SharedSender α} {send : NodeRequest → α}

theorem Sends.addHeader (h : shared.Sends send) (name : Text) (value : Value) :
    (addHeader name value shared).Sends (Sender.addHeader name value send) where
  result r s := (h.result _ _).trans (congrArg send (view_copyWith s name value r))
  maps _ _ := (List.prefix_append _ _).trans (h.maps _ _)

theorem Sends.addHeaders (h : shared.Sends send) (headers : List (Text × Value)) :
    (addHeaders headers shared).Sends (Sender.addHeaders headers send) := by
  induction headers generalizing shared send with
  | nil => exact h
  | cons header headers ih => exact ih (h.addHeader header.1 header.2)

theorem Sends.view (h : shared.Sends send) (r : SharedRequest) (s : HeaderStore)
    {other : SharedRequest} (ho : other.headers < s.maps.length) :
    (shared r s).2.view other = s.view other := by
  obtain ⟨more, hmore⟩ := h.maps r s
  rw [HeaderStore.view, HeaderStore.view, ← hmore, List.getElem?_append_left ho]

end SharedSender

/--
A request that goes through a stack of headers is sent once, to the same node and with the same
payload. In it a name has the value of the first header of that name, a header of its own if there
is none, and no others. New names follow the old ones from the outermost header inwards. What comes
back is what the sender gave, and the map of the request at hand is still as it was. Headers of
different names may be stacked in any order.
-/
theorem Sender.header_stack (headers : List (Text × Value)) (r : NodeRequest) :
    ∃ sent : NodeRequest,
      (∀ {α : Type} (send : NodeRequest → α), addHeaders headers send r = send sent) ∧
      sent.url = r.url ∧ sent.payload = r.payload ∧
      (∀ name, sent.headers.get? name =
        (Entries.get? name headers).or (r.headers.get? name)) ∧
      sent.headers.names = r.headers.names ++
        ((headers.map Prod.fst).reverse.filter fun name => name ∉ r.headers.names).eraseDups ∧
      (r.headers.names.Nodup → sent.headers.names.Nodup) ∧
      (∀ (http : HttpLibrary) (recorder : Recorder),
        let sending : Sending http := addHeaders headers recorder.send r
        sending.sent = [.recorded sent] ∧ sending.answer = recorder.reply ∧
          sending.transport = .recorder recorder.next) ∧
      (∀ {α : Type} (send : NodeRequest → α) (shared : SharedRequest) (s : HeaderStore),
        s.view shared = r →
        let sending := SharedSender.addHeaders headers (.ofSender send) shared s
        sending.1 = send sent ∧ ∀ other : SharedRequest, other.headers < s.maps.length →
          sending.2.view other = s.view other) ∧
      ∀ headers' : List (Text × Value), headers.Perm headers' → (headers.map Prod.fst).Nodup →
        ∃ sent' : NodeRequest,
          (∀ {α : Type} (send : NodeRequest → α), addHeaders headers' send r = send sent') ∧
          sent'.url = r.url ∧ sent'.payload = r.payload ∧
          ∀ name, sent'.headers.get? name = sent.headers.get? name := by
  refine ⟨r.withHeaders headers, fun send => addHeaders_eq headers send r, rfl, rfl,
    r.get?_withHeaders headers, r.names_withHeaders headers,
    fun hn => Entries.nodup_names_putAll hn headers.reverse, fun http recorder => ?_,
    fun send shared s hr => ?_, fun headers' hp hn => ?_⟩
  · intro sending
    have hsending : sending = recorder.send (r.withHeaders headers) := addHeaders_eq headers _ r
    rw [hsending]
    exact ⟨rfl, rfl, rfl⟩
  · have hsends := (SharedSender.sends_ofSender send).addHeaders headers
    refine ⟨?_, fun other ho => hsends.view shared s ho⟩
    exact (hsends.result shared s).trans (hr ▸ addHeaders_eq headers send _)
  · refine ⟨r.withHeaders headers', fun send => addHeaders_eq headers' send r, rfl, rfl,
      fun name => ?_⟩
    rw [r.get?_withHeaders, r.get?_withHeaders, Entries.get?_perm hp hn]

/-- A name is given three times and one of them is there already; the answer is a fault. -/
theorem Sender.header_stack_repeated :
    let fault : Fault := .raised (.standard .connectionReset) []
    let r : NodeRequest := ⟨"http://n:1", .dict [], [("A", .int 0), ("B", .int 1)]⟩
    let headers : List (Text × Value) :=
      [("X", .int 2), ("A", .int 3), ("Y", .null), ("X", .int 4)]
    let recorder : Recorder := ⟨[.error fault], true⟩
    let sending : Sending HttpClient.library := addHeaders headers recorder.send r
    let shared : SharedRequest := ⟨r.url, r.payload, 0⟩
    let after := (SharedSender.addHeaders headers (.ofSender id) shared ⟨[r.headers]⟩).2
    (∃ sent : NodeRequest, sending.sent = [.recorded sent] ∧
      sent.headers.names = ["A", "B", "X", "Y"] ∧ sent.headers.get? "X" = some (.int 2) ∧
      sent.headers.get? "A" = some (.int 3) ∧ sent.headers.get? "B" = some (.int 1)) ∧
    sending.answer = .error fault ∧ after.view shared = r ∧
    ∀ name, (addHeaders (headers.take 3) id r).headers.get? name =
      (addHeaders (headers.take 3).reverse id r).headers.get? name := by
  intro fault r headers recorder sending shared after
  obtain ⟨sent, -, -, -, hget, hnames, -, hrecorder, hshared, -⟩ := header_stack headers r
  obtain ⟨hsent, hanswer, -⟩ := hrecorder HttpClient.library recorder
  obtain ⟨-, hview⟩ := hshared id shared ⟨[r.headers]⟩ rfl
  refine ⟨⟨sent, hsent, ?_, ?_, ?_, ?_⟩, hanswer, hview shared Nat.zero_lt_one, fun name => ?_⟩
  · rw [hnames]
    decide +kernel
  · rw [hget]
    rfl
  · rw [hget]
    rfl
  · rw [hget]
    rfl
  · obtain ⟨first, hfirst, -, -, -, -, -, -, -, hperm⟩ := header_stack (headers.take 3) r
    have hdistinct : ((headers.take 3).map Prod.fst).Nodup := by decide +kernel
    obtain ⟨second, hsecond, -, -, hsame⟩ := hperm _ (List.reverse_perm _).symm hdistinct
    rw [hfirst, hsecond]
    exact (hsame name).symm

end TangleGateway
