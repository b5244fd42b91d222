import TangleGateway.Proofs.Gateway.Posting
import TangleGateway.Proofs.Gateway.Requests

/-! # Who closes a client

A client of the gateway's own is closed by closing the gateway or the client, a client of the
caller only by closing the client. Once closed it stays closed: a command is then refused before
anything is posted, and no reply is taken.
-/

namespace TangleGateway

/-- The step closes the transport of a gateway that owns it, or that does not. -/
def Step.closes (owned : Bool) : Step → Bool
  | .closeTransport => true
  | .exit | .close => owned
  | _ => false

theorem Step.closes_owned_iff {s : Step} :
    s.closes true = true ↔ s = .close ∨ s = .exit ∨ s = .closeTransport := by
  cases s <;> simp [closes]

theorem Step.closes_supplied_iff {s : Step} : s.closes false = true ↔ s = .closeTransport := by
  cases s <;> simp [closes]

theorem Step.closes_of_command {s : Step} (h : s.command? ≠ none) (owned : Bool) :
    s.closes owned = false := by
  cases s with
  | perform | call | execute => rfl
  | _ => exact absurd rfl h

variable {http : HttpLibrary}

/-- The replies that are left to a client. -/
def Transport.network? : Transport http → Option Network
  | recorder _ => none
  | poster p => some p.network

theorem Poster.send_alike (hd : http.Documented) {r : NodeRequest} (hr : (callOf r).Plain)
    (p : Poster http) : ∃ c, http.Alike p.client c ∧
      (p.send r).transport = .poster ⟨c, p.network.drop (p.send r).sent.length⟩ := by
  cases he : http.encode r.payload with
  | error f =>
    obtain ⟨c, hc, hsend⟩ := send_unencodable (p := p) hd hr he
    exact ⟨c, hc, by rw [hsend]; rfl⟩
  | ok content =>
    cases hclosed : http.isClosed p.client with
    | true =>
      obtain ⟨c, hc, hsend⟩ := send_closed hd hr he hclosed
      exact ⟨c, hc, by rw [hsend]; rfl⟩
    | false =>
      obtain ⟨post, c, hc, -, -, hsend⟩ := send_open hd hr he hclosed
      exact ⟨c, hc, by rw [hsend, List.length_singleton, List.drop_one]⟩

namespace Gateway

/-- The gateway posts over a client with these times, which is closed or open. -/
structure Over (g : Gateway http) (config : Config) (owned : Bool) (timeouts : Timeouts)
    (closed : Bool) (network : Network) : Prop where
  config : g.config = config
  owned : g.ownsTransport = owned
  client : ∃ c, g.transport = .poster ⟨c, network⟩ ∧ http.isClosed c = closed ∧
    http.timeouts c = timeouts

variable {g : Gateway http} {config : Config} {owned closed : Bool} {timeouts : Timeouts}
  {network : Network} {url : Text} {op : Operation} {c : ValueCommand} {content : List UInt8}

theorem Over.closed_eq (h : g.Over config owned timeouts closed network) :
    g.transport.closed = closed := by
  obtain ⟨c, ht, hc, -⟩ := h.client
  rw [ht]
  exact hc

theorem Over.network?_eq (h : g.Over config owned timeouts closed network) :
    g.transport.network? = some network := by
  obtain ⟨c, ht, -⟩ := h.client
  rw [ht]
  rfl

/-! ## Steps -/

theorem Over.closeTransport (hd : http.Documented)
    (h : g.Over config owned timeouts closed network) :
    { g with transport := g.transport.close }.Over config owned timeouts true network := by
  obtain ⟨c, ht, -, htimeouts⟩ := h.client
  refine ⟨h.config, h.owned, http.close c, ?_, hd.isClosed_close c, ?_⟩
  · rw [ht]
    rfl
  · rw [hd.timeouts_close, htimeouts]

theorem Over.close (hd : http.Documented) (h : g.Over config owned timeouts closed network) :
    g.close.Over config owned timeouts (closed || owned) network := by
  unfold Gateway.close
  split
  · rename_i ho
    obtain rfl : owned = true := h.owned.symm.trans ho
    rw [Bool.or_true]
    exact h.closeTransport hd
  · rename_i ho
    obtain rfl : owned = false := h.owned.symm.trans (Bool.eq_false_iff.mpr ho)
    rw [Bool.or_false]
    exact h

theorem Over.execute (hd : http.Documented) (hu : config.PostsTo url)
    (h : g.Over config owned timeouts closed network) (c : ValueCommand) :
    (g.execute c).gateway.Over config owned timeouts closed
      (network.drop (g.execute c).requests.length) := by
  obtain ⟨client, ht, hclosed, htimeouts⟩ := h.client
  obtain ⟨client', hc, hsend⟩ := Poster.send_alike hd (hu.plain_call c) ⟨client, network⟩
  obtain ⟨-, hrequests, hgateway⟩ := execute_poster (c := c) ht (h.config ▸ hu.baseUrl) rfl
  rw [hrequests, hgateway, h.config]
  exact ⟨rfl, h.owned, client', hsend, hc.isClosed.trans hclosed,
    hc.timeouts.trans htimeouts⟩

/-- A step takes a reply for each post, and closes the client or leaves it as it was. -/
theorem Over.step (hd : http.Documented) (hu : config.PostsTo url)
    (h : g.Over config owned timeouts closed network) (s : Step) :
    (g.step s).gateway.Over config owned timeouts (closed || s.closes owned)
      (network.drop (g.step s).requests.length) := by
  cases hs : s.command? with
  | none =>
    cases s with
    | perform | call | execute => cases hs
    | close | exit => exact h.close hd
    | closeTransport => exact Bool.or_true closed ▸ h.closeTransport hd
    | _ => exact (Bool.or_false closed).symm ▸ h
  | some built =>
    rw [Step.closes_of_command (by simp [hs]), Bool.or_false]
    cases built with
    | error f =>
      rw [step_command_error g hs]
      exact h
    | ok c =>
      obtain ⟨hrequests, hgateway⟩ := step_command_ok g hs
      rw [hrequests, hgateway]
      exact h.execute hd hu c

/-! ## Runs -/

/-- A run takes a reply for each post, and closes the client if one of its steps does. -/
theorem Over.after (hd : http.Documented) (hu : config.PostsTo url)
    (h : g.Over config owned timeouts closed network) (steps : List Step) :
    (g.after steps).Over config owned timeouts (closed || steps.any (Step.closes owned))
      (network.drop ((g.run steps).flatMap (·.requests)).length) := by
  induction steps generalizing g closed network with
  | nil =>
    rw [List.any_nil, Bool.or_false]
    exact h
  | cons s steps ih =>
    have hsteps := ih (h.step hd hu s)
    rw [Bool.or_assoc, List.drop_drop, ← List.any_cons] at hsteps
    rw [run, List.flatMap_cons, List.length_append]
    exact hsteps

/-! ## Operations -/

theorem Over.unencodable (hd : http.Documented) (hu : config.PostsTo url)
    (h : g.Over config owned timeouts closed network) (nesting : Nat) (hop : op.command = .ok c)
    {f : Fault} (he : http.encode (.dict (c.payload id)) = .error f) :
    (¬ f.Folds → (g.perform nesting op).result = .error f) ∧
      (g.perform nesting op).requests = [] := by
  obtain ⟨client, ht, -⟩ := h.client
  obtain ⟨hresult, hrequests⟩ := execute_unencodable hd ht (h.config ▸ hu) he
  refine ⟨fun hf => perform_of_execute_error hop ?_ nesting, ?_⟩
  · rw [hresult, settle_of_not_folds hf]
  · rw [perform_requests nesting hop, hrequests]

theorem Over.refuses (hd : http.Documented) (hu : config.PostsTo url)
    (h : g.Over config owned timeouts true network) (nesting : Nat) (hop : op.command = .ok c)
    (he : http.encode (.dict (c.payload id)) = .ok content) :
    (g.perform nesting op).result = .error .clientClosed ∧
      (g.perform nesting op).requests = [] := by
  obtain ⟨client, ht, hclosed, -⟩ := h.client
  obtain ⟨hresult, hrequests⟩ := execute_closed hd ht (h.config ▸ hu) he hclosed
  refine ⟨perform_of_execute_error hop hresult nesting, ?_⟩
  rw [perform_requests nesting hop, hrequests]

theorem Over.posts (hd : http.Documented) (hu : config.PostsTo url)
    (h : g.Over config owned timeouts false network) (nesting : Nat) (hop : op.command = .ok c)
    (he : http.encode (.dict (c.payload id)) = .ok content) :
    ∃ post, (g.perform nesting op).requests = [.posted post] ∧ post.content = content ∧
      post.timeouts = timeouts := by
  obtain ⟨client, ht, hclosed, htimeouts⟩ := h.client
  obtain ⟨-, post, hrequests, hcontent, htimes⟩ := execute_open hd ht (h.config ▸ hu) he hclosed
  refine ⟨post, ?_, hcontent, htimes.trans htimeouts⟩
  rw [perform_requests nesting hop, hrequests]

/-! ## Ownership -/

/--
What the runs of a gateway make of its client, which some steps close: it is open until one of
them, and every operation that is encoded is posted up to there and refused from there on.
-/
structure KeepsClient (g : Gateway http) (timeouts : Timeouts) (network : Network)
    (closing : Step → Prop) : Prop where
  closed_iff (steps : List Step) :
    (g.after steps).transport.closed = true ↔ ∃ s ∈ steps, closing s
  closed_append (steps more : List Step) : (g.after steps).transport.closed = true →
    (g.after (steps ++ more)).transport.closed = true
  quiet {steps : List Step} {i : Nat} {s : Step} : steps[i]? = some s →
    s = .enter ∨ s = .exit ∨ s = .close → ∃ t v, (g.run steps)[i]? = some t ∧
      t.result = .ok v ∧ t.requests = []
  refused {steps : List Step} {i nesting : Nat} {op : Operation} {c : ValueCommand}
    {content : List UInt8} : steps[i]? = some (.perform nesting op) → op.command = .ok c →
    http.encode (.dict (c.payload id)) = .ok content →
    (∃ s ∈ steps.take i, closing s) → ∃ t, (g.run steps)[i]? = some t ∧
      t.result = .error (.raised (.standard .runtime)
        [.text "Cannot send a request, as the client has been closed."]) ∧
      t.requests = [] ∧
      t.gateway.transport.network? = (g.after (steps.take i)).transport.network?
  posted {steps : List Step} {i nesting : Nat} {op : Operation} {c : ValueCommand}
    {content : List UInt8} : steps[i]? = some (.perform nesting op) → op.command = .ok c →
    http.encode (.dict (c.payload id)) = .ok content →
    (¬ ∃ s ∈ steps.take i, closing s) → ∃ t post, (g.run steps)[i]? = some t ∧
      t.requests = [.posted post] ∧ post.content = content ∧ post.timeouts = timeouts ∧
      let before := network.drop ((g.run (steps.take i)).flatMap (·.requests)).length
      (g.after (steps.take i)).transport.network? = some before ∧
      t.gateway.transport.network? = some before.tail
  unencodable {steps : List Step} {i nesting : Nat} {op : Operation} {c : ValueCommand}
    {f : Fault} : steps[i]? = some (.perform nesting op) → op.command = .ok c →
    http.encode (.dict (c.payload id)) = .error f → ∃ t, (g.run steps)[i]? = some t ∧
      (¬ f.Folds → t.result = .error f) ∧ t.requests = [] ∧
      t.gateway.transport.network? = (g.after (steps.take i)).transport.network?

theorem Over.keepsClient (hd : http.Documented) (hu : config.PostsTo url)
    (h : g.Over config owned timeouts false network) :
    g.KeepsClient timeouts network fun s => s.closes owned = true := by
  have hafter (steps : List Step) := h.after hd hu steps
  simp only [Bool.false_or] at hafter
  have hrun {steps : List Step} {i : Nat} {s : Step} (hi : steps[i]? = some s) :
      (g.run steps)[i]? = some ((g.after (steps.take i)).step s) := by
    rw [run_getElem?, hi]
    rfl
  have hclosed (steps : List Step) :
      (g.after steps).transport.closed = true ↔ ∃ s ∈ steps, s.closes owned = true := by
    rw [(hafter steps).closed_eq]
    exact List.any_eq_true
  have hkept {steps : List Step} {s : Step} (hs : ((g.after steps).step s).requests = []) :
      ((g.after steps).step s).gateway.transport.network? =
        (g.after steps).transport.network? := by
    rw [((hafter steps).step hd hu s).network?_eq, (hafter steps).network?_eq, hs,
      List.length_nil, List.drop_zero]
  constructor
  case closed_iff => exact hclosed
  case closed_append =>
    intro steps more
    rw [hclosed, hclosed]
    rintro ⟨s, hs, h⟩
    exact ⟨s, List.mem_append_left more hs, h⟩
  case quiet =>
    rintro steps i s hi (rfl | rfl | rfl) <;> exact ⟨_, _, hrun hi, rfl, rfl⟩
  case refused =>
    intro steps i nesting op c content hi hop he hcl
    have hbefore := hafter (steps.take i)
    rw [List.any_eq_true.mpr hcl] at hbefore
    obtain ⟨hresult, hrequests⟩ := hbefore.refuses hd hu nesting hop he
    refine ⟨_, hrun hi, ?_, hrequests, hkept hrequests⟩
    rw [Gateway.step, Trace.map_result, hresult]
    rfl
  case posted =>
    intro steps i nesting op c content hi hop he hcl
    have hbefore := hafter (steps.take i)
    rw [Bool.eq_false_iff.mpr (mt List.any_eq_true.mp hcl)] at hbefore
    obtain ⟨post, hrequests, hcontent, htimeouts⟩ := hbefore.posts hd hu nesting hop he
    refine ⟨_, post, hrun hi, hrequests, hcontent, htimeouts, hbefore.network?_eq, ?_⟩
    rw [(hbefore.step hd hu _).network?_eq]
    change some (List.drop (Gateway.perform _ nesting op).requests.length _) = _
    rw [hrequests, List.length_singleton, List.drop_one]
  case unencodable =>
    intro steps i nesting op c f hi hop he
    obtain ⟨hresult, hrequests⟩ :=
      (hafter (steps.take i)).unencodable hd hu nesting hop he
    refine ⟨_, hrun hi, fun hf => ?_, hrequests, hkept hrequests⟩
    rw [Gateway.step, Trace.map_result, hresult hf]
    rfl

/--
A gateway closes a client of its own and never one of its caller. From the step that closes a
client on, every operation that could be posted is refused, and up to there each is posted once,
with the times the gateway was configured for or the times of the client of the caller.
-/
theorem client_ownership (hd : http.Documented) (hu : config.PostsTo url)
    (hconnect : config.connectTimeout.IsTime) (hread : config.readTimeout.IsTime) (pow : Bool) :
    (∀ network, ∃ g : Gateway http, (owning config network pow).result = .ok g ∧
      g.KeepsClient
        { connect := config.connectTimeout, read := config.readTimeout,
          write := config.readTimeout, pool := config.readTimeout }
        network fun s => s = .close ∨ s = .exit ∨ s = .closeTransport) ∧
    ∀ p : Poster http, http.isClosed p.client = false →
      ∃ g : Gateway http, (withTransport config (.poster p) pow).result = .ok g ∧
        g.KeepsClient (http.timeouts p.client) p.network fun s => s = .closeTransport := by
  constructor
  · intro network
    obtain ⟨client, hmake, hclosed, htimeouts⟩ := hd.make_times hconnect hread
    have hover : (⟨config, .poster ⟨client, network⟩, true, pow⟩ : Gateway http).Over config true
        ⟨_, _, _, _⟩ false network := ⟨rfl, rfl, client, rfl, hclosed, htimeouts⟩
    have hkeeps := hover.keepsClient hd hu
    simp only [Step.closes_owned_iff] at hkeeps
    refine ⟨_, ?_, hkeeps⟩
    simp only [owning, hmake]
    exact congrArg Logged.result (announce_eq hu.baseUrl)
  · intro p hclosed
    have hover : (⟨config, .poster p, false, pow⟩ : Gateway http).Over config false
        (http.timeouts p.client) false p.network := ⟨rfl, rfl, p.client, rfl, hclosed, rfl⟩
    have hkeeps := hover.keepsClient hd hu
    simp only [Step.closes_supplied_iff] at hkeeps
    exact ⟨_, congrArg Logged.result (announce_eq hu.baseUrl), hkeeps⟩

theorem client_ownership_after_exit :
    let times : Timeouts := ⟨.int 1, .int 2, .int 3, .int 4⟩
    let caller : Poster HttpClient.library := ⟨⟨times, false⟩, []⟩
    let config : Config := { connectTimeout := .int 5, readTimeout := .int 6 }
    let steps : List Step := [.perform 90 .getTips, .enter, .exit,
      .perform 90 (.getTrytes [.null]), .perform 90 .getNodeInfo]
    (∃ (g : Gateway HttpClient.library) (t : Trace _ _), (owning config [] false).result = .ok g ∧
      (g.run steps)[4]? = some t ∧ t.result = .error .clientClosed ∧ t.requests = []) ∧
    ∃ (g : Gateway HttpClient.library) (t : Trace _ _) (post : HttpPost),
      (withTransport config (.poster caller) false).result = .ok g ∧
      (g.run steps)[4]? = some t ∧ t.requests = [.posted post] ∧
      Utf8.encode? "\x7b\"command\":\"getNodeInfo\"\x7d" = some post.content ∧
      post.timeouts = times := by
  intro times caller config steps
  have hu : config.PostsTo "http://localhost:14265" :=
    ⟨rfl, isPlainUrl_localhost, "1", rfl, by decide⟩
  have last : steps[4]? = some (.perform 90 .getNodeInfo) := rfl
  have hop : Operation.getNodeInfo.command = .ok (.plain (.word "getNodeInfo")) := rfl
  have hw : Json.write (.dict [("command", .text "getNodeInfo")]) =
      .ok "\x7b\"command\":\"getNodeInfo\"\x7d" := by
    simp only [Json.write, Json.writeMembers]
    rfl
  have he : HttpClient.library.encode (.dict [("command", .text "getNodeInfo")]) = .ok _ :=
    HttpClient.encode_eq_ok_iff.mpr ⟨_, hw, rfl⟩
  obtain ⟨own, supplied⟩ :=
    client_ownership HttpClient.documented_library hu (.int 5) (.int 6) false
  constructor
  · obtain ⟨g, hg, hk⟩ := own []
    have left : ∃ s ∈ steps.take 4, s = .close ∨ s = .exit ∨ s = .closeTransport :=
      ⟨.exit, by simp [steps], .inr (.inl rfl)⟩
    obtain ⟨t, ht, hresult, hrequests, -⟩ := hk.refused last hop he left
    exact ⟨g, t, hg, ht, hresult, hrequests⟩
  · obtain ⟨g, hg, hk⟩ := supplied caller rfl
    have kept : ¬ ∃ s ∈ steps.take 4, s = .closeTransport := by simp [steps]
    obtain ⟨t, post, ht, hrequests, hcontent, htimes, -⟩ := hk.posted last hop he kept
    exact ⟨g, t, post, hg, ht, hrequests, hcontent ▸ rfl, htimes⟩

end Gateway

end TangleGateway
