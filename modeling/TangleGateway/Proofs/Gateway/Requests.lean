import TangleGateway.Http.Client
import TangleGateway.Proofs.Gateway.Reachable

/-! # The requests of a session

Over a recorder, the requests of a session are those of the steps that send a command, one for
each and in the order of the steps, whatever the replies are. Each request takes one reply.
-/

namespace TangleGateway.Gateway

variable {http : HttpLibrary}

def after (g : Gateway http) (steps : List Step) : Gateway http :=
  steps.foldl (fun g s => (g.step s).gateway) g

theorem run_getElem? (g : Gateway http) (steps : List Step) (i : Nat) :
    (g.run steps)[i]? = steps[i]?.map fun s => (g.after (steps.take i)).step s := by
  induction steps generalizing g i with
  | nil => rfl
  | cons s steps ih =>
    cases i with
    | zero => rfl
    | succ i => exact ih (g.step s).gateway i

variable {config : Config} {r : Recorder} {pow : Bool} {url : Text} {g : Gateway http}

/-- What a step sends, and what it leaves to the steps after it. -/
theorem step_recording (http : HttpLibrary) (hu : config.baseUrl = .ok url) (r : Recorder)
    (pow : Bool) (s : Step) :
    ((recording http config r pow).step s).requests =
        (s.sends?.map fun c => .recorded (config.requestOf url c)).toList ∧
      ∃ closed, ((recording http config r pow).step s).gateway =
        recording http config ⟨r.replies.drop s.sends?.toList.length, closed⟩ pow := by
  cases hs : s.sends? with
  | none => exact step_recording_sends_none http r pow config hs
  | some c =>
    obtain ⟨hr, hg⟩ := step_recording_sends http r pow hu hs
    exact ⟨hr, r.closed, by simpa [Recorder.next] using hg⟩

theorem run_recording (http : HttpLibrary) (hu : config.baseUrl = .ok url) (r : Recorder)
    (pow : Bool) (steps : List Step) :
    ((recording http config r pow).run steps).map (·.requests) =
        steps.map (fun s => (s.sends?.map fun c => .recorded (config.requestOf url c)).toList) ∧
      ∃ closed, (recording http config r pow).after steps =
        recording http config ⟨r.replies.drop (steps.filterMap Step.sends?).length, closed⟩
          pow := by
  induction steps generalizing r with
  | nil => exact ⟨rfl, r.closed, rfl⟩
  | cons s steps ih =>
    obtain ⟨hr, closed, hg⟩ := step_recording http hu r pow s
    obtain ⟨hrs, closed', hgs⟩ := ih ⟨r.replies.drop s.sends?.toList.length, closed⟩
    constructor
    · simp only [run, List.map_cons, hr, hg, hrs]
    · refine ⟨closed', ?_⟩
      simp only [after, List.foldl_cons, hg] at hgs ⊢
      rw [hgs, List.drop_drop]
      cases hs : s.sends? <;> simp [hs, Nat.add_comm]

theorem flatMap_sends (f : ValueCommand → SentRequest) (steps : List Step) :
    steps.flatMap (fun s => (s.sends?.map f).toList) = (steps.filterMap Step.sends?).map f := by
  induction steps with
  | nil => rfl
  | cons s steps ih => cases hs : s.sends? <;> simp [hs, ih]

/-- The requests of a session are those of the commands its steps send, in order. -/
theorem session_requests (hg : (withTransport config (.recorder r) pow).result = .ok g)
    (steps : List Step) :
    ∃ protocol host port : Text,
      config.protocol.text? = some protocol ∧ config.host.text? = some host ∧
      config.port.text? = some port ∧
      let request (c : ValueCommand) : SentRequest := .recorded {
        url := protocol ++ ("://" : Text) ++ host ++ (":" : Text) ++ port
        payload := .dict (c.payload id)
        headers := [("X-CVT-API-Version", config.apiVersion)] }
      (∀ nesting op c, (Step.perform nesting op).sends? = some c ↔ op.command = .ok c) ∧
      (∀ (s : Step) c, s.sends? = some c ↔ s.command? = some (.ok c)) ∧
      (g.run steps).map (·.requests) = steps.map (fun s => (s.sends?.map request).toList) ∧
      (g.run steps).flatMap (·.requests) = (steps.filterMap Step.sends?).map request ∧
      ∃ closed, g.after steps =
        recording http config ⟨r.replies.drop (steps.filterMap Step.sends?).length, closed⟩
          pow := by
  obtain ⟨rfl, url, hu⟩ := announce_result hg
  obtain ⟨protocol, host, port, hp, hh, hn, rfl⟩ := Config.baseUrl_eq_ok_iff.mp hu
  obtain ⟨hrs, hafter⟩ := run_recording http hu r pow steps
  refine ⟨protocol, host, port, hp, hh, hn, fun nesting op c => ?_,
    fun s c => Step.sends?_eq_some_iff, hrs, ?_, hafter⟩
  · rw [Step.sends?_eq_some_iff]
    exact Option.some_inj
  · have hf := congrArg List.flatten hrs
    rwa [← List.flatMap_def, ← List.flatMap_def, flatMap_sends] at hf

/-- Two replies that fail and a refused hash neither repeat a request nor lose one. -/
theorem session_requests_after_failures :
    let config : Config := { host := .text "node", port := .int 9 }
    let recorder : Recorder :=
      ⟨[.error (.raise (.standard .connectionReset) []),
        .error (.raise (.standard .runtime) [])], false⟩
    let steps : List Step := [.perform 90 .getTips, .close, .perform 90 (.getTrytes [.null]),
      .enter, .perform 0 .getNodeInfo, .exit,
      .call 90 (.ok (.plain (.held (.text "ping")))) fun v => .ok (.plain v)]
    ∃ g : Gateway HttpClient.library,
      (withTransport config (.recorder recorder) false).result = .ok g ∧
      (g.run steps).flatMap (·.requests) =
        (["getTips", "getNodeInfo", "ping"] : List Text).map fun word => .recorded
          ⟨"http://node:9", .dict [("command", .text word)],
            [("X-CVT-API-Version", .text "1")]⟩ := by
  intro config recorder steps
  let g := recording HttpClient.library config recorder false
  have hg : (withTransport config (.recorder recorder) false).result = .ok g := rfl
  refine ⟨g, hg, ?_⟩
  obtain ⟨protocol, host, port, hp, hh, hn, -, -, -, hr, -⟩ := session_requests hg steps
  obtain rfl := Option.some.inj hp
  obtain rfl := Option.some.inj hh
  have hport : Value.text? (.int 9) = some "9" := rfl
  obtain rfl := Option.some.inj (hport.symm.trans hn)
  exact hr

end TangleGateway.Gateway
