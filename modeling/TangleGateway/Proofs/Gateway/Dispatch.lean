import TangleGateway.Gateway.Session
import TangleGateway.Proofs.Except

/-! # Dispatching a command

A command is handed to the transport once, in a request that names the node, carries the payload
and has the version header as its only header. The reply settles what comes of it. All other
steps of a session leave the replies of a recorder unread.
-/

namespace TangleGateway

variable {http : HttpLibrary}

namespace Trace

variable {α β : Type}

@[simp] theorem andThen_result (t : Trace http α) (f : α → Logged β) :
    (t.andThen f).result = t.result >>= fun a => (f a).result := by
  unfold andThen
  cases h : t.result <;> rfl

@[simp] theorem andThen_requests (t : Trace http α) (f : α → Logged β) :
    (t.andThen f).requests = t.requests := by
  unfold andThen
  cases t.result <;> rfl

@[simp] theorem andThen_gateway (t : Trace http α) (f : α → Logged β) :
    (t.andThen f).gateway = t.gateway := by
  unfold andThen
  cases t.result <;> rfl

theorem andThen_logs (t : Trace http α) (f : α → Logged β) :
    (t.andThen f).logs = t.logs ++ t.result.toOption.elim [] fun a => (f a).logs := by
  unfold andThen
  cases t.result with
  | error e => exact (List.append_nil _).symm
  | ok a => rfl

@[simp] theorem map_result (t : Trace http α) (f : α → β) : (t.map f).result = t.result.map f := rfl
@[simp] theorem map_requests (t : Trace http α) (f : α → β) : (t.map f).requests = t.requests := rfl
@[simp] theorem map_logs (t : Trace http α) (f : α → β) : (t.map f).logs = t.logs := rfl
@[simp] theorem map_gateway (t : Trace http α) (f : α → β) : (t.map f).gateway = t.gateway := rfl

end Trace

/-- The request that carries a command to a node. -/
def Config.requestOf (config : Config) (url : Text) (c : ValueCommand) : NodeRequest :=
  ⟨url, .dict (c.payload id), [("X-CVT-API-Version", config.apiVersion)]⟩

def Recorder.reply (r : Recorder) : Except Fault Answer :=
  r.replies.head?.getD (.ok .empty)

def Recorder.next (r : Recorder) : Recorder :=
  { r with replies := r.replies.tail }

namespace Gateway

/-- The answer a reply comes to: a fault of input and output is folded into one. -/
def settle : Except Fault Answer → Logged Answer
  | .ok a => ⟨.ok a, []⟩
  | .error f => if f.isIoFault then ⟨.ok (.ofFault f), [.unreachable f.text?]⟩ else ⟨.error f, []⟩

variable {g : Gateway http} {url : Text} {c : ValueCommand}

theorem dispatch_eq (g : Gateway http) (url : Text) (c : ValueCommand) :
    g.dispatch url c =
      let sending := g.transport.send (g.config.requestOf url c)
      ⟨(settle sending.answer).result, sending.sent,
        .dispatching (c.label? id) url :: (settle sending.answer).logs,
        { g with transport := sending.transport }⟩ := by
  have hs : Sender.addHeader versionHeader g.config.apiVersion g.transport.send (request url c) =
      g.transport.send (g.config.requestOf url c) := rfl
  simp only [dispatch, hs]
  generalize g.transport.send (g.config.requestOf url c) = sending
  obtain ⟨answer, sent, transport⟩ := sending
  cases answer with
  | ok a => rfl
  | error f => cases hf : f.isIoFault <;> simp [fold, settle, hf]

theorem execute_eq_dispatch (hu : g.config.baseUrl = .ok url) :
    g.execute c = g.dispatch url c := by
  simp only [execute, hu]

end Gateway

/-! ## Commands that are built -/

section Label

variable {ρ : Type} {view : ρ → Value}

theorem Recipe.label_of_build {r : Recipe ρ} {c : Command ρ} (h : r.build view = .ok c) :
    ∃ word, c.label? view = some word := by
  cases r with
  | nodeInfo | getNeighbors | getTips | getTransactionsToApprove =>
    cases h
    exact ⟨_, rfl⟩
  | addNeighbors o | removeNeighbors o | getTrytes o =>
    obtain ⟨_, -, h⟩ := Except.bind_eq_ok_iff.mp h
    cases h
    exact ⟨_, rfl⟩
  | findTransactions f =>
    obtain ⟨_, -, h⟩ := Except.bind_eq_ok_iff.mp h
    obtain ⟨_, -, h⟩ := Except.bind_eq_ok_iff.mp h
    obtain ⟨_, -, h⟩ := Except.bind_eq_ok_iff.mp h
    obtain ⟨_, -, h⟩ := Except.bind_eq_ok_iff.mp h
    cases h
    exact ⟨_, rfl⟩
  | getInclusionStates transactions tips =>
    obtain ⟨_, -, h⟩ := Except.bind_eq_ok_iff.mp h
    obtain ⟨_, -, h⟩ := Except.bind_eq_ok_iff.mp h
    cases h
    exact ⟨_, rfl⟩

theorem Operation.label_of_command {op : Operation} {c : ValueCommand} (h : op.command = .ok c) :
    ∃ word, c.label? id = some word := by
  obtain ⟨r, -, hr⟩ := Except.bind_eq_ok_iff.mp h
  exact Recipe.label_of_build hr

end Label

namespace Step

/-- What building the command of a step came to; none for a step without a command. -/
def command? : Step → Option (Except Fault ValueCommand)
  | .perform _ op => some op.command
  | .call _ c _ | .execute c => some c
  | _ => none

def sends? (s : Step) : Option ValueCommand :=
  s.command?.bind Except.toOption

variable {s : Step} {c : ValueCommand}

theorem sends?_eq_some_iff : s.sends? = some c ↔ s.command? = some (.ok c) := by
  rw [sends?, Option.bind_eq_some_iff]
  constructor
  · rintro ⟨built, hs, h⟩
    cases built with
    | error f => cases h
    | ok d =>
      cases h
      exact hs
  · exact fun h => ⟨_, h, rfl⟩

end Step

namespace Gateway

/-! ## Steps -/

variable {s : Step} {c : ValueCommand}

/-- A step with a command sends and changes what executing the command does. -/
theorem step_command_ok (g : Gateway http) (h : s.command? = some (.ok c)) :
    (g.step s).requests = (g.execute c).requests ∧
      (g.step s).gateway = (g.execute c).gateway := by
  cases s with
  | perform nesting op =>
    have hc : op.command = .ok c := Option.some.inj h
    simp [step, perform, call, hc]
  | call nesting d parse =>
    obtain rfl : d = .ok c := Option.some.inj h
    simp [step, call]
  | execute d =>
    obtain rfl : d = .ok c := Option.some.inj h
    simp [step]
  | _ => cases h

theorem perform_requests {g : Gateway http} {op : Operation} (nesting : Nat)
    (h : op.command = .ok c) : (g.perform nesting op).requests = (g.execute c).requests :=
  (step_command_ok g (s := .perform nesting op) (congrArg some h)).1

theorem step_command_error (g : Gateway http) {f : Fault} (h : s.command? = some (.error f)) :
    g.step s = g.still (.error f) := by
  cases s with
  | perform nesting op =>
    have hc : op.command = .error f := Option.some.inj h
    simp only [step, perform, hc]
    rfl
  | call nesting d parse =>
    obtain rfl : d = .error f := Option.some.inj h
    rfl
  | execute d =>
    obtain rfl : d = .error f := Option.some.inj h
    rfl
  | _ => cases h

/-! ## Recorders -/

/-- A gateway over a recorder of its caller. -/
def recording (http : HttpLibrary) (config : Config) (r : Recorder) (holdsLocalPow : Bool) :
    Gateway http :=
  ⟨config, .recorder r, false, holdsLocalPow⟩

variable {config : Config} {url : Text} (http : HttpLibrary) (r : Recorder) (pow : Bool)

theorem execute_recording (hu : config.baseUrl = .ok url) :
    (recording http config r pow).execute c =
      ⟨(settle r.reply).result, [.recorded (config.requestOf url c)],
        .dispatching (c.label? id) url :: (settle r.reply).logs,
        recording http config r.next pow⟩ := by
  rw [execute_eq_dispatch hu, dispatch_eq]
  rfl

/-- A step that sends a command sends it once and takes one reply. -/
theorem step_recording_sends (hu : config.baseUrl = .ok url) (hs : s.sends? = some c) :
    ((recording http config r pow).step s).requests =
        [.recorded (config.requestOf url c)] ∧
      ((recording http config r pow).step s).gateway = recording http config r.next pow := by
  have he := step_command_ok (recording http config r pow) (Step.sends?_eq_some_iff.mp hs)
  rwa [execute_recording http r pow hu] at he

theorem step_recording_sends_none (config : Config) (hs : s.sends? = none) :
    ((recording http config r pow).step s).requests = [] ∧
      ∃ closed, ((recording http config r pow).step s).gateway =
        recording http config { r with closed := closed } pow := by
  cases hc : s.command? with
  | none =>
    cases s with
    | closeTransport => exact ⟨rfl, true, rfl⟩
    | perform | call | execute => cases hc
    | _ => exact ⟨rfl, r.closed, rfl⟩
  | some built =>
    cases built with
    | error f =>
      rw [step_command_error _ hc]
      exact ⟨rfl, r.closed, rfl⟩
    | ok c =>
      rw [Step.sends?_eq_some_iff.mpr hc] at hs
      cases hs

end Gateway

end TangleGateway
