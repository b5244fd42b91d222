import TangleGateway.Config.Environment
import TangleGateway.Gateway.Operation
import TangleGateway.Outcome
import TangleGateway.Transport

/-! # The gateway

A gateway sends commands to one node over one transport, each exactly once, and keeps nothing
between them. It closes the transport only if the transport is its own.
-/

namespace TangleGateway

structure Gateway (http : HttpLibrary) where
  config : Config
  transport : Transport http
  ownsTransport : Bool
  /-- A proof-of-work helper was handed over. -/
  holdsLocalPow : Bool

/-- What something done by a gateway came to, and the gateway after it. -/
structure Trace (http : HttpLibrary) (α : Type) where
  result : Except Fault α
  requests : List SentRequest
  logs : List LogEvent
  gateway : Gateway http

variable {http : HttpLibrary} {α β : Type}

/-- Goes on with a result; a fault ends the trace. -/
def Trace.andThen (t : Trace http α) (f : α → Logged β) : Trace http β :=
  match t.result with
  | .error e => { t with result := .error e }
  | .ok a =>
    let l := f a
    { t with result := l.result, logs := t.logs ++ l.logs }

namespace Gateway

def still (g : Gateway http) (result : Except Fault α) : Trace http α :=
  ⟨result, [], [], g⟩

/-- A new gateway logs the URL of its node. -/
def announce (g : Gateway http) : Logged (Gateway http) :=
  match g.config.baseUrl with
  | .ok url => ⟨.ok g, [.nodeUrl url]⟩
  | .error f => ⟨.error f, []⟩

/-- A gateway over a transport of its caller. No transport counts as false, so none is replaced. -/
def withTransport (config : Config) (transport : Transport http) (holdsLocalPow : Bool) :
    Logged (Gateway http) :=
  announce ⟨config, transport, false, holdsLocalPow⟩

def owning (config : Config) (network : Network) (holdsLocalPow : Bool) :
    Logged (Gateway http) :=
  match http.make config.connectTimeout config.readTimeout with
  | .error f => ⟨.error f, []⟩
  | .ok client => announce ⟨config, .poster ⟨client, network⟩, true, holdsLocalPow⟩

def fromEnvironment (env : Environment) (make : Config → Logged (Gateway http)) :
    Logged (Gateway http) :=
  match Config.ofEnvironment env [] with
  | (.error f, logs) => ⟨.error f, logs⟩
  | (.ok c, logs) =>
    let made := make c
    { made with logs := logs ++ made.logs }

def versionHeader : Text := "X-CVT-API-Version"

def request (url : Text) (c : ValueCommand) : NodeRequest :=
  ⟨url, .dict (c.payload id), []⟩

/-- A fault of input and output becomes an answer that did not reach the node. -/
def fold (sent : List SentRequest) (g : Gateway http) (dispatched : LogEvent) (f : Fault) :
    Trace http Answer :=
  if f.isIoFault then ⟨.ok (.ofFault f), sent, [dispatched, .unreachable f.text?], g⟩
  else ⟨.error f, sent, [dispatched], g⟩

def dispatch (g : Gateway http) (url : Text) (c : ValueCommand) : Trace http Answer :=
  let dispatched := LogEvent.dispatching (c.label? id) url
  let sending :=
    Sender.addHeader versionHeader g.config.apiVersion g.transport.send (request url c)
  let after := { g with transport := sending.transport }
  match sending.answer with
  | .ok a => ⟨.ok a, sending.sent, [dispatched], after⟩
  | .error f => fold sending.sent after dispatched f

def execute (g : Gateway http) (c : ValueCommand) : Trace http Answer :=
  match g.config.baseUrl with
  | .error f => g.still (.error f)
  | .ok url => g.dispatch url c

/-- Sends a command and classifies the answer, with room for brackets to nest so deep. -/
def call (g : Gateway http) (nesting : Nat) (c : ValueCommand) (parse : Value → Except Fault α) :
    Trace http (Outcome α) :=
  (g.execute c).andThen fun a => a.classify nesting parse

/-- A reader of replies as a parser that fails with faults. -/
def replyParser (kind : ReplyKind) (v : Value) : Except Fault Reply :=
  (kind.ofValue v).mapError .wrongShape

/-- Performs an operation: its reply, or the error of its outcome. -/
def perform (g : Gateway http) (nesting : Nat) (op : Operation) : Trace http (Option Reply) :=
  match op.command with
  | .error f => g.still (.error f)
  | .ok c => (g.call nesting c (replyParser op.replyKind)).andThen fun o => ⟨o.unwrap, []⟩

def close (g : Gateway http) : Gateway http :=
  if g.ownsTransport then { g with transport := g.transport.close } else g

end Gateway

end TangleGateway
