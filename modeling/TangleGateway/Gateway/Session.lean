import TangleGateway.Gateway.Basic

/-! # Sessions

A session is a gateway and a list of steps, taken one after the other. Each step leaves a trace. A
step that decodes a body has its own room for brackets to nest.
-/

namespace TangleGateway

inductive Parsed where
  | reply (r : Reply)
  | plain (v : Value)

inductive Step where
  | perform (nesting : Nat) (op : Operation)
  /-- Sends a command, or fails as building it did, and classifies the answer. -/
  | call (nesting : Nat) (command : Except Fault ValueCommand)
      (parse : Value → Except Fault Parsed)
  /-- Sends a command, or fails as building it did. -/
  | execute (command : Except Fault ValueCommand)
  | config
  | localPow
  | enter
  | exit
  | close
  | closeTransport
  | transportClosed

inductive StepValue where
  | reply (r : Option Reply)
  | outcome (o : Outcome Parsed)
  | answer (a : Answer)
  | config (c : Config)
  | flag (b : Bool)
  | nothing

variable {http : HttpLibrary}

def Trace.map {α β : Type} (f : α → β) (t : Trace http α) : Trace http β :=
  { t with result := t.result.map f }

namespace Gateway

def step (g : Gateway http) : Step → Trace http StepValue
  | .perform nesting op => (g.perform nesting op).map .reply
  | .call nesting (.ok c) parse => (g.call nesting c parse).map .outcome
  | .call _ (.error f) _ => g.still (.error f)
  | .execute (.ok c) => (g.execute c).map .answer
  | .execute (.error f) => g.still (.error f)
  | .config => g.still (.ok (.config g.config))
  | .localPow => g.still (.ok (.flag g.holdsLocalPow))
  | .enter => g.still (.ok (.flag true))
  | .exit => g.close.still (.ok .nothing)
  | .close => g.close.still (.ok .nothing)
  | .closeTransport => { g with transport := g.transport.close }.still (.ok .nothing)
  | .transportClosed => g.still (.ok (.flag g.transport.closed))

/-- The traces of steps taken in order. -/
def run (g : Gateway http) : List Step → List (Trace http StepValue)
  | [] => []
  | s :: ss =>
    let t := g.step s
    t :: run t.gateway ss

end Gateway

end TangleGateway
