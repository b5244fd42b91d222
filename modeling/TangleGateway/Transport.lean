import TangleGateway.Answer
import TangleGateway.Config.Basic
import TangleGateway.Http.Library
import TangleGateway.Request

/-! # Transports

A transport sends requests. A recorder keeps what is sent as it is and is never closed to it. It
answers from a list of answers, and with success and no entries after the last one. A poster asks a
client to post the payload as JSON.
-/

namespace TangleGateway

structure Recorder where
  replies : List (Except Fault Answer)
  closed : Bool

/-- A client of a library over a network. -/
structure Poster (http : HttpLibrary) where
  client : http.Client
  network : Network

inductive Transport (http : HttpLibrary) where
  | recorder (r : Recorder)
  | poster (p : Poster http)

/-- A request as a transport saw it. -/
inductive SentRequest where
  | recorded (r : NodeRequest)
  | posted (p : HttpPost)

structure Sending (http : HttpLibrary) where
  answer : Except Fault Answer
  sent : List SentRequest
  transport : Transport http

variable {http : HttpLibrary}

namespace Recorder

def send (t : Recorder) (r : NodeRequest) : Sending http where
  answer := t.replies.head?.getD (.ok .empty)
  sent := [.recorded r]
  transport := .recorder { t with replies := t.replies.tail }

end Recorder

namespace Poster

/-- The headers every post has, before those of the request. -/
def baseHeaders : Entries Value :=
  [("Content-Type", .text "application/json"), ("Accept", .text "application/json")]

/-- The call that posts a request. -/
def callOf (r : NodeRequest) : PostCall :=
  ⟨r.url, r.payload, Entries.putAll baseHeaders r.headers⟩

def answerOf (response : HttpResponse) : Except Fault Answer := do
  return ⟨.int response.status, .text (← response.text), none⟩

def send (t : Poster http) (r : NodeRequest) : Sending http :=
  let posting := http.post t.client t.network (callOf r)
  { answer := posting.response >>= answerOf
    sent := posting.sent.map .posted
    transport := .poster ⟨posting.client, posting.network⟩ }

end Poster

namespace Transport

def send : Transport http → NodeRequest → Sending http
  | recorder t => t.send
  | poster t => t.send

def close : Transport http → Transport http
  | recorder t => .recorder { t with closed := true }
  | poster t => .poster { t with client := http.close t.client }

def closed : Transport http → Bool
  | recorder t => t.closed
  | poster t => http.isClosed t.client

end Transport

end TangleGateway
