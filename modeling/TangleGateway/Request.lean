import TangleGateway.Value.Basic

/-! # Requests

A request to the node, and senders that add a header to every request they pass on. The headers of
a request are a map that others may hold as well, so a sender that adds one makes a map of its own.
-/

namespace TangleGateway

structure NodeRequest where
  url : Text
  payload : Value
  headers : Entries Value

def NodeRequest.withHeader (name : Text) (value : Value) (r : NodeRequest) : NodeRequest :=
  { r with headers := r.headers.put name value }

namespace Sender

variable {α : Type}

def addHeader (name : Text) (value : Value) (send : NodeRequest → α) : NodeRequest → α :=
  fun r => send (r.withHeader name value)

/-- Adds a list of headers, the first one closest to the sender. -/
def addHeaders (headers : List (Text × Value)) (send : NodeRequest → α) : NodeRequest → α :=
  headers.foldl (fun send h => addHeader h.1 h.2 send) send

end Sender

/-- A request of which the headers are a map by reference. -/
structure SharedRequest where
  url : Text
  payload : Value
  headers : Nat

structure HeaderStore where
  maps : List (Entries Value)

namespace HeaderStore

def view (s : HeaderStore) (r : SharedRequest) : NodeRequest :=
  ⟨r.url, r.payload, s.maps[r.headers]?.getD []⟩

/-- A request with a new map, which is a copy with one header more. -/
def copyWith (s : HeaderStore) (name : Text) (value : Value) (r : SharedRequest) :
    SharedRequest × HeaderStore :=
  ({ r with headers := s.maps.length },
    ⟨s.maps ++ [((s.view r).withHeader name value).headers]⟩)

end HeaderStore

/-- Sends a request by reference, which may make new maps. -/
abbrev SharedSender (α : Type) := SharedRequest → HeaderStore → α × HeaderStore

namespace SharedSender

variable {α : Type}

/-- A sender that only looks at the request. -/
def ofSender (send : NodeRequest → α) : SharedSender α :=
  fun r s => (send (s.view r), s)

def addHeader (name : Text) (value : Value) (send : SharedSender α) : SharedSender α :=
  fun r s =>
    let (r, s) := s.copyWith name value r
    send r s

def addHeaders (headers : List (Text × Value)) (send : SharedSender α) : SharedSender α :=
  headers.foldl (fun send h => addHeader h.1 h.2 send) send

end SharedSender

end TangleGateway
