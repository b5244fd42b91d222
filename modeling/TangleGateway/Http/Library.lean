import TangleGateway.Fault.Basic

/-! # The HTTP library

A transport leaves posting to the clients of a library, which the gateway takes as a parameter. The
network below a client is the list of replies that it has ready, one for each request sent; after
the last one it replies with success and no entries.
-/

namespace TangleGateway

structure Timeouts where
  connect : Value
  read : Value
  write : Value
  pool : Value

structure HttpReply where
  status : Int
  body : List UInt8
  contentType : Option Text

def HttpReply.empty : HttpReply :=
  ⟨200, [0x7B, 0x7D], none⟩

abbrev Network := List (Except Fault HttpReply)

def Network.next (network : Network) : Except Fault HttpReply :=
  network.head?.getD (.ok .empty)

/-- A reply as the library shows it. -/
structure HttpResponse where
  status : Int
  text : Except Fault Text

/-- What a client is asked to post. -/
structure PostCall where
  url : Text
  json : Value
  headers : Entries Value

/-- A request as it goes out. -/
structure HttpPost where
  url : Text
  headers : Entries Text
  content : List UInt8
  timeouts : Timeouts

/-- What posting came to, with the client and the network after it. -/
structure Posting (Client : Type) where
  response : Except Fault HttpResponse
  sent : List HttpPost
  client : Client
  network : Network

def Fault.clientClosed : Fault :=
  .saying .runtime "Cannot send a request, as the client has been closed."

structure HttpLibrary where
  Client : Type
  /-- A client with a time for connecting and one for reading. -/
  make : Value → Value → Except Fault Client
  timeouts : Client → Timeouts
  isClosed : Client → Bool
  close : Client → Client
  /-- The bytes a value goes out as. -/
  encode : Value → Except Fault (List UInt8)
  /-- The charset that a content type names. -/
  charset : Option Text → Except Fault (Option Text)
  respond : HttpReply → HttpResponse
  post : Client → Network → PostCall → Posting Client

end TangleGateway
