import TangleGateway.Fault.Basic

/-! # Configuration

Where the node is, how long to wait for it, and the version every request names. Values are kept
as they are given.
-/

namespace TangleGateway

structure Config where
  protocol : Value := .text "http"
  host : Value := .text "localhost"
  port : Value := .int 14265
  connectTimeout : Value := .float (.ofQuotient false 5000 1)
  readTimeout : Value := .float (.ofQuotient false 5000 1)
  apiVersion : Value := .text "1"

namespace Config

def fields (c : Config) : List (String × Value) :=
  [("protocol", c.protocol), ("host", c.host), ("port", c.port),
    ("connect_timeout", c.connectTimeout), ("read_timeout", c.readTimeout),
    ("api_version", c.apiVersion)]

def names : List Text :=
  ["protocol", "host", "port", "connect_timeout", "read_timeout", "api_version"]

def ownerName : String := "TransportConfig"

/-- The fields given by name, and the defaults for the others. -/
def ofFields (given : Entries Value) : Except Fault Config :=
  match given.find? fun e => e.1 ∉ names with
  | some e => .error (.config (.unknownField ownerName e.1))
  | none =>
    let d : Config := {}
    let field (name : String) (default : Value) : Value := (given.get? name).getD default
    .ok {
      protocol := field "protocol" d.protocol
      host := field "host" d.host
      port := field "port" d.port
      connectTimeout := field "connect_timeout" d.connectTimeout
      readTimeout := field "read_timeout" d.readTimeout
      apiVersion := field "api_version" d.apiVersion }

def baseUrl (c : Config) : Except Fault Text := do
  let protocol ← Fault.orTooLong c.protocol.text?
  let host ← Fault.orTooLong c.host.text?
  let port ← Fault.orTooLong c.port.text?
  return protocol ++ ("://" : Text) ++ host ++ (":" : Text) ++ port

end Config

end TangleGateway
