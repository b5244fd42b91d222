import TangleGateway.Config.Basic
import TangleGateway.Config.PortNumeral
import TangleGateway.Log

/-! # Configuration from the environment

Three variables name protocol, host and port of the node. One that is not set is logged and has
its default. The port is read first, and nothing more is read after a malformed one.
-/

namespace TangleGateway

abbrev Environment := Entries Text

namespace Environment

def protocolName : Text := "CVT_API_PROTOCOL"
def hostName : Text := "CVT_API_HOST"
def portName : Text := "CVT_API_PORT"

/-- The value of a variable, or a default that is logged. -/
def read (env : Environment) (name default : Text) : Text × List LogEvent :=
  match Entries.get? name env with
  | some v => (v, [])
  | none => (default, [.variableUnset name default])

/-- The settings the variables make, by field name, with what is logged. -/
def settings (env : Environment) : Except Fault (Entries Value) × List LogEvent :=
  let (port, portLogs) := env.read portName "14265"
  match PortNumeral.read? port with
  | none => (.error (.config (.malformedPort port)), portLogs)
  | some n =>
    let (protocol, protocolLogs) := env.read protocolName "http"
    let (host, hostLogs) := env.read hostName "localhost"
    (.ok [("protocol", .text protocol), ("host", .text host), ("port", .int n)],
      portLogs ++ protocolLogs ++ hostLogs)

end Environment

/-- The configuration that the environment and then the overrides make. -/
def Config.ofEnvironment (env : Environment) (overrides : Entries Value) :
    Except Fault Config × List LogEvent :=
  match env.settings with
  | (.error f, logs) => (.error f, logs)
  | (.ok settings, logs) => (Config.ofFields (Entries.putAll settings overrides), logs)

end TangleGateway
