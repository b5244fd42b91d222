import TangleGateway.Text.Basic

/-! # Log

The events that are logged, with their level, the part of the gateway they come from and their
message. What an event shows may be impossible to write: it is logged all the same, without a
message.
-/

namespace TangleGateway

inductive LogLevel where
  | debug
  | info
  | warning
  | error
  deriving DecidableEq

inductive LogSource where
  | transport
  | classification
  | configuration
  deriving DecidableEq

inductive LogEvent where
  /-- A gateway was built for a node. -/
  | nodeUrl (url : Text)
  /-- A command is about to be sent. -/
  | dispatching (command : Option Text) (url : Text)
  /-- Sending failed below the node. -/
  | unreachable (reason : Option Text)
  /-- The node answered with a status outside its contract. -/
  | unexpectedStatus (status body : Option Text)
  /-- A variable is not set, and its default is used. -/
  | variableUnset (name default : Text)
  deriving DecidableEq

namespace LogEvent

def level : LogEvent → LogLevel
  | nodeUrl _ => .info
  | dispatching .. => .debug
  | unreachable _ => .error
  | unexpectedStatus .. => .warning
  | variableUnset .. => .warning

def source : LogEvent → LogSource
  | nodeUrl _ | dispatching .. | unreachable _ => .transport
  | unexpectedStatus .. => .classification
  | variableUnset .. => .configuration

/-- The body of an unexpected answer is cut after this many code points. -/
def bodyLimit : Nat := 200

def message : LogEvent → Option Text
  | nodeUrl url => some (("Node URL: " : Text) ++ url)
  | dispatching command url => do
    return ("Dispatching " : Text) ++ (← command) ++ (" to " : Text) ++ url
  | unreachable reason => do
    return ("Execution of the API call raised exception. Node not reachable? (" : Text) ++
      (← reason) ++ (")" : Text)
  | unexpectedStatus status body => do
    return ("Unexpected status " : Text) ++ (← status) ++ (" from node: " : Text) ++
      (← body).take bodyLimit
  | variableUnset name default =>
    some (("Environment variable '" : Text) ++ name ++
      ("' is not defined, and actual value has not been specified. " : Text) ++
      ("Rolling back to default value: '" : Text) ++ default ++ ("'" : Text))

end LogEvent

end TangleGateway
