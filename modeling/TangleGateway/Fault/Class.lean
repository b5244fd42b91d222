import TangleGateway.Text.Basic

/-! # Classes of faults

Every fault has a class. A standard class lies right below its parents, of which there may be
several; whoever handles a class handles the ones below it too. Callers define classes of their
own below the standard ones.
-/

namespace TangleGateway

inductive StandardClass where
  | general
  -- the operating system
  | system
  | blocking
  | childProcess
  | connection
  | connectionAborted
  | connectionRefused
  | connectionReset
  | brokenPipe
  | fileExists
  | fileNotFound
  | isADirectory
  | notADirectory
  | permission
  | processLookup
  | timedOut
  | interrupted
  | nameLookup
  | tls
  | certificate
  | unsupportedOperation
  -- requests
  | http
  | httpStatus
  | request
  | transport
  | timeout
  | connectTimeout
  | readTimeout
  | writeTimeout
  | poolTimeout
  | network
  | connect
  | read
  | write
  | close
  | protocol
  | localProtocol
  | remoteProtocol
  | proxy
  | unsupportedProtocol
  | decoding
  | tooManyRedirects
  | invalidUrl
  | cookieConflict
  -- values and programs
  | runtime
  | recursion
  | value
  | malformedJson
  | malformedText
  | undecodable
  | unencodable
  | type
  | assertion
  | lookup
  | key
  | index
  | noAttribute
  | zeroDivision
  -- outcomes of a call
  | gateway
  | validation
  | client
  | access
  | transportFailure
  deriving DecidableEq

/-- How a class puts the values its faults carry into words. -/
inductive Wording where
  | arguments
  | system
  | tls
  | key
  | malformedJson
  | undecodable
  | unencodable
  /-- A text of the class. -/
  | own (t : Text)
  deriving DecidableEq

namespace StandardClass

def parents : StandardClass → List StandardClass
  | general => []
  | blocking | childProcess | connection | fileExists | fileNotFound | isADirectory
  | notADirectory | permission | processLookup | timedOut | interrupted | nameLookup | tls =>
    [system]
  | connectionAborted | connectionRefused | connectionReset | brokenPipe => [connection]
  | certificate => [tls, value]
  | unsupportedOperation => [system, value]
  | httpStatus | request => [http]
  | transport | decoding | tooManyRedirects => [request]
  | timeout | network | protocol | proxy | unsupportedProtocol => [transport]
  | connectTimeout | readTimeout | writeTimeout | poolTimeout => [timeout]
  | connect | read | write | close => [network]
  | localProtocol | remoteProtocol => [protocol]
  | recursion => [runtime]
  | malformedJson | malformedText => [value]
  | undecodable | unencodable => [malformedText]
  | key | index => [lookup]
  | validation | client | access | transportFailure => [gateway]
  | system | http | invalidUrl | cookieConflict | runtime | value | type | assertion | lookup
  | noAttribute | zeroDivision | gateway => [general]

/-- A class and the classes at most so many levels above it. -/
def lineage : Nat → StandardClass → List StandardClass
  | 0, c => [c]
  | n + 1, c => c :: c.parents.flatMap (lineage n)

/-- Whether a class is another one or lies below it. No class lies more than five levels deep. -/
def isA (c ancestor : StandardClass) : Bool :=
  (lineage 5 c).contains ancestor

def wording : StandardClass → Wording
  | key => .key
  | malformedJson => .malformedJson
  | undecodable => .undecodable
  | unencodable => .unencodable
  | c => if c.isA tls then .tls else if c.isA system then .system else .arguments

end StandardClass

inductive FaultClass where
  | standard (c : StandardClass)
  /-- A class of the caller, below some of the standard ones. -/
  | derived (name : Text) (bases : List StandardClass) (wording : Wording)
  deriving DecidableEq

namespace FaultClass

def isA : FaultClass → StandardClass → Bool
  | standard c, ancestor => c.isA ancestor
  | derived _ bases _, ancestor => bases.any (·.isA ancestor)

def wording : FaultClass → Wording
  | standard c => c.wording
  | derived _ _ w => w

end FaultClass

end TangleGateway
