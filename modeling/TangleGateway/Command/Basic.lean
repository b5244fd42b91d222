import TangleGateway.Fault.Basic

/-! # Commands

A request body is a command with its fields. A recipe takes sequences as they are at that time; a
command assembled directly holds the objects it is given. Fields without a value are left out of
the payload, and tuples go out as lists.

The objects of a caller have a type of their own, `ρ`, with a view that says what value an object
has at the moment. Values are objects of which the view is the value itself.
-/

namespace TangleGateway

inductive Field (ρ : Type) where
  | absent
  | word (t : Text)
  /-- Items the command has for itself. -/
  | sequence (items : List Value)
  /-- An object of the caller. -/
  | held (object : ρ)

/-- The value of a field that goes out; none for a field that is left out. -/
def Field.value? {ρ : Type} (view : ρ → Value) : Field ρ → Option Value
  | absent => none
  | word t => some (.text t)
  | sequence vs => some (.list vs)
  | held o =>
    match view o with
    | .null => none
    | .tuple vs => some (.list vs)
    | v => some v

structure Filters (ρ : Type) where
  addresses : ρ
  tags : ρ
  approvees : ρ
  bundles : ρ

inductive Command (ρ : Type) where
  | plain (command : Field ρ)
  | neighbors (command uris : Field ρ)
  | findTransactions (command : Field ρ) (filters : Filters (Field ρ))
  | inclusionStates (command transactions tips : Field ρ)
  | trytes (command hashes : Field ρ)
  | transactionsToApprove (command depth reference : Field ρ)

namespace Command

variable {ρ : Type}

/-- The field that says which command it is. -/
def command : Command ρ → Field ρ
  | plain c => c
  | neighbors c _ => c
  | findTransactions c _ => c
  | inclusionStates c .. => c
  | trytes c _ => c
  | transactionsToApprove c .. => c

def fields : Command ρ → List (Text × Field ρ)
  | plain c => [("command", c)]
  | neighbors c uris => [("command", c), ("uris", uris)]
  | findTransactions c f =>
    [("command", c), ("addresses", f.addresses), ("tags", f.tags), ("approvees", f.approvees),
      ("bundles", f.bundles)]
  | inclusionStates c transactions tips =>
    [("command", c), ("transactions", transactions), ("tips", tips)]
  | trytes c hashes => [("command", c), ("hashes", hashes)]
  | transactionsToApprove c depth reference =>
    [("command", c), ("depth", depth), ("reference", reference)]

/-- The fields that go out, with their values. -/
def payload (view : ρ → Value) (c : Command ρ) : Entries Value :=
  c.fields.filterMap fun f => (f.2.value? view).map (f.1, ·)

/-- The word of the command as a log shows it. -/
def label? (view : ρ → Value) (c : Command ρ) : Option Text :=
  match c.command with
  | .absent => (Value.null).text?
  | .word t => some t
  | .sequence vs => (Value.tuple vs).text?
  | .held o => (view o).text?

end Command

/-- The ways to build a command from arguments. -/
inductive Recipe (ρ : Type) where
  | nodeInfo
  | getNeighbors
  | addNeighbors (uris : ρ)
  | removeNeighbors (uris : ρ)
  | getTips
  | findTransactions (filters : Filters ρ)
  | getInclusionStates (transactions tips : ρ)
  | getTrytes (hashes : ρ)
  | getTransactionsToApprove (depth reference : ρ)

namespace Recipe

variable {ρ : Type}

def sequenceOf (view : ρ → Value) (object : ρ) : Except Fault (Field ρ) :=
  match (view object).elements? with
  | some vs => .ok (.sequence vs)
  | none => .error (.notIterable (view object).typeName)

/-- A null filter is left out. -/
def filterOf (view : ρ → Value) (object : ρ) : Except Fault (Field ρ) :=
  if (view object).isNull then .ok .absent else sequenceOf view object

def build (view : ρ → Value) : Recipe ρ → Except Fault (Command ρ)
  | nodeInfo => .ok (.plain (.word "getNodeInfo"))
  | getNeighbors => .ok (.plain (.word "getNeighbors"))
  | addNeighbors uris => do
    return .neighbors (.word "addNeighbors") (← sequenceOf view uris)
  | removeNeighbors uris => do
    return .neighbors (.word "removeNeighbors") (← sequenceOf view uris)
  | getTips => .ok (.plain (.word "getTips"))
  | findTransactions f => do
    let addresses ← filterOf view f.addresses
    let tags ← filterOf view f.tags
    let approvees ← filterOf view f.approvees
    let bundles ← filterOf view f.bundles
    return .findTransactions (.word "findTransactions") { addresses, tags, approvees, bundles }
  | getInclusionStates transactions tips => do
    let transactions ← sequenceOf view transactions
    let tips ← sequenceOf view tips
    return .inclusionStates (.word "getInclusionStates") transactions tips
  | getTrytes hashes => do
    return .trytes (.word "getTrytes") (← sequenceOf view hashes)
  | getTransactionsToApprove depth reference =>
    .ok (.transactionsToApprove (.word "getTransactionsToApprove") (.held depth)
      (.held reference))

end Recipe

abbrev ValueCommand := Command Value

def Recipe.ofValues (r : Recipe Value) : Except Fault ValueCommand :=
  r.build id

end TangleGateway
