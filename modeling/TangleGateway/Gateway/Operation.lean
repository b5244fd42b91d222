import TangleGateway.Command.Basic
import TangleGateway.Reply.Basic
import TangleGateway.Trytes

/-! # Operations

What a caller asks of a gateway. An operation that takes identifiers checks all of them before it
has a command; addresses lose their checksums on the way.
-/

namespace TangleGateway

inductive Operation where
  | getNodeInfo
  | getNeighbors
  | addNeighbors (uris : List Value)
  | removeNeighbors (uris : List Value)
  | getTips
  | findTransactions (filters : Filters Value)
  | findTransactionsByAddresses (addresses : List Value)
  | findTransactionsByBundles (bundles : List Value)
  | findTransactionsByApprovees (approvees : List Value)
  /-- Digests are searched for as tags. -/
  | findTransactionsByDigests (digests : List Value)
  | getInclusionStates (transactions tips : Value)
  | getTrytes (hashes : List Value)
  | getTransactionsToApprove (depth reference : Value)

namespace Operation

def noFilters : Filters Value :=
  ⟨.null, .null, .null, .null⟩

def requireHashes (v : Value) : Except Fault Unit :=
  if Trytes.isHashSequence v then .ok () else .error .invalidHashes

def stripAddress (v : Value) : Except Fault Value :=
  match Trytes.removeChecksum? v with
  | some t => .ok (.text t)
  | none => .error .invalidAddresses

/-- The recipe of the command, once the identifiers are checked. -/
def recipe : Operation → Except Fault (Recipe Value)
  | getNodeInfo => .ok .nodeInfo
  | getNeighbors => .ok .getNeighbors
  | addNeighbors uris => .ok (.addNeighbors (.tuple uris))
  | removeNeighbors uris => .ok (.removeNeighbors (.tuple uris))
  | getTips => .ok .getTips
  | findTransactions f => .ok (.findTransactions f)
  | findTransactionsByAddresses addresses => do
    let stripped ← addresses.mapM stripAddress
    return .findTransactions { noFilters with addresses := .list stripped }
  | findTransactionsByBundles bundles =>
    .ok (.findTransactions { noFilters with bundles := .tuple bundles })
  | findTransactionsByApprovees approvees =>
    .ok (.findTransactions { noFilters with approvees := .tuple approvees })
  | findTransactionsByDigests digests =>
    .ok (.findTransactions { noFilters with tags := .tuple digests })
  | getInclusionStates transactions tips => do
    requireHashes transactions
    requireHashes tips
    return .getInclusionStates transactions tips
  | getTrytes hashes => do
    requireHashes (.tuple hashes)
    return .getTrytes (.tuple hashes)
  | getTransactionsToApprove depth reference => .ok (.getTransactionsToApprove depth reference)

def command (op : Operation) : Except Fault ValueCommand :=
  op.recipe >>= Recipe.ofValues

def replyKind : Operation → ReplyKind
  | getNodeInfo => .nodeInfo
  | getNeighbors => .neighbors
  | addNeighbors _ => .addNeighbors
  | removeNeighbors _ => .removeNeighbors
  | getTips => .tips
  | findTransactions _ | findTransactionsByAddresses _ | findTransactionsByBundles _
  | findTransactionsByApprovees _ | findTransactionsByDigests _ => .findTransactions
  | getInclusionStates .. => .inclusionStates
  | getTrytes _ => .trytes
  | getTransactionsToApprove .. => .transactionsToApprove

end Operation

end TangleGateway
