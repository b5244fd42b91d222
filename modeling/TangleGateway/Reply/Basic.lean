import TangleGateway.Reply.Neighbors
import TangleGateway.Reply.NodeInfo
import TangleGateway.Reply.Transactions

/-! # Replies

The nine kinds of replies and their common reader.
-/

namespace TangleGateway

inductive ReplyKind where
  | nodeInfo
  | neighbors
  | addNeighbors
  | removeNeighbors
  | tips
  | findTransactions
  | inclusionStates
  | trytes
  | transactionsToApprove
  deriving DecidableEq

inductive Reply where
  | nodeInfo (r : NodeInfo)
  | neighbors (r : Neighbors)
  | addNeighbors (r : AddedNeighbors)
  | removeNeighbors (r : RemovedNeighbors)
  | tips (r : Hashes)
  | findTransactions (r : Hashes)
  | inclusionStates (r : InclusionStates)
  | trytes (r : TransactionTrytes)
  | transactionsToApprove (r : ToApprove)
  deriving DecidableEq

def ReplyKind.ofValue (v : Value) : ReplyKind → Except ShapeFault Reply
  | nodeInfo => (NodeInfo.ofValue v).map .nodeInfo
  | neighbors => (Neighbors.ofValue v).map .neighbors
  | addNeighbors => (AddedNeighbors.ofValue v).map .addNeighbors
  | removeNeighbors => (RemovedNeighbors.ofValue v).map .removeNeighbors
  | tips => (Hashes.ofValue v).map .tips
  | findTransactions => (Hashes.ofValue v).map .findTransactions
  | inclusionStates => (InclusionStates.ofValue v).map .inclusionStates
  | trytes => (TransactionTrytes.ofValue v).map .trytes
  | transactionsToApprove => (ToApprove.ofValue v).map .transactionsToApprove

end TangleGateway
