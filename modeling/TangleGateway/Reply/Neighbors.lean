import TangleGateway.Reply.Shape

/-! # Neighbors

The replies about the neighbors of a node. The entries of a list are read in order, each of them
whole, before the fields that follow the list.
-/

namespace TangleGateway

structure Neighbor where
  address : Text
  connectionType : Text
  numberOfAllTransactions : Int
  numberOfInvalidTransactions : Int
  numberOfNewTransactions : Int
  numberOfRandomTransactionRequests : Int
  numberOfSentTransactions : Int
  deriving DecidableEq

def Neighbor.ofValue (v : Value) : Except ShapeFault Neighbor := do
  let es ← Shape.fields v
  let address ← Shape.text es "address"
  let connectionType ← Shape.text es "connectionType"
  let numberOfAllTransactions ← Shape.integer es "numberOfAllTransactions"
  let numberOfInvalidTransactions ← Shape.integer es "numberOfInvalidTransactions"
  let numberOfNewTransactions ← Shape.integer es "numberOfNewTransactions"
  let numberOfRandomTransactionRequests ← Shape.integer es "numberOfRandomTransactionRequests"
  let numberOfSentTransactions ← Shape.integer es "numberOfSentTransactions"
  return {
    address, connectionType, numberOfAllTransactions, numberOfInvalidTransactions,
    numberOfNewTransactions, numberOfRandomTransactionRequests, numberOfSentTransactions }

def Neighbor.fields (r : Neighbor) : List (String × Value) := [
  ("address", .text r.address),
  ("connection_type", .text r.connectionType),
  ("number_of_all_transactions", .int r.numberOfAllTransactions),
  ("number_of_invalid_transactions", .int r.numberOfInvalidTransactions),
  ("number_of_new_transactions", .int r.numberOfNewTransactions),
  ("number_of_random_transaction_requests", .int r.numberOfRandomTransactionRequests),
  ("number_of_sent_transactions", .int r.numberOfSentTransactions)]

structure Neighbors where
  neighbors : List Neighbor
  duration : Int
  deriving DecidableEq

def Neighbors.ofValue (v : Value) : Except ShapeFault Neighbors := do
  let es ← Shape.fields v
  let entries ← Shape.list es "neighbors"
  let neighbors ← entries.mapM Neighbor.ofValue
  let duration ← Shape.integer es "duration"
  return { neighbors, duration }

structure AddedNeighbors where
  addedNeighbors : Int
  duration : Int
  deriving DecidableEq

def AddedNeighbors.ofValue (v : Value) : Except ShapeFault AddedNeighbors := do
  let es ← Shape.fields v
  let addedNeighbors ← Shape.integer es "addedNeighbors"
  let duration ← Shape.integer es "duration"
  return { addedNeighbors, duration }

def AddedNeighbors.fields (r : AddedNeighbors) : List (String × Value) :=
  [("added_neighbors", .int r.addedNeighbors), ("duration", .int r.duration)]

structure RemovedNeighbors where
  removedNeighbors : Int
  duration : Int
  deriving DecidableEq

def RemovedNeighbors.ofValue (v : Value) : Except ShapeFault RemovedNeighbors := do
  let es ← Shape.fields v
  let removedNeighbors ← Shape.integer es "removedNeighbors"
  let duration ← Shape.integer es "duration"
  return { removedNeighbors, duration }

def RemovedNeighbors.fields (r : RemovedNeighbors) : List (String × Value) :=
  [("removed_neighbors", .int r.removedNeighbors), ("duration", .int r.duration)]

end TangleGateway
