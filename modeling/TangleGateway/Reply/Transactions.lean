import TangleGateway.Reply.Shape

/-! # Transactions

The replies about tips, found transactions, their states and their contents.
-/

namespace TangleGateway

def textItems (ts : List Text) : Value :=
  .list (ts.map .text)

/-- The hashes of tips or of found transactions. -/
structure Hashes where
  hashes : List Text
  duration : Int
  deriving DecidableEq

def Hashes.ofValue (v : Value) : Except ShapeFault Hashes := do
  let es ← Shape.fields v
  let hashes ← Shape.textList es "hashes"
  let duration ← Shape.integer es "duration"
  return { hashes, duration }

def Hashes.fields (r : Hashes) : List (String × Value) :=
  [("hashes", textItems r.hashes), ("duration", .int r.duration)]

/-- Whether each transaction asked about is confirmed, in the order of the request. -/
structure InclusionStates where
  states : List Bool
  duration : Int
  deriving DecidableEq

def InclusionStates.ofValue (v : Value) : Except ShapeFault InclusionStates := do
  let es ← Shape.fields v
  let states ← Shape.flagList es "states"
  let duration ← Shape.integer es "duration"
  return { states, duration }

def InclusionStates.fields (r : InclusionStates) : List (String × Value) :=
  [("states", .list (r.states.map .bool)), ("duration", .int r.duration)]

/-- The contents of transactions, one for each hash asked for. -/
structure TransactionTrytes where
  trytes : List Text
  duration : Int
  deriving DecidableEq

def TransactionTrytes.ofValue (v : Value) : Except ShapeFault TransactionTrytes := do
  let es ← Shape.fields v
  let trytes ← Shape.textList es "trytes"
  let duration ← Shape.integer es "duration"
  return { trytes, duration }

def TransactionTrytes.fields (r : TransactionTrytes) : List (String × Value) :=
  [("trytes", textItems r.trytes), ("duration", .int r.duration)]

structure ToApprove where
  trunkTransaction : Text
  branchTransaction : Text
  duration : Int
  deriving DecidableEq

def ToApprove.ofValue (v : Value) : Except ShapeFault ToApprove := do
  let es ← Shape.fields v
  let trunkTransaction ← Shape.text es "trunkTransaction"
  let branchTransaction ← Shape.text es "branchTransaction"
  let duration ← Shape.integer es "duration"
  return { trunkTransaction, branchTransaction, duration }

def ToApprove.fields (r : ToApprove) : List (String × Value) :=
  [("trunk_transaction", .text r.trunkTransaction),
    ("branch_transaction", .text r.branchTransaction), ("duration", .int r.duration)]

end TangleGateway
