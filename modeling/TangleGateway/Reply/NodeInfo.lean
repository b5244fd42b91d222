import TangleGateway.Reply.Shape

/-! # Node information

The reply about the node itself. Fields are read in the order of their declaration, so the first
malformed one in that order is reported.
-/

namespace TangleGateway

structure NodeInfo where
  appName : Text
  appVersion : Text
  jreAvailableProcessors : Int
  jreFreeMemory : Int
  jreMaxMemory : Int
  jreTotalMemory : Int
  jreVersion : Text
  latestMilestone : Text
  latestMilestoneIndex : Int
  latestSolidSubtangleMilestone : Text
  latestSolidSubtangleMilestoneIndex : Int
  neighbors : Int
  packetsQueueSize : Int
  time : Int
  tips : Int
  transactionsToRequest : Int
  duration : Int
  deriving DecidableEq

def NodeInfo.ofValue (v : Value) : Except ShapeFault NodeInfo := do
  let es ← Shape.fields v
  let appName ← Shape.text es "appName"
  let appVersion ← Shape.text es "appVersion"
  let jreAvailableProcessors ← Shape.integer es "jreAvailableProcessors"
  let jreFreeMemory ← Shape.integer es "jreFreeMemory"
  let jreMaxMemory ← Shape.integer es "jreMaxMemory"
  let jreTotalMemory ← Shape.integer es "jreTotalMemory"
  let jreVersion ← Shape.text es "jreVersion"
  let latestMilestone ← Shape.text es "latestMilestone"
  let latestMilestoneIndex ← Shape.integer es "latestMilestoneIndex"
  let latestSolidSubtangleMilestone ← Shape.text es "latestSolidSubtangleMilestone"
  let latestSolidSubtangleMilestoneIndex ← Shape.integer es "latestSolidSubtangleMilestoneIndex"
  let neighbors ← Shape.integer es "neighbors"
  let packetsQueueSize ← Shape.integer es "packetsQueueSize"
  let time ← Shape.integer es "time"
  let tips ← Shape.integer es "tips"
  let transactionsToRequest ← Shape.integer es "transactionsToRequest"
  let duration ← Shape.integer es "duration"
  return {
    appName, appVersion, jreAvailableProcessors, jreFreeMemory, jreMaxMemory, jreTotalMemory,
    jreVersion, latestMilestone, latestMilestoneIndex, latestSolidSubtangleMilestone,
    latestSolidSubtangleMilestoneIndex, neighbors, packetsQueueSize, time, tips,
    transactionsToRequest, duration }

def NodeInfo.fields (r : NodeInfo) : List (String × Value) := [
  ("app_name", .text r.appName),
  ("app_version", .text r.appVersion),
  ("jre_available_processors", .int r.jreAvailableProcessors),
  ("jre_free_memory", .int r.jreFreeMemory),
  ("jre_max_memory", .int r.jreMaxMemory),
  ("jre_total_memory", .int r.jreTotalMemory),
  ("jre_version", .text r.jreVersion),
  ("latest_milestone", .text r.latestMilestone),
  ("latest_milestone_index", .int r.latestMilestoneIndex),
  ("latest_solid_subtangle_milestone", .text r.latestSolidSubtangleMilestone),
  ("latest_solid_subtangle_milestone_index", .int r.latestSolidSubtangleMilestoneIndex),
  ("neighbors", .int r.neighbors),
  ("packets_queue_size", .int r.packetsQueueSize),
  ("time", .int r.time),
  ("tips", .int r.tips),
  ("transactions_to_request", .int r.transactionsToRequest),
  ("duration", .int r.duration)]

end TangleGateway
