import TangleGateway.Proofs.Gateway.Failures
import TangleGateway.Proofs.Json.RoundTrip

/-! # Replies as JSON

A reply is encoded as an object that has each of its fields under the name in camel case, in any
order and among other entries. Whatever a node encodes so is read back as the reply.
-/

namespace TangleGateway

open Json (Portable)

/-- A name in camel case: a letter after an underscore is a capital. -/
def camelCase : List Char → List Char
  | '_' :: c :: cs => c.toUpper :: camelCase cs
  | c :: cs => c :: camelCase cs
  | [] => []

def wireName (name : String) : Text :=
  .ofChars (camelCase name.toList)

theorem wireName_eq {cs ds : List Char} (h : camelCase cs = ds) :
    wireName (String.ofList cs) = Text.ofString (String.ofList ds) := by
  rw [wireName, Text.ofString, String.toList_ofList, String.toList_ofList, h]

/-- The entries are the fields and others, in some order. -/
def Encodes (es : Entries Value) (fields : List (String × Value)) : Prop :=
  ∃ others, es.Perm (fields.map (fun f => (wireName f.1, f.2)) ++ others)

namespace Neighbor

def EncodedAs (r : Neighbor) (v : Value) : Prop :=
  ∃ es, v = .dict es ∧ Encodes es r.fields

end Neighbor

namespace Reply

/-- The entries are those of an object for the reply. -/
def EncodedAs (es : Entries Value) : Reply → Prop
  | nodeInfo r => Encodes es r.fields
  | neighbors r => ∃ vs, List.Forall₂ Neighbor.EncodedAs r.neighbors vs ∧
      Encodes es [("neighbors", .list vs), ("duration", .int r.duration)]
  | addNeighbors r => Encodes es r.fields
  | removeNeighbors r => Encodes es r.fields
  | tips r => Encodes es r.fields
  | findTransactions r => Encodes es r.fields
  | inclusionStates r => Encodes es r.fields
  | trytes r => Encodes es r.fields
  | transactionsToApprove r => Encodes es r.fields

end Reply

section Read

variable {es : Entries Value} {fields : List (String × Value)} {name : String}

theorem Encodes.get? (h : Encodes es fields) (hn : es.names.Nodup) :
    ∀ f ∈ fields, es.get? (wireName f.1) = some f.2 := by
  obtain ⟨others, hperm⟩ := h
  intro f hf
  have hmem : (wireName f.1, f.2) ∈ es :=
    hperm.mem_iff.mpr (List.mem_append_left _ (List.mem_map_of_mem hf))
  exact Entries.get?_of_mem hn hmem

namespace Shape

theorem text_of_get? (field : String) {t : Text} (h : es.get? (wireName name) = some (.text t))
    (hname : wireName name = field) : text es field = .ok t := by
  rw [hname] at h
  rw [text, h]

theorem integer_of_get? (field : String) {i : Int}
    (h : es.get? (wireName name) = some (.int i)) (hname : wireName name = field) :
    integer es field = .ok i := by
  rw [hname] at h
  rw [integer, h]

theorem items?_of_get? (field : String) {vs : List Value}
    (h : es.get? (wireName name) = some (.list vs)) (hname : wireName name = field) :
    items? es field = some vs := by
  rw [hname] at h
  rw [items?, h]
  cases vs <;> rfl

theorem allItems?_map {α : Type} {item? : Value → Option α} (f : α → Value)
    (h : ∀ a, item? (f a) = some a) (as : List α) : allItems? item? (as.map f) = some as := by
  induction as with
  | nil => rfl
  | cons a as ih => rw [List.map_cons, allItems?, h, ih]; rfl

theorem textList_of_get? (field : String) {ts : List Text}
    (h : es.get? (wireName name) = some (textItems ts)) (hname : wireName name = field) :
    textList es field = .ok ts := by
  rw [textList, items?_of_get? field h hname, Option.bind_some,
    allItems?_map .text (fun _ => rfl)]

theorem flagList_of_get? (field : String) {bs : List Bool}
    (h : es.get? (wireName name) = some (.list (bs.map .bool))) (hname : wireName name = field) :
    flagList es field = .ok bs := by
  rw [flagList, items?_of_get? field h hname, Option.bind_some,
    allItems?_map .bool (fun _ => rfl)]

theorem list_of_get? (field : String) {vs : List Value}
    (h : es.get? (wireName name) = some (.list vs)) (hname : wireName name = field) :
    list es field = .ok vs := by
  rw [list, items?_of_get? field h hname]

end Shape

open Shape

theorem NodeInfo.ofValue_encoded {r : NodeInfo} (h : Encodes es r.fields) (hn : es.names.Nodup) :
    NodeInfo.ofValue (.dict es) = .ok r := by
  have hget := h.get? hn
  simp only [NodeInfo.fields, List.forall_mem_cons] at hget
  obtain ⟨appName, appVersion, processors, freeMemory, maxMemory, totalMemory, version, milestone,
    milestoneIndex, solid, solidIndex, neighbors, queue, time, tips, toRequest, duration, -⟩ := hget
  simp only [NodeInfo.ofValue, Shape.fields, Except.ok_bind_eq,
    text_of_get? "appName" appName (wireName_eq rfl),
    text_of_get? "appVersion" appVersion (wireName_eq rfl),
    integer_of_get? "jreAvailableProcessors" processors (wireName_eq rfl),
    integer_of_get? "jreFreeMemory" freeMemory (wireName_eq rfl),
    integer_of_get? "jreMaxMemory" maxMemory (wireName_eq rfl),
    integer_of_get? "jreTotalMemory" totalMemory (wireName_eq rfl),
    text_of_get? "jreVersion" version (wireName_eq rfl),
    text_of_get? "latestMilestone" milestone (wireName_eq rfl),
    integer_of_get? "latestMilestoneIndex" milestoneIndex (wireName_eq rfl),
    text_of_get? "latestSolidSubtangleMilestone" solid (wireName_eq rfl),
    integer_of_get? "latestSolidSubtangleMilestoneIndex" solidIndex (wireName_eq rfl),
    integer_of_get? "neighbors" neighbors (wireName_eq rfl),
    integer_of_get? "packetsQueueSize" queue (wireName_eq rfl),
    integer_of_get? "time" time (wireName_eq rfl),
    integer_of_get? "tips" tips (wireName_eq rfl),
    integer_of_get? "transactionsToRequest" toRequest (wireName_eq rfl),
    integer_of_get? "duration" duration (wireName_eq rfl)]
  rfl

theorem Neighbor.ofValue_encoded {r : Neighbor} (h : Encodes es r.fields) (hn : es.names.Nodup) :
    Neighbor.ofValue (.dict es) = .ok r := by
  have hget := h.get? hn
  simp only [Neighbor.fields, List.forall_mem_cons] at hget
  obtain ⟨address, connection, all, invalid, new, random, sent, -⟩ := hget
  simp only [Neighbor.ofValue, Shape.fields, Except.ok_bind_eq,
    text_of_get? "address" address (wireName_eq rfl),
    text_of_get? "connectionType" connection (wireName_eq rfl),
    integer_of_get? "numberOfAllTransactions" all (wireName_eq rfl),
    integer_of_get? "numberOfInvalidTransactions" invalid (wireName_eq rfl),
    integer_of_get? "numberOfNewTransactions" new (wireName_eq rfl),
    integer_of_get? "numberOfRandomTransactionRequests" random (wireName_eq rfl),
    integer_of_get? "numberOfSentTransactions" sent (wireName_eq rfl)]
  rfl

/-- Neighbors are read one by one, each from its own object. -/
theorem Neighbor.mapM_ofValue_encoded {rs : List Neighbor} {vs : List Value}
    (h : List.Forall₂ Neighbor.EncodedAs rs vs)
    (hn : ∀ es, Value.dict es ∈ vs → (Entries.names es).Nodup) :
    vs.mapM Neighbor.ofValue = .ok rs := by
  induction h with
  | nil => rfl
  | @cons r v rs vs hv hvs ih =>
    obtain ⟨es, rfl, hes⟩ := hv
    rw [List.mapM_cons, Neighbor.ofValue_encoded hes (hn es List.mem_cons_self),
      ih fun es hes => hn es (List.mem_cons_of_mem _ hes)]
    rfl

theorem Neighbors.ofValue_encoded {r : Neighbors} {vs : List Value}
    (h : Encodes es [("neighbors", .list vs), ("duration", .int r.duration)])
    (hn : es.names.Nodup) (hvs : vs.mapM Neighbor.ofValue = .ok r.neighbors) :
    Neighbors.ofValue (.dict es) = .ok r := by
  have hget := h.get? hn
  simp only [List.forall_mem_cons] at hget
  obtain ⟨neighbors, duration, -⟩ := hget
  simp only [Neighbors.ofValue, Shape.fields, Except.ok_bind_eq, hvs,
    list_of_get? "neighbors" neighbors (wireName_eq rfl),
    integer_of_get? "duration" duration (wireName_eq rfl)]
  rfl

theorem AddedNeighbors.ofValue_encoded {r : AddedNeighbors} (h : Encodes es r.fields)
    (hn : es.names.Nodup) : AddedNeighbors.ofValue (.dict es) = .ok r := by
  have hget := h.get? hn
  simp only [AddedNeighbors.fields, List.forall_mem_cons] at hget
  obtain ⟨added, duration, -⟩ := hget
  simp only [AddedNeighbors.ofValue, Shape.fields, Except.ok_bind_eq,
    integer_of_get? "addedNeighbors" added (wireName_eq rfl),
    integer_of_get? "duration" duration (wireName_eq rfl)]
  rfl

theorem RemovedNeighbors.ofValue_encoded {r : RemovedNeighbors} (h : Encodes es r.fields)
    (hn : es.names.Nodup) : RemovedNeighbors.ofValue (.dict es) = .ok r := by
  have hget := h.get? hn
  simp only [RemovedNeighbors.fields, List.forall_mem_cons] at hget
  obtain ⟨removed, duration, -⟩ := hget
  simp only [RemovedNeighbors.ofValue, Shape.fields, Except.ok_bind_eq,
    integer_of_get? "removedNeighbors" removed (wireName_eq rfl),
    integer_of_get? "duration" duration (wireName_eq rfl)]
  rfl

theorem Hashes.ofValue_encoded {r : Hashes} (h : Encodes es r.fields) (hn : es.names.Nodup) :
    Hashes.ofValue (.dict es) = .ok r := by
  have hget := h.get? hn
  simp only [Hashes.fields, List.forall_mem_cons] at hget
  obtain ⟨hashes, duration, -⟩ := hget
  simp only [Hashes.ofValue, Shape.fields, Except.ok_bind_eq,
    textList_of_get? "hashes" hashes (wireName_eq rfl),
    integer_of_get? "duration" duration (wireName_eq rfl)]
  rfl

theorem InclusionStates.ofValue_encoded {r : InclusionStates} (h : Encodes es r.fields)
    (hn : es.names.Nodup) : InclusionStates.ofValue (.dict es) = .ok r := by
  have hget := h.get? hn
  simp only [InclusionStates.fields, List.forall_mem_cons] at hget
  obtain ⟨states, duration, -⟩ := hget
  simp only [InclusionStates.ofValue, Shape.fields, Except.ok_bind_eq,
    flagList_of_get? "states" states (wireName_eq rfl),
    integer_of_get? "duration" duration (wireName_eq rfl)]
  rfl

theorem TransactionTrytes.ofValue_encoded {r : TransactionTrytes} (h : Encodes es r.fields)
    (hn : es.names.Nodup) : TransactionTrytes.ofValue (.dict es) = .ok r := by
  have hget := h.get? hn
  simp only [TransactionTrytes.fields, List.forall_mem_cons] at hget
  obtain ⟨trytes, duration, -⟩ := hget
  simp only [TransactionTrytes.ofValue, Shape.fields, Except.ok_bind_eq,
    textList_of_get? "trytes" trytes (wireName_eq rfl),
    integer_of_get? "duration" duration (wireName_eq rfl)]
  rfl

theorem ToApprove.ofValue_encoded {r : ToApprove} (h : Encodes es r.fields)
    (hn : es.names.Nodup) : ToApprove.ofValue (.dict es) = .ok r := by
  have hget := h.get? hn
  simp only [ToApprove.fields, List.forall_mem_cons] at hget
  obtain ⟨trunk, branch, duration, -⟩ := hget
  simp only [ToApprove.ofValue, Shape.fields, Except.ok_bind_eq,
    text_of_get? "trunkTransaction" trunk (wireName_eq rfl),
    text_of_get? "branchTransaction" branch (wireName_eq rfl),
    integer_of_get? "duration" duration (wireName_eq rfl)]
  rfl

end Read

section Classify

variable {es : Entries Value} {r : Reply} {depth : Nat}

theorem Reply.ofValue_encoded (h : r.EncodedAs es) (hp : Portable depth (.dict es)) :
    r.kind.ofValue (.dict es) = .ok r := by
  have hn := hp.nodup
  cases r with
  | nodeInfo r => exact Except.map_eq_ok_iff.mpr ⟨r, NodeInfo.ofValue_encoded h hn, rfl⟩
  | neighbors r =>
    -- the names of each neighbor's own object are distinct because the list is portable
    obtain ⟨vs, hvs, hes⟩ := h
    have hnodup : ∀ es : Entries Value, .dict es ∈ vs → es.names.Nodup := by
      intro es he
      obtain ⟨others, hperm⟩ := hes
      obtain ⟨_, hlist⟩ := hp.of_mem_dict (hperm.mem_iff.mpr List.mem_cons_self)
      obtain ⟨_, hentry⟩ := hlist.of_mem_list he
      exact hentry.nodup
    have hread := Neighbor.mapM_ofValue_encoded hvs hnodup
    exact Except.map_eq_ok_iff.mpr ⟨r, Neighbors.ofValue_encoded hes hn hread, rfl⟩
  | addNeighbors r => exact Except.map_eq_ok_iff.mpr ⟨r, AddedNeighbors.ofValue_encoded h hn, rfl⟩
  | removeNeighbors r =>
    exact Except.map_eq_ok_iff.mpr ⟨r, RemovedNeighbors.ofValue_encoded h hn, rfl⟩
  | tips r => exact Except.map_eq_ok_iff.mpr ⟨r, Hashes.ofValue_encoded h hn, rfl⟩
  | findTransactions r => exact Except.map_eq_ok_iff.mpr ⟨r, Hashes.ofValue_encoded h hn, rfl⟩
  | inclusionStates r =>
    exact Except.map_eq_ok_iff.mpr ⟨r, InclusionStates.ofValue_encoded h hn, rfl⟩
  | trytes r => exact Except.map_eq_ok_iff.mpr ⟨r, TransactionTrytes.ofValue_encoded h hn, rfl⟩
  | transactionsToApprove r =>
    exact Except.map_eq_ok_iff.mpr ⟨r, ToApprove.ofValue_encoded h hn, rfl⟩

/--
A status of success with the JSON of an object for a reply is a success, and its value is the
reply. The fields may come in any order and among other entries. All that is asked of the object is
what JSON asks: no name twice, integers that can be written, and brackets not nested too deep.
-/
theorem Answer.classify_encoded (h : r.EncodedAs es) {nesting : Nat}
    (hp : Portable nesting (.dict es)) :
    let classified (t : Text) :=
      (plain (some 200) t none).classify nesting (Gateway.replyParser r.kind)
    (∃ t, Json.write (.dict es) = .ok t ∧ classified t = ⟨.ok ⟨some r, none⟩, []⟩) ∧
      ∀ t, Json.read nesting t = .ok (.dict es) → classified t = ⟨.ok ⟨some r, none⟩, []⟩ := by
  intro classified
  have hclassified : ∀ t, Json.read nesting t = .ok (.dict es) →
      classified t = ⟨.ok ⟨some r, none⟩, []⟩ := by
    intro t ht
    refine classify_parsed ?_
    simp only [parsed, Gateway.replyParser, ht, Except.mapError_ok, Except.ok_bind_eq,
      Reply.ofValue_encoded h hp]
  obtain ⟨t, hw, -, hr⟩ := Json.read_write hp
  exact ⟨⟨t, hw, hclassified t hr⟩, hclassified⟩

/-- The fields stand from last to first after another entry, which is a nested one. -/
theorem Answer.classify_encoded_backwards :
    let r : Reply := .transactionsToApprove ⟨"\"\\\n\x7f", "é😀", -7⟩
    let es : Entries Value :=
      [("more", .list [.dict [("", .null)], .bool true]), ("duration", .int (-7)),
        ("branchTransaction", .text "é😀"), ("trunkTransaction", .text "\"\\\n\x7f")]
    ∃ t, Json.write (.dict es) = .ok t ∧
      (plain (some 200) t none).classify 3 (Gateway.replyParser .transactionsToApprove) =
        ⟨.ok ⟨some r, none⟩, []⟩ := by
  intro r es
  have hes : r.EncodedAs es :=
    ⟨[("more", .list [.dict [("", .null)], .bool true])], (List.reverse_perm es).symm⟩
  have hp : Portable 3 (.dict es) := by
    refine .dict (by decide) ?_
    simp only [es, List.forall_mem_cons]
    refine ⟨.list ?_, .int (by decide), .text _, .text _, nofun⟩
    simp only [List.forall_mem_cons]
    exact ⟨.dict (by decide) (List.forall_mem_singleton.mpr .null), .bool true, nofun⟩
  exact (classify_encoded hes hp).1

end Classify

end TangleGateway
