import TangleGateway.Proofs.Gateway.Failures
import TangleGateway.Proofs.Reply.Encoding

/-! # The types of fields

A reply asks each of its fields for a type, and a list of neighbors asks its entries too. An object
is refused exactly when a field that is present has neither the type asked for nor a value that
counts as a default: null, unless an integer is asked for, and for a list whatever is falsy.
-/

namespace TangleGateway

/-- The value is an object with fields of these names. -/
inductive Value.Object : Value → Entries Value → Prop where
  | dict (es : Entries Value) : Object (.dict es) es
  | keyed (es : List (Value × Value)) : Object (.keyed es) (Shape.named es)

theorem Value.Object.unique {v : Value} {es es' : Entries Value} (h : v.Object es)
    (h' : v.Object es') : es = es' := by
  cases h <;> cases h' <;> rfl

theorem Shape.fields_eq_ok_iff {v : Value} {es : Entries Value} :
    fields v = .ok es ↔ v.Object es := by
  constructor
  · intro h
    cases v with
    | dict | keyed =>
      cases h
      constructor
    | _ => cases h
  · rintro (es | es) <;> rfl

/-- The type a reply asks of a field. -/
inductive FieldType where
  | text
  | integer
  | texts
  | flags
  | objects
  deriving DecidableEq

namespace FieldType

/-- The value is of the type. -/
def Holds : FieldType → Value → Prop
  | text, v => ∃ t, v = .text t
  | integer, v => ∃ i, v = .int i
  | texts, v => ∃ ts : List Text, v = .list (ts.map .text)
  | flags, v => ∃ bs : List Bool, v = .list (bs.map .bool)
  | objects, v => ∃ vs, v = .list vs ∧ ∀ v ∈ vs, ∃ es, v.Object es

def isList : FieldType → Bool
  | texts | flags | objects => true
  | text | integer => false

/-- The value is of the type, or counts as a default. -/
def Admits (ty : FieldType) (v : Value) : Prop :=
  ty.Holds v ∨ (v = .null ∧ ty ≠ .integer) ∨ (ty.isList = true ∧ v.isFalsy = true)

end FieldType

/-- Fields by name, in the order they are read in. -/
abbrev Schema := List (String × FieldType)

def Neighbor.schema : Schema := [
  ("address", .text),
  ("connectionType", .text),
  ("numberOfAllTransactions", .integer),
  ("numberOfInvalidTransactions", .integer),
  ("numberOfNewTransactions", .integer),
  ("numberOfRandomTransactionRequests", .integer),
  ("numberOfSentTransactions", .integer)]

def ReplyKind.schema : ReplyKind → Schema
  | nodeInfo => [
    ("appName", .text),
    ("appVersion", .text),
    ("jreAvailableProcessors", .integer),
    ("jreFreeMemory", .integer),
    ("jreMaxMemory", .integer),
    ("jreTotalMemory", .integer),
    ("jreVersion", .text),
    ("latestMilestone", .text),
    ("latestMilestoneIndex", .integer),
    ("latestSolidSubtangleMilestone", .text),
    ("latestSolidSubtangleMilestoneIndex", .integer),
    ("neighbors", .integer),
    ("packetsQueueSize", .integer),
    ("time", .integer),
    ("tips", .integer),
    ("transactionsToRequest", .integer),
    ("duration", .integer)]
  | neighbors => [("neighbors", .objects), ("duration", .integer)]
  | addNeighbors => [("addedNeighbors", .integer), ("duration", .integer)]
  | removeNeighbors => [("removedNeighbors", .integer), ("duration", .integer)]
  | tips | findTransactions => [("hashes", .texts), ("duration", .integer)]
  | inclusionStates => [("states", .flags), ("duration", .integer)]
  | trytes => [("trytes", .texts), ("duration", .integer)]
  | transactionsToApprove =>
    [("trunkTransaction", .text), ("branchTransaction", .text), ("duration", .integer)]

/-! ## Readers of one field -/

section Readers

variable {es : Entries Value} {α : Type}

def Admitted (es : Entries Value) (field : String × FieldType) : Prop :=
  ∀ v, es.get? field.1 = some v → field.2.Admits v

namespace Shape

theorem text_ok_iff (field : String) :
    (∃ t, text es field = .ok t) ↔ Admitted es (field, .text) := by
  unfold text Admitted
  cases h : es.get? field with
  | none => simp
  | some v => cases v <;> simp [FieldType.Admits, FieldType.Holds, FieldType.isList]

theorem integer_ok_iff (field : String) :
    (∃ i, integer es field = .ok i) ↔ Admitted es (field, .integer) := by
  unfold integer Admitted
  cases h : es.get? field with
  | none => simp
  | some v => cases v <;> simp [FieldType.Admits, FieldType.Holds, FieldType.isList]

theorem allItems?_eq_some_iff {item? : Value → Option α} {f : α → Value}
    (h : ∀ v a, item? v = some a ↔ v = f a) {vs : List Value} {as : List α} :
    allItems? item? vs = some as ↔ vs = as.map f := by
  constructor
  · intro hv
    induction vs generalizing as with
    | nil =>
      cases hv
      rfl
    | cons v vs ih =>
      simp only [allItems?, Option.bind_eq_bind, Option.bind_eq_some_iff] at hv
      obtain ⟨a, ha, as', has, hv⟩ := hv
      cases hv
      rw [(h v a).mp ha, ih has, List.map_cons]
  · rintro rfl
    exact allItems?_map f (fun a => (h _ a).mpr rfl) as

theorem items?_ok_iff {item? : Value → Option α} {f : α → Value}
    (h : ∀ v a, item? v = some a ↔ v = f a) {ty : FieldType} (hlist : ty.isList = true)
    (holds : ∀ v, ty.Holds v ↔ ∃ as : List α, v = .list (as.map f)) (field : String) :
    (∃ as, (items? es field).bind (allItems? item?) = some as) ↔ Admitted es (field, ty) := by
  have hne : ty ≠ .integer := by
    rintro rfl
    cases hlist
  unfold items? Admitted
  cases hget : es.get? field with
  | none => simp [allItems?]
  | some v =>
    by_cases hv : v.isFalsy = true
    · simp [hv, allItems?, FieldType.Admits, hlist]
    · have hnull : v ≠ .null := by
        rintro rfl
        exact hv rfl
      cases v with
      | list vs => simp [hv, allItems?_eq_some_iff h, FieldType.Admits, holds]
      | null => exact absurd rfl hnull
      | _ => simp [hv, FieldType.Admits, holds]

theorem textList_ok_iff (field : String) :
    (∃ ts, textList es field = .ok ts) ↔ Admitted es (field, .texts) := by
  have h : ∀ v t, text? v = some t ↔ v = .text t := by
    intro v t
    cases v <;> simp [text?]
  rw [← items?_ok_iff h rfl fun v => Iff.rfl]
  unfold textList
  cases (items? es field).bind (allItems? text?) <;> simp

theorem flagList_ok_iff (field : String) :
    (∃ bs, flagList es field = .ok bs) ↔ Admitted es (field, .flags) := by
  have h : ∀ v b, flag? v = some b ↔ v = .bool b := by
    intro v b
    cases v <;> simp [flag?]
  rw [← items?_ok_iff h rfl fun v => Iff.rfl]
  unfold flagList
  cases (items? es field).bind (allItems? flag?) <;> simp

end Shape

open Shape

/-! ## Replies -/

theorem Neighbor.ofValue_ok_iff (v : Value) :
    (∃ r, Neighbor.ofValue v = .ok r) ↔
      ∃ es, v.Object es ∧ ∀ f ∈ Neighbor.schema, Admitted es f := by
  simp only [Neighbor.ofValue, Except.exists_bind_eq_ok_iff, Shape.fields_eq_ok_iff,
    Except.exists_pure_eq_ok, and_true, exists_and_right, text_ok_iff, integer_ok_iff,
    Neighbor.schema, List.forall_mem_cons, List.not_mem_nil, false_imp_iff, implies_true]

/-- The entries of a list of neighbors, which are objects of their own. -/
def Entries.neighborValues (es : Entries Value) : List Value :=
  match es.get? "neighbors" with
  | some (.list vs) => vs
  | _ => []

theorem neighborList_ok_iff {P : Entries Value → Prop} :
    (∃ vs, Shape.list es "neighbors" = .ok vs ∧ ∀ v ∈ vs, ∃ e, v.Object e ∧ P e) ↔
      Admitted es ("neighbors", .objects) ∧
        ∀ v ∈ es.neighborValues, ∀ e, v.Object e → P e := by
  unfold Shape.list items? Admitted Entries.neighborValues
  cases hget : es.get? "neighbors" with
  | none => simp
  | some v =>
    by_cases hv : v.isFalsy = true
    · cases v <;> simp_all [FieldType.Admits, FieldType.isList, Value.isFalsy]
    · cases v with
      | list vs =>
        have hadmits : FieldType.objects.Admits (.list vs) ↔ ∀ v ∈ vs, ∃ e, v.Object e := by
          simp [FieldType.Admits, FieldType.Holds, hv]
        simp only [hv, Bool.false_eq_true, if_false, Except.ok.injEq, exists_eq_left',
          Option.some.injEq, forall_eq', hadmits, ← forall₂_and]
        refine forall₂_congr fun v _ => ?_
        constructor
        · rintro ⟨e, he, hP⟩
          exact ⟨⟨e, he⟩, fun e' he' => he.unique he' ▸ hP⟩
        · rintro ⟨⟨e, he⟩, hP⟩
          exact ⟨e, he, hP e he⟩
      | null => exact absurd rfl hv
      | _ => simp [hv, FieldType.Admits, FieldType.Holds]

theorem Neighbors.ofValue_ok_iff :
    (∃ r, Neighbors.ofValue (.dict es) = .ok r) ↔
      (∀ f ∈ ReplyKind.neighbors.schema, Admitted es f) ∧
        ∀ v ∈ es.neighborValues, ∀ e, v.Object e → ∀ f ∈ Neighbor.schema, Admitted e f := by
  simp only [Neighbors.ofValue, Shape.fields, Except.ok_bind_eq, Except.exists_bind_eq_ok_iff,
    Except.exists_pure_eq_ok, and_true, exists_and_right, integer_ok_iff,
    Except.exists_mapM_eq_ok_iff, Neighbor.ofValue_ok_iff, ReplyKind.schema,
    List.forall_mem_cons, List.not_mem_nil, false_imp_iff, implies_true]
  simp only [← and_assoc, exists_and_right, neighborList_ok_iff]
  rw [and_right_comm]

theorem ReplyKind.ofValue_ok_iff (k : ReplyKind) :
    (∃ r, k.ofValue (.dict es) = .ok r) ↔
      (∀ f ∈ k.schema, Admitted es f) ∧
        (k = .neighbors →
          ∀ v ∈ es.neighborValues, ∀ e, v.Object e → ∀ f ∈ Neighbor.schema, Admitted e f) := by
  cases k with
  | neighbors => simp [ReplyKind.ofValue, Except.exists_map_eq_ok_iff, Neighbors.ofValue_ok_iff]
  | _ =>
    simp only [ReplyKind.ofValue, Except.exists_map_eq_ok_iff, NodeInfo.ofValue,
      AddedNeighbors.ofValue, RemovedNeighbors.ofValue, Hashes.ofValue, InclusionStates.ofValue,
      TransactionTrytes.ofValue, ToApprove.ofValue,
      Shape.fields, Except.ok_bind_eq, Except.exists_bind_eq_ok_iff,
      Except.exists_pure_eq_ok, and_true, exists_and_right, text_ok_iff, integer_ok_iff,
      textList_ok_iff, flagList_ok_iff,
      ReplyKind.schema, List.forall_mem_cons, List.not_mem_nil, false_imp_iff, implies_true,
      reduceCtorEq]

/-! ## What counts as missing -/

/-- What a reader sees of a field: for a list, whatever is falsy is missing. -/
def FieldType.seen (ty : FieldType) (o : Option Value) : Option Value :=
  if ty.isList then o.filter fun v => !v.isFalsy else o

theorem Shape.items?_eq (es : Entries Value) (field : String) :
    items? es field =
      match (es.get? field).filter fun v => !v.isFalsy with
      | none => some []
      | some (.list vs) => some vs
      | some _ => none := by
  unfold items?
  cases es.get? field with
  | none => rfl
  | some v =>
    cases hv : v.isFalsy with
    | true => simp [Option.filter, hv]
    | false =>
      simp only [Option.filter, hv]
      cases v <;> rfl

/-- Objects of which a reply's readers see the same are read as the same. -/
theorem ReplyKind.ofValue_congr {k : ReplyKind} {es es' : Entries Value}
    (h : ∀ f ∈ k.schema, f.2.seen (es.get? f.1) = f.2.seen (es'.get? f.1)) :
    k.ofValue (.dict es) = k.ofValue (.dict es') := by
  cases k <;>
    simp only [schema, List.forall_mem_cons, List.not_mem_nil, false_imp_iff, implies_true,
      and_true, FieldType.seen, FieldType.isList, if_true, Bool.false_eq_true, if_false] at h <;>
    simp only [ofValue, Except.ok_bind_eq, NodeInfo.ofValue, Neighbors.ofValue,
      AddedNeighbors.ofValue, RemovedNeighbors.ofValue, Hashes.ofValue, InclusionStates.ofValue,
      TransactionTrytes.ofValue, ToApprove.ofValue, Shape.fields, Shape.text, Shape.integer,
      Shape.list, Shape.textList, Shape.flagList, Shape.items?_eq, h]

theorem ReplyKind.nodup_schema (k : ReplyKind) : (k.schema.map Prod.fst).Nodup := by
  cases k <;> simp [schema]

/-- A falsy value of a list field is read as a list without items. -/
theorem ReplyKind.ofValue_falsy_list {k : ReplyKind} {name : String} {ty : FieldType} {v : Value}
    (hf : (name, ty) ∈ k.schema) (hlist : ty.isList = true) (hget : es.get? name = some v)
    (hv : v.isFalsy = true) :
    k.ofValue (.dict es) = k.ofValue (.dict (es.put name (.list []))) := by
  apply ofValue_congr
  rintro ⟨name', ty'⟩ hf'
  rw [Entries.get?_put]
  split
  case isTrue hname =>
    obtain ⟨rfl, rfl⟩ := Prod.mk.inj
      (List.inj_on_of_nodup_map k.nodup_schema hf hf' (Text.ofString_injective hname.symm))
    have hempty : (Value.list []).isFalsy = true := rfl
    simp [FieldType.seen, hlist, hget, Option.filter, hv, hempty]
  case isFalse => rfl

/-! ## Refusals -/

/-- The object `o` of a body is asked for a field: the body, or an entry of its neighbors. -/
inductive ReplyKind.Asks (k : ReplyKind) (es : Entries Value) (field : String × FieldType) :
    Entries Value → Prop
  | own : field ∈ k.schema → Asks k es field es
  | entry {v : Value} {e : Entries Value} : k = .neighbors → v ∈ es.neighborValues → v.Object e →
    field ∈ Neighbor.schema → Asks k es field e

theorem ReplyKind.exists_ofValue_error_iff (k : ReplyKind) :
    (∃ f, k.ofValue (.dict es) = .error f) ↔ ∃ field o, k.Asks es field o ∧ ¬ Admitted o field := by
  have hok : (∃ f, k.ofValue (.dict es) = .error f) ↔ ¬ ∃ r, k.ofValue (.dict es) = .ok r := by
    cases k.ofValue (.dict es) <;> simp
  rw [hok, k.ofValue_ok_iff]
  constructor
  · intro h
    by_contra hall
    push Not at hall
    exact h ⟨fun f hf => hall f es (.own hf),
      fun hk v hv e he f hf => hall f e (.entry hk hv he hf)⟩
  · rintro ⟨field, o, hasks, hnot⟩ ⟨hown, hentry⟩
    cases hasks with
    | own hf => exact hnot (hown field hf)
    | entry hk hv he hf => exact hnot (hentry hk _ hv o he field hf)

theorem Gateway.classify_refused_body {k : ReplyKind} {f : ShapeFault} {nesting : Nat} {t : Text}
    (h : k.ofValue (.dict es) = .error f) (hread : Json.read nesting t = .ok (.dict es)) :
    (Answer.plain (some 200) t none).classify nesting (replyParser k) =
      ⟨.ok ⟨none, some (.call (some .transport)
        (.text (("unparsable response: " : Text) ++ (f.message : Text))) (.int 200)
        (some (.wrongShape f)))⟩, []⟩ := by
  have hparsed : Answer.parsed nesting t (replyParser k) = .error (.wrongShape f) := by
    simp only [Answer.parsed, hread, Except.mapError, Except.ok_bind_eq, replyParser, h]
  rw [Answer.classify_unparsed hparsed rfl]
  rfl

/-- An object is refused for exactly those fields, its neighbors' included, that are present with
a value of another type than asked for: null is one for an integer only, and what is falsy is
never one for a list but read as no items. The refusal is a type error, and a failure of the call
for every text that is read as the object. -/
theorem ReplyKind.wrong_type_refused_unless_falsy_list (k : ReplyKind) (es : Entries Value) :
    ((∃ f, k.ofValue (.dict es) = .error f) ↔
      ∃ name ty o v, k.Asks es (name, ty) o ∧ o.get? name = some v ∧ ¬ ty.Holds v ∧
        (v = .null → ty = .integer) ∧ (ty.isList = true → v.isFalsy = false)) ∧
    (∀ name ty v, (name, ty) ∈ k.schema → ty.isList = true → es.get? name = some v →
      v.isFalsy = true → k.ofValue (.dict es) = k.ofValue (.dict (es.put name (.list [])))) ∧
    ∀ f, k.ofValue (.dict es) = .error f →
      (Fault.wrongShape f).cls = .standard .type ∧
      ∀ nesting t, Json.read nesting t = .ok (.dict es) →
        (Answer.plain (some 200) t none).classify nesting (Gateway.replyParser k) =
          ⟨.ok ⟨none, some (.call (some .transport)
            (.text (("unparsable response: " : Text) ++ (f.message : Text))) (.int 200)
            (some (.wrongShape f)))⟩, []⟩ := by
  refine ⟨?_, ?_, ?_⟩
  · rw [k.exists_ofValue_error_iff]
    constructor
    · rintro ⟨⟨name, ty⟩, o, hasks, hnot⟩
      simp only [Admitted, FieldType.Admits] at hnot
      push Not at hnot
      obtain ⟨v, hget, hholds, hnull, hfalsy⟩ := hnot
      exact ⟨name, ty, o, v, hasks, hget, hholds, hnull, fun h => by simpa using hfalsy h⟩
    · rintro ⟨name, ty, o, v, hasks, hget, hholds, hnull, hfalsy⟩
      refine ⟨(name, ty), o, hasks, fun hadm => ?_⟩
      rcases hadm v hget with h | ⟨h, hne⟩ | ⟨hlist, h⟩
      · exact hholds h
      · exact hne (hnull h)
      · rw [hfalsy hlist] at h
        cases h
  · intro name ty v hf hlist hget hv
    exact ofValue_falsy_list hf hlist hget hv
  · intro f h
    exact ⟨rfl, fun nesting t hread => Gateway.classify_refused_body h hread⟩

theorem ReplyKind.wrong_type_refused_in_entry :
    let es : Entries Value := [("neighbors", .list [.dict [("address", .bool false)]])]
    (∃ f, ReplyKind.neighbors.ofValue (.dict es) = .error f) ∧
      (Answer.plain (some 200) "\x7b\"neighbors\":[\x7b\"address\":false\x7d]\x7d" none).classify 3
          (Gateway.replyParser .neighbors) =
        ⟨.ok ⟨none, some (.call (some .transport)
          (.text "unparsable response: 'address' must be a string") (.int 200)
          (some (.wrongShape (.notText "address"))))⟩, []⟩ := by
  intro es
  obtain ⟨refused, -, failure⟩ := wrong_type_refused_unless_falsy_list .neighbors es
  refine ⟨refused.mpr ⟨"address", .text, [("address", .bool false)], .bool false,
    ?_, rfl, ?_, ?_, ?_⟩, (failure (.notText "address") rfl).2 3 _ rfl⟩
  · exact .entry rfl (List.mem_singleton.mpr rfl) (.dict _) (List.mem_cons_self ..)
  · rintro ⟨t, ht⟩
    cases ht
  · nofun
  · nofun

/-- Zero is neither null nor a list of texts, and still read as no hashes. -/
theorem ReplyKind.zero_read_as_no_hashes :
    let es : Entries Value := [("hashes", .int 0)]
    ReplyKind.tips.Asks es ("hashes", .texts) es ∧ ¬ FieldType.texts.Holds (.int 0) ∧
      ReplyKind.tips.ofValue (.dict es) = .ok (.tips ⟨[], 0⟩) ∧
      (Answer.plain (some 200) "\x7b\"hashes\":0\x7d" none).classify 3
          (Gateway.replyParser .tips) =
        ⟨.ok ⟨some (.tips ⟨[], 0⟩), none⟩, []⟩ := by
  refine ⟨.own (List.mem_cons_self ..), ?_, rfl, Answer.classify_parsed rfl⟩
  rintro ⟨ts, hts⟩
  cases hts

end Readers

end TangleGateway
