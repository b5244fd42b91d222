import TangleGateway.Command.Basic
import TangleGateway.Reply.Basic
import TangleGateway.Proofs.Json.Bytes

/-! # Queries

A query is a recipe with arguments of their proper types. Its object has the word of the command
first and then the fields that are given, in order. The object can be sent whenever the depth can
be written, and it determines the query.
-/

namespace TangleGateway

open Json (Portable Encodable)

/-- Nine commands with lists of texts, a depth and a reference for arguments. -/
inductive Query where
  | nodeInfo
  | getNeighbors
  | addNeighbors (uris : List Text)
  | removeNeighbors (uris : List Text)
  | getTips
  | findTransactions (filters : Filters (Option (List Text)))
  | getInclusionStates (transactions tips : List Text)
  | getTrytes (hashes : List Text)
  | getTransactionsToApprove (depth : Int) (reference : Option Text)

namespace ReplyKind

/-- The word of the command that a kind of reply answers. -/
def word : ReplyKind → Text
  | nodeInfo => "getNodeInfo"
  | neighbors => "getNeighbors"
  | addNeighbors => "addNeighbors"
  | removeNeighbors => "removeNeighbors"
  | tips => "getTips"
  | findTransactions => "findTransactions"
  | inclusionStates => "getInclusionStates"
  | trytes => "getTrytes"
  | transactionsToApprove => "getTransactionsToApprove"

/-- The fields the command can have besides its word, in order. -/
def fieldNames : ReplyKind → List String
  | nodeInfo | neighbors | tips => []
  | addNeighbors | removeNeighbors => ["uris"]
  | findTransactions => ["addresses", "tags", "approvees", "bundles"]
  | inclusionStates => ["transactions", "tips"]
  | trytes => ["hashes"]
  | transactionsToApprove => ["depth", "reference"]

def all : List ReplyKind :=
  [.nodeInfo, .neighbors, .addNeighbors, .removeNeighbors, .tips, .findTransactions,
    .inclusionStates, .trytes, .transactionsToApprove]

theorem mem_all (k : ReplyKind) : k ∈ all := by
  cases k <;> decide

theorem nodup_words : (all.map word).Nodup := by
  decide

theorem word_injective {k k' : ReplyKind} (h : k.word = k'.word) : k = k' :=
  List.inj_on_of_nodup_map nodup_words k.mem_all k'.mem_all h

theorem nodup_fieldNames (k : ReplyKind) :
    (("command" :: k.fieldNames).map Text.ofString).Nodup := by
  cases k <;> decide

end ReplyKind

def optionalItems (filter : Option (List Text)) : Value :=
  filter.elim .null textItems

theorem textItems_injective {ts us : List Text} (h : textItems ts = textItems us) : ts = us :=
  List.map_injective_iff.mpr (fun _ _ => Value.text.inj) (Value.list.inj h)

namespace Query

/-- The recipe for the values of the arguments; what is not given is null. -/
def recipe : Query → Recipe Value
  | nodeInfo => .nodeInfo
  | getNeighbors => .getNeighbors
  | addNeighbors uris => .addNeighbors (textItems uris)
  | removeNeighbors uris => .removeNeighbors (textItems uris)
  | getTips => .getTips
  | findTransactions f => .findTransactions {
      addresses := optionalItems f.addresses
      tags := optionalItems f.tags
      approvees := optionalItems f.approvees
      bundles := optionalItems f.bundles }
  | getInclusionStates transactions tips =>
    .getInclusionStates (textItems transactions) (textItems tips)
  | getTrytes hashes => .getTrytes (textItems hashes)
  | getTransactionsToApprove depth reference =>
    .getTransactionsToApprove (.int depth) (reference.elim .null .text)

def kind : Query → ReplyKind
  | nodeInfo => .nodeInfo
  | getNeighbors => .neighbors
  | addNeighbors _ => .addNeighbors
  | removeNeighbors _ => .removeNeighbors
  | getTips => .tips
  | findTransactions _ => .findTransactions
  | getInclusionStates .. => .inclusionStates
  | getTrytes _ => .trytes
  | getTransactionsToApprove .. => .transactionsToApprove

/-- The fields after the word, in order; one that is not given has no value. -/
def fields : Query → Entries (Option Value)
  | nodeInfo | getNeighbors | getTips => []
  | addNeighbors uris | removeNeighbors uris => [("uris", some (textItems uris))]
  | findTransactions f =>
    [("addresses", f.addresses.map textItems), ("tags", f.tags.map textItems),
      ("approvees", f.approvees.map textItems), ("bundles", f.bundles.map textItems)]
  | getInclusionStates transactions tips =>
    [("transactions", some (textItems transactions)), ("tips", some (textItems tips))]
  | getTrytes hashes => [("hashes", some (textItems hashes))]
  | getTransactionsToApprove depth reference =>
    [("depth", some (.int depth)), ("reference", reference.map .text)]

def entries (q : Query) : Entries (Option Value) :=
  ("command", some (.text q.kind.word)) :: q.fields

def object (q : Query) : Entries Value :=
  Entries.present q.entries

def texts : Query → List Text
  | nodeInfo | getNeighbors | getTips => []
  | addNeighbors uris | removeNeighbors uris => uris
  | findTransactions f => [f.addresses, f.tags, f.approvees, f.bundles].flatMap (·.getD [])
  | getInclusionStates transactions tips => transactions ++ tips
  | getTrytes hashes => hashes
  | getTransactionsToApprove _ reference => reference.toList

/-- A depth has no more digits than can be written. -/
def Writable : Query → Prop
  | getTransactionsToApprove depth _ => Integer.Writable depth
  | _ => True

/-! ## Building -/

theorem filterOf_optionalItems (filter : Option (List Text)) :
    ∃ field, Recipe.filterOf id (optionalItems filter) = .ok field ∧
      field.value? id = filter.map textItems := by
  cases filter with
  | none => exact ⟨.absent, rfl, rfl⟩
  | some ts => exact ⟨.sequence (ts.map .text), rfl, rfl⟩

theorem value?_reference (reference : Option Text) :
    (Field.held (reference.elim .null .text)).value? id = reference.map .text := by
  cases reference <;> rfl

/-- Every query has a command, and its object is what the command sends. -/
theorem ofValues_recipe (q : Query) : ∃ c : ValueCommand,
    q.recipe.ofValues = .ok c ∧ c.label? id = some q.kind.word ∧ c.payload id = q.object := by
  cases q with
  | findTransactions f =>
    obtain ⟨addresses, ha, va⟩ := filterOf_optionalItems f.addresses
    obtain ⟨tags, ht, vt⟩ := filterOf_optionalItems f.tags
    obtain ⟨approvees, hp, vp⟩ := filterOf_optionalItems f.approvees
    obtain ⟨bundles, hb, vb⟩ := filterOf_optionalItems f.bundles
    let filters : Filters (Field Value) := ⟨addresses, tags, approvees, bundles⟩
    refine ⟨.findTransactions (.word "findTransactions") filters, ?_, rfl, ?_⟩
    · simp only [recipe, Recipe.ofValues, Recipe.build, ha, ht, hp, hb]
      rfl
    · simp only [Command.payload, Command.fields, object, entries, fields, Entries.present,
        ← va, ← vt, ← vp, ← vb]
      rfl
  | getTransactionsToApprove depth reference =>
    refine ⟨_, rfl, rfl, ?_⟩
    simp only [Command.payload, Command.fields, object, entries, fields, Entries.present,
      ← value?_reference reference]
    rfl
  | _ => exact ⟨_, rfl, rfl, rfl⟩

/-! ## What the object holds -/

theorem names_entries (q : Query) :
    q.entries.names = ("command" :: q.kind.fieldNames).map Text.ofString := by
  cases q <;> rfl

theorem nodup_names_entries (q : Query) : q.entries.names.Nodup := by
  rw [names_entries]
  exact q.kind.nodup_fieldNames

theorem get?_object (q : Query) {f : Text × Option Value} (h : f ∈ q.entries) :
    q.object.get? f.1 = f.2 :=
  Entries.get?_present q.nodup_names_entries h

/-- A field that is given is a list of texts, the depth or a text. -/
inductive Carried (q : Query) : Option Value → Prop where
  | absent : Carried q none
  | items {ts : List Text} : (∀ t ∈ ts, t ∈ q.texts) → Carried q (some (textItems ts))
  | depth {i : Int} : (q.Writable → Integer.Writable i) → Carried q (some (.int i))
  | text {t : Text} : t ∈ q.texts → Carried q (some (.text t))

theorem carried_fields (q : Query) : ∀ f ∈ q.fields, Carried q f.2 := by
  cases q with
  | nodeInfo | getNeighbors | getTips => exact nofun
  | addNeighbors uris | removeNeighbors uris | getTrytes uris =>
    exact List.forall_mem_singleton.mpr (.items fun t ht => ht)
  | findTransactions f =>
    have filtered : ∀ filter ∈ [f.addresses, f.tags, f.approvees, f.bundles],
        Carried (findTransactions f) (filter.map textItems) := by
      intro filter hf
      cases filter with
      | none => exact .absent
      | some ts => exact .items fun t ht => List.mem_flatMap.mpr ⟨some ts, hf, ht⟩
    simp only [List.forall_mem_cons] at filtered
    obtain ⟨ha, ht, hp, hb, -⟩ := filtered
    simp only [fields, List.forall_mem_cons]
    exact ⟨ha, ht, hp, hb, nofun⟩
  | getInclusionStates transactions tips =>
    simp only [fields, List.forall_mem_cons]
    exact ⟨.items fun t ht => List.mem_append_left tips ht,
      .items fun t ht => List.mem_append_right transactions ht, nofun⟩
  | getTransactionsToApprove depth reference =>
    simp only [fields, List.forall_mem_cons]
    refine ⟨.depth id, ?_, nofun⟩
    cases reference with
    | none => exact .absent
    | some t => exact .text (List.mem_singleton_self t)

variable {q : Query} {v : Value}

theorem Carried.portable (h : Carried q (some v)) (hq : q.Writable) (depth : Nat) :
    Portable (depth + 1) v := by
  cases h with
  | items _ =>
    refine .list fun v hv => ?_
    obtain ⟨t, -, rfl⟩ := List.mem_map.mp hv
    exact .text t
  | depth hi => exact .int (hi hq)
  | text _ => exact .text _

theorem Carried.encodable (h : Carried q (some v)) (ht : ∀ t ∈ q.texts, t.IsScalar) :
    Encodable v := by
  cases h with
  | items hts =>
    refine .list fun v hv => ?_
    obtain ⟨t, hmem, rfl⟩ := List.mem_map.mp hv
    exact .text (ht t (hts t hmem))
  | depth _ => exact .int _
  | text hmem => exact .text (ht _ hmem)

theorem object_cases {e : Text × Value} (h : e ∈ q.object) :
    e.2 = .text q.kind.word ∨ Carried q (some e.2) := by
  rcases List.mem_cons.mp (Entries.mem_present.mp h) with he | he
  · exact .inl (Option.some.inj (Prod.mk.inj he).2)
  · exact .inr (q.carried_fields _ he)

theorem portable_object (hq : q.Writable) : Portable 2 (.dict q.object) := by
  refine .dict (Entries.nodup_names_present q.nodup_names_entries) fun e he => ?_
  rcases object_cases he with hword | hcarried
  · exact hword ▸ .text _
  · exact hcarried.portable hq _

theorem exists_carrier {t : Text} (h : t ∈ q.texts) :
    ∃ f ∈ q.fields, f.2 = some (.text t) ∨ ∃ ts, t ∈ ts ∧ f.2 = some (textItems ts) := by
  cases q with
  | nodeInfo | getNeighbors | getTips => cases h
  | addNeighbors uris | removeNeighbors uris | getTrytes uris =>
    exact ⟨_, List.mem_singleton_self _, .inr ⟨uris, h, rfl⟩⟩
  | findTransactions f =>
    simp only [texts, List.flatMap_cons, List.flatMap_nil, List.mem_append, List.not_mem_nil,
      or_false] at h
    have filtered {filter : Option (List Text)} (h : t ∈ filter.getD []) :
        ∃ ts, t ∈ ts ∧ filter.map textItems = some (textItems ts) := by
      cases filter with
      | none => cases h
      | some ts => exact ⟨ts, h, rfl⟩
    rcases h with h | h | h | h
    · exact ⟨_, .head _, .inr (filtered h)⟩
    · exact ⟨_, .tail _ (.head _), .inr (filtered h)⟩
    · exact ⟨_, .tail _ (.tail _ (.head _)), .inr (filtered h)⟩
    · exact ⟨_, .tail _ (.tail _ (.tail _ (.head _))), .inr (filtered h)⟩
  | getInclusionStates transactions tips =>
    rcases List.mem_append.mp h with h | h
    · exact ⟨_, .head _, .inr ⟨transactions, h, rfl⟩⟩
    · exact ⟨_, .tail _ (.head _), .inr ⟨tips, h, rfl⟩⟩
  | getTransactionsToApprove depth reference =>
    obtain rfl := Option.mem_toList.mp h
    exact ⟨_, .tail _ (.head _), .inl rfl⟩

theorem encodable_object_iff : Encodable (.dict q.object) ↔ ∀ t ∈ q.texts, t.IsScalar := by
  rw [Json.encodable_dict_iff]
  constructor
  · intro h t ht
    obtain ⟨f, hf, hcarrier⟩ := exists_carrier ht
    have hsent {v : Value} (hv : f.2 = some v) : Encodable v :=
      (h (f.1, v) (Entries.mem_present.mpr (List.mem_cons_of_mem _ (hv ▸ hf)))).2
    rcases hcarrier with hv | ⟨ts, hts, hv⟩
    · exact Json.encodable_text_iff.mp (hsent hv)
    · exact Json.encodable_text_iff.mp
        (Json.encodable_list_iff.mp (hsent hv) _ (List.mem_map_of_mem hts))
  · intro ht e he
    constructor
    · have hname : e.1 ∈ q.entries.names := List.mem_map_of_mem (Entries.mem_present.mp he)
      rw [names_entries] at hname
      obtain ⟨name, -, hname⟩ := List.mem_map.mp hname
      exact ⟨name.toList, hname.symm⟩
    · rcases object_cases he with hword | hcarried
      · rw [hword]
        refine .text ?_
        cases q.kind <;> exact ⟨_, rfl⟩
      · exact hcarried.encodable ht

/-! ## The object determines the query -/

theorem kind_eq_of_object_eq {q q' : Query} (h : q.object = q'.object) : q.kind = q'.kind := by
  have hw : q.object.get? "command" = some (.text q.kind.word) := q.get?_object List.mem_cons_self
  have hw' : q'.object.get? "command" = some (.text q'.kind.word) :=
    q'.get?_object List.mem_cons_self
  rw [h, hw', Option.some.injEq, Value.text.injEq] at hw
  exact ReplyKind.word_injective hw.symm

theorem object_injective {q q' : Query} (h : q.object = q'.object) : q = q' := by
  -- the word gives the kind, the kind the names, and equal names leave equal values
  have hk := kind_eq_of_object_eq h
  have hn : q'.entries.names = q.entries.names := by rw [names_entries, names_entries, hk]
  have hf : q.fields = q'.fields :=
    (List.cons.inj (Entries.present_injective q.nodup_names_entries hn h)).2
  have filter_injective : Function.Injective (Option.map textItems) :=
    Option.map_injective fun _ _ => textItems_injective
  cases q with
  | nodeInfo =>
    cases q' with
    | nodeInfo => rfl
    | _ => cases hk
  | getNeighbors =>
    cases q' with
    | getNeighbors => rfl
    | _ => cases hk
  | addNeighbors uris =>
    cases q' with
    | addNeighbors uris' =>
      simp only [fields, List.cons.injEq, Prod.mk.injEq, Option.some.injEq] at hf
      rw [textItems_injective hf.1.2]
    | _ => cases hk
  | removeNeighbors uris =>
    cases q' with
    | removeNeighbors uris' =>
      simp only [fields, List.cons.injEq, Prod.mk.injEq, Option.some.injEq] at hf
      rw [textItems_injective hf.1.2]
    | _ => cases hk
  | getTips =>
    cases q' with
    | getTips => rfl
    | _ => cases hk
  | findTransactions f =>
    cases q' with
    | findTransactions f' =>
      obtain ⟨addresses, tags, approvees, bundles⟩ := f
      simp only [fields, List.cons.injEq, Prod.mk.injEq] at hf
      obtain ⟨⟨-, ha⟩, ⟨-, ht⟩, ⟨-, hp⟩, ⟨-, hb⟩, -⟩ := hf
      cases filter_injective ha
      cases filter_injective ht
      cases filter_injective hp
      cases filter_injective hb
      rfl
    | _ => cases hk
  | getInclusionStates transactions tips =>
    cases q' with
    | getInclusionStates transactions' tips' =>
      simp only [fields, List.cons.injEq, Prod.mk.injEq, Option.some.injEq] at hf
      obtain ⟨⟨-, htransactions⟩, ⟨-, htips⟩, -⟩ := hf
      rw [textItems_injective htransactions, textItems_injective htips]
    | _ => cases hk
  | getTrytes hashes =>
    cases q' with
    | getTrytes hashes' =>
      simp only [fields, List.cons.injEq, Prod.mk.injEq, Option.some.injEq] at hf
      rw [textItems_injective hf.1.2]
    | _ => cases hk
  | getTransactionsToApprove depth reference =>
    cases q' with
    | getTransactionsToApprove depth' reference' =>
      simp only [fields, List.cons.injEq, Prod.mk.injEq, Option.some.injEq, Value.int.injEq] at hf
      obtain ⟨⟨-, rfl⟩, ⟨-, hreference⟩, -⟩ := hf
      rw [Option.map_injective (fun _ _ => Value.text.inj) hreference]
    | _ => cases hk

end Query

end TangleGateway
