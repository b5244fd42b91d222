import TangleGateway.Proofs.Json.Members
import TangleGateway.Proofs.Reply.Schema

/-! # What a reply depends on

A reply is read from the fields of its schema, and from those of a neighbor in each entry of a list
of neighbors. Objects that agree on them are read as the same reply, or refused for the same reason,
in whichever order the fields stand and whatever else the objects hold.
-/

namespace TangleGateway

/-- Objects with the same value, or with none, under each name of a schema. -/
def Schema.Agree (s : Schema) (es es' : Entries Value) : Prop :=
  ∀ f ∈ s, es.get? f.1 = es'.get? f.1

/-- The same value, or objects that agree on the fields of a neighbor. -/
inductive Neighbor.Agree : Value → Value → Prop where
  | same (v : Value) : Agree v v
  | object {v v' : Value} {e e' : Entries Value} :
      v.Object e → v'.Object e' → Neighbor.schema.Agree e e' → Agree v v'

/-- Objects that agree on what a kind of reply is read from. -/
inductive ReplyKind.Agree : ReplyKind → Entries Value → Entries Value → Prop where
  | fields {k : ReplyKind} {es es' : Entries Value} : k.schema.Agree es es' → Agree k es es'
  | entries {es es' : Entries Value} {vs vs' : List Value} :
      es.get? "neighbors" = some (.list vs) → es'.get? "neighbors" = some (.list vs') →
      List.Forall₂ Neighbor.Agree vs vs' → es.get? "duration" = es'.get? "duration" →
      Agree .neighbors es es'

theorem Schema.agree_perm {es es' : Entries Value} (hp : es.Perm es') (hn : es.names.Nodup)
    (s : Schema) : s.Agree es es' :=
  fun f _ => Entries.get?_perm hp hn f.1

/-! ## Reading -/

section Reading

variable {es es' : Entries Value}

theorem Neighbor.ofValue_agree {v v' : Value} (h : Neighbor.Agree v v') :
    Neighbor.ofValue v = Neighbor.ofValue v' := by
  cases h with
  | same => rfl
  | object he he' h =>
    simp only [Schema.Agree, Neighbor.schema, List.forall_mem_cons, List.not_mem_nil,
      false_imp_iff, implies_true, and_true] at h
    simp only [Neighbor.ofValue, Shape.fields_eq_ok_iff.mpr he, Shape.fields_eq_ok_iff.mpr he',
      Except.ok_bind_eq, Shape.text, Shape.integer, h]

theorem Neighbor.mapM_ofValue_agree {vs vs' : List Value}
    (h : List.Forall₂ Neighbor.Agree vs vs') :
    vs.mapM Neighbor.ofValue = vs'.mapM Neighbor.ofValue := by
  induction h with
  | nil => rfl
  | cons hv _ ih => rw [List.mapM_cons, List.mapM_cons, Neighbor.ofValue_agree hv, ih]

theorem Shape.list_of_get?_list {field : String} {vs : List Value}
    (h : es.get? field = some (.list vs)) : Shape.list es field = .ok vs := by
  rw [Shape.list, Shape.items?, h]
  cases vs <;> rfl

theorem ReplyKind.ofValue_agree {k : ReplyKind} (h : k.Agree es es') :
    k.ofValue (.dict es) = k.ofValue (.dict es') := by
  cases h with
  | fields h => exact ReplyKind.ofValue_congr fun f hf => by rw [h f hf]
  | entries hvs hvs' hentries hduration =>
    have hint : Shape.integer es "duration" = Shape.integer es' "duration" := by
      rw [Shape.integer, Shape.integer, hduration]
    simp only [ReplyKind.ofValue, Neighbors.ofValue, Shape.fields, Except.ok_bind_eq,
      Shape.list_of_get?_list hvs, Shape.list_of_get?_list hvs',
      Neighbor.mapM_ofValue_agree hentries, hint]

end Reading

/-! ## Classifying -/

/-- Of a body of success all that counts is what the parser makes of it. -/
theorem Answer.classify_congr {α : Type} {nesting : Nat} {parse : Value → Except Fault α}
    {body body' : Text} (h : parsed nesting body parse = parsed nesting body' parse) :
    (plain (some 200) body none).classify nesting parse =
      (plain (some 200) body' none).classify nesting parse := by
  have hdecoded : (Answer.decodeBody nesting (.text body) >>= parse) =
      (Answer.decodeBody nesting (.text body') >>= parse) := h
  rw [classify_answered, classify_answered, if_pos rfl, if_pos rfl]
  simp only [Classify.success, plain, hdecoded]

theorem Gateway.classify_agree {k : ReplyKind} {es es' : Entries Value} {nesting : Nat}
    {t t' : Text} (ht : Json.read nesting t = .ok (.dict es))
    (ht' : Json.read nesting t' = .ok (.dict es'))
    (h : k.Agree es es') :
    (Answer.plain (some 200) t none).classify nesting (replyParser k) =
      (Answer.plain (some 200) t' none).classify nesting (replyParser k) := by
  refine Answer.classify_congr ?_
  simp only [Answer.parsed, ht, ht', Except.mapError_ok, Except.ok_bind_eq, replyParser,
    ReplyKind.ofValue_agree h]

open Json (Blank PaddedMember)

/--
A reply depends on the fields it is read from and on nothing else: objects that agree on these are
read as the same reply, or refused for the same field and with the same message. So it does not
matter in which order fields stand, nor, for the outcome of a call, how the text of a body spells
them. A text may repeat a name, of which the last value counts.
-/
theorem ReplyKind.reads_only_schema (k : ReplyKind) :
    (∀ es es', k.Agree es es' → k.ofValue (.dict es) = k.ofValue (.dict es')) ∧
    (∀ es es' : Entries Value, es.Perm es' → es.names.Nodup →
      k.ofValue (.dict es) = k.ofValue (.dict es')) ∧
    (∀ nesting t t' es es', Json.read nesting t = .ok (.dict es) →
      Json.read nesting t' = .ok (.dict es') →
      k.Agree es es' →
        (Answer.plain (some 200) t none).classify nesting (Gateway.replyParser k) =
          (Answer.plain (some 200) t' none).classify nesting (Gateway.replyParser k)) ∧
    ∀ nesting (ms : List PaddedMember) (before after : Text), Blank before → Blank after →
      (∀ m ∈ ms, m.Spelled nesting) →
        ∃ es : Entries Value,
          Json.read (nesting + 1) (before ++ (PaddedMember.objectText ms ++ after)) =
            .ok (.dict es) ∧
          es.names.Nodup ∧
          ∀ name, es.get? name = Entries.get? name (PaddedMember.entries ms).reverse := by
  refine ⟨fun es es' h => ofValue_agree h,
    fun es es' hp hn => ofValue_agree (.fields (Schema.agree_perm hp hn k.schema)),
    fun nesting t t' es es' ht ht' h => Gateway.classify_agree ht ht' h,
    fun nesting ms before after hb ha hms => ?_⟩
  have hread := (PaddedMember.spells_objectText hms).read_padded hb ha
  have hnone : (Entries.names ([] : Entries Value)).Nodup := List.nodup_nil
  exact ⟨_, hread, Entries.nodup_names_putAll hnone _, Entries.get?_ofPairs _⟩

/--
A duration and the address in an entry are malformed. The entry counts, in the one text after a
name that is repeated and in the other before it.
-/
theorem ReplyKind.reads_only_schema_repeated :
    let t : Text :=
      "\x7b\"duration\":1,\"duration\" : null ,\"neighbors\":[\x7b\"address\":0\x7d]\x7d\n"
    let t' : Text := "\x7b\"neighbors\":[\x7b\"more\":[],\"address\":0\x7d],\"duration\":null\x7d"
    let classified (t : Text) := (Answer.plain (some 200) t none).classify 4
      (Gateway.replyParser .neighbors)
    classified t = classified t' ∧
      classified t' = ⟨.ok ⟨none, some (.call (some .transport)
        (.text "unparsable response: 'address' must be a string") (.int 200)
        (some (.wrongShape (.notText "address"))))⟩, []⟩ ∧
      ∀ v w : Value, ReplyKind.neighbors.ofValue (.dict [("duration", v), ("neighbors", w)]) =
        ReplyKind.neighbors.ofValue (.dict [("neighbors", w), ("duration", v)]) := by
  intro t t' classified
  obtain ⟨-, ordered, texts, repeated⟩ := reads_only_schema .neighbors
  let entry : Entries Value := [("address", .int 0)]
  let members : List PaddedMember := [
    ⟨⟨"duration", "duration", .int 1, "1"⟩, [], [], [], []⟩,
    ⟨⟨"duration", "duration", .null, "null"⟩, [], " ", " ", " "⟩,
    ⟨⟨"neighbors", "neighbors", .list [.dict entry], "[\x7b\"address\":0\x7d]"⟩, [], [], [], []⟩]
  have hmembers : ∀ m ∈ members, m.Spelled 3 := by
    have hone : Json.Compact 3 (.int 1) "1" := .int (by decide)
    have hnull : Json.Compact 3 .null "null" := .null
    have hlist : Json.Spells 3 (.list [.dict entry])
        "[\x7b\"address\":0\x7d]" := ⟨⟨_, _, rfl, by decide⟩, fun _ => rfl⟩
    simp only [members, List.forall_mem_cons]
    exact ⟨⟨fun _ _ => rfl, hone.readsBack.spells, .nil, .nil, .nil, .nil⟩,
      ⟨fun _ _ => rfl, hnull.readsBack.spells, .nil, by decide, by decide, by decide⟩,
      ⟨fun _ _ => rfl, hlist, .nil, .nil, .nil, .nil⟩, List.forall_mem_nil _⟩
  obtain ⟨es, hread, -, hget⟩ := repeated 3 members [] "\n" .nil (by decide) hmembers
  let entry' : Entries Value := [("more", .list []), ("address", .int 0)]
  have hread' : Json.read 4 t' =
      .ok (.dict [("neighbors", .list [.dict entry']), ("duration", .null)]) := rfl
  have hentry : Neighbor.Agree (.dict entry) (.dict entry') := by
    refine .object (.dict _) (.dict _) ?_
    simp only [Schema.Agree, Neighbor.schema, List.forall_mem_cons]
    exact ⟨rfl, rfl, rfl, rfl, rfl, rfl, rfl, List.forall_mem_nil _⟩
  have hnames : (["duration", "neighbors"] : List Text).Nodup := by decide
  refine ⟨texts 4 t t' es _ hread hread' (.entries (hget "neighbors") rfl (.cons hentry .nil)
    (hget "duration")), ?_, fun v w => ?_⟩
  · exact Gateway.classify_refused_body (f := .notText "address") rfl hread'
  · exact ordered _ _ (.swap ..) hnames

end TangleGateway
