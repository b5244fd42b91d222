import TangleGateway.Command.Sharing
import TangleGateway.Proofs.Command.Query
import TangleGateway.Proofs.Except
import TangleGateway.Proofs.Value.Iteration

/-! # Commands as snapshots

A command that was built holds no list of the caller, except a list given for a depth or a
reference, and each payload of it gets lists of its own. Whatever is appended later to the lists
that are arguments, or are themselves in a payload, every payload has the values that the arguments
had when the command was built.
-/

namespace TangleGateway

/-! ## What a recipe makes of its arguments -/

/-- An argument of which the elements are taken, or one that is held as it is. -/
inductive Argument (ρ : Type) where
  | taken (object : ρ)
  | held (object : ρ)

/-- What goes out for an argument: the list of what iterating over it gives, or its own value. -/
inductive Argument.Sends {ρ : Type} (view : ρ → Value) : Argument ρ → Option Value → Prop where
  | noFilter {o : ρ} : view o = .null → Sends view (.taken o) none
  | elements {o : ρ} {vs : List Value} : (view o).Yields vs →
      Sends view (.taken o) (some (.list vs))
  | notGiven {o : ρ} : view o = .null → Sends view (.held o) none
  | tuple {o : ρ} {vs : List Value} : view o = .tuple vs → Sends view (.held o) (some (.list vs))
  | value {o : ρ} : view o ≠ .null → (∀ vs, view o ≠ .tuple vs) →
      Sends view (.held o) (some (view o))

/-- The field a recipe makes for an argument. -/
inductive Argument.Makes {ρ : Type} (view : ρ → Value) : Argument ρ → Field ρ → Prop where
  | absent {o : ρ} : view o = .null → Makes view (.taken o) .absent
  | sequence {o : ρ} {vs : List Value} : (view o).elements? = some vs →
      Makes view (.taken o) (.sequence vs)
  | held (o : ρ) : Makes view (.held o) (.held o)

theorem Argument.Makes.sends_iff {ρ : Type} {view : ρ → Value} {a : Argument ρ} {f : Field ρ}
    (h : a.Makes view f) {v : Option Value} : a.Sends view v ↔ v = f.value? view := by
  cases h with
  | absent hnull =>
    constructor
    · intro hv
      cases hv with
      | noFilter => rfl
      | elements hvs =>
        rw [hnull] at hvs
        cases hvs
    · rintro rfl
      exact .noFilter hnull
  | sequence helements =>
    constructor
    · intro hv
      cases hv with
      | noFilter hnull =>
        rw [hnull] at helements
        cases helements
      | elements hvs => rw [Option.some.inj (helements.symm.trans hvs.elements?)]; rfl
    · rintro rfl
      exact .elements (Value.elements?_eq_some_iff.mp helements)
  | held o =>
    rw [Field.value?]
    constructor
    · intro hv
      cases hv with
      | notGiven hnull => rw [hnull]
      | tuple htuple => rw [htuple]
      | value hnull htuple =>
        split
        case h_1 h => exact absurd h hnull
        case h_2 vs h => exact absurd h (htuple vs)
        case h_3 => rfl
    · rintro rfl
      split
      case h_1 hnull => exact .notGiven hnull
      case h_2 vs htuple => exact .tuple htuple
      case h_3 hnull htuple => exact .value hnull htuple

theorem Argument.sends_of_makes {ρ : Type} {view : ρ → Value} {as : List (Argument ρ)}
    {fs : List (Field ρ)} (h : List.Forall₂ (Argument.Makes view) as fs)
    {vs : List (Option Value)} :
    List.Forall₂ (Argument.Sends view) as vs ↔ vs = fs.map (Field.value? view) := by
  induction h generalizing vs with
  | nil => exact List.forall₂_nil_left_iff
  | cons h _ ih =>
    rw [List.forall₂_cons_left_iff]
    simp only [h.sends_iff, ih, List.map_cons, exists_and_left, exists_eq_left]

namespace Recipe

variable {ρ : Type} {view : ρ → Value} {o : ρ} {f : Field ρ}

def kind : Recipe ρ → ReplyKind
  | nodeInfo => .nodeInfo
  | getNeighbors => .neighbors
  | addNeighbors _ => .addNeighbors
  | removeNeighbors _ => .removeNeighbors
  | getTips => .tips
  | findTransactions _ => .findTransactions
  | getInclusionStates .. => .inclusionStates
  | getTrytes _ => .trytes
  | getTransactionsToApprove .. => .transactionsToApprove

/-- The arguments in order. -/
def passed : Recipe ρ → List (Argument ρ)
  | nodeInfo | getNeighbors | getTips => []
  | addNeighbors uris | removeNeighbors uris => [.taken uris]
  | findTransactions f => [.taken f.addresses, .taken f.tags, .taken f.approvees, .taken f.bundles]
  | getInclusionStates transactions tips => [.taken transactions, .taken tips]
  | getTrytes hashes => [.taken hashes]
  | getTransactionsToApprove depth reference => [.held depth, .held reference]

/-- A word, and what there is for each argument under the name of its field. -/
def named {β : Type} (r : Recipe ρ) (word : β) (others : List β) : Entries β :=
  ("command", word) :: (r.kind.fieldNames.map Text.ofString).zip others

/-- The word of the command and what goes out for its arguments. -/
def Sends (view : ρ → Value) (r : Recipe ρ) (object : Entries Value) : Prop :=
  ∃ vs, List.Forall₂ (Argument.Sends view) r.passed vs ∧
    object = Entries.present (r.named (some (.text r.kind.word)) vs)

theorem makes_of_sequenceOf (h : sequenceOf view o = .ok f) : (Argument.taken o).Makes view f := by
  unfold sequenceOf at h
  split at h
  · cases h
    exact .sequence ‹_›
  · cases h

theorem makes_of_filterOf (h : filterOf view o = .ok f) : (Argument.taken o).Makes view f := by
  unfold filterOf at h
  split at h
  · rename_i hnull
    cases h
    refine .absent ?_
    cases hv : view o with
    | null => rfl
    | _ =>
      rw [hv] at hnull
      cases hnull
  · exact makes_of_sequenceOf h

theorem fields_of_build {r : Recipe ρ} {c : Command ρ} (h : r.build view = .ok c) :
    ∃ fs, List.Forall₂ (Argument.Makes view) r.passed fs ∧
      c.fields = r.named (.word r.kind.word) fs := by
  cases r with
  | nodeInfo | getNeighbors | getTips =>
    cases h
    exact ⟨_, .nil, rfl⟩
  | getTransactionsToApprove depth reference =>
    cases h
    exact ⟨_, .cons (.held _) (.cons (.held _) .nil), rfl⟩
  | addNeighbors o | removeNeighbors o | getTrytes o =>
    obtain ⟨f, hf, h⟩ := Except.bind_eq_ok_iff.mp h
    cases h
    exact ⟨_, .cons (makes_of_sequenceOf hf) .nil, rfl⟩
  | findTransactions filters =>
    obtain ⟨addresses, ha, h⟩ := Except.bind_eq_ok_iff.mp h
    obtain ⟨tags, ht, h⟩ := Except.bind_eq_ok_iff.mp h
    obtain ⟨approvees, hp, h⟩ := Except.bind_eq_ok_iff.mp h
    obtain ⟨bundles, hb, h⟩ := Except.bind_eq_ok_iff.mp h
    cases h
    exact ⟨_, .cons (makes_of_filterOf ha) (.cons (makes_of_filterOf ht)
      (.cons (makes_of_filterOf hp) (.cons (makes_of_filterOf hb) .nil))), rfl⟩
  | getInclusionStates transactions tips =>
    obtain ⟨x, hx, h⟩ := Except.bind_eq_ok_iff.mp h
    obtain ⟨y, hy, h⟩ := Except.bind_eq_ok_iff.mp h
    cases h
    exact ⟨_, .cons (makes_of_sequenceOf hx) (.cons (makes_of_sequenceOf hy) .nil), rfl⟩

theorem sends_iff_of_build {r : Recipe ρ} {c : Command ρ} (h : r.build view = .ok c)
    {object : Entries Value} : r.Sends view object ↔ object = c.payload view := by
  obtain ⟨fs, hmakes, hfields⟩ := fields_of_build h
  have hpayload : c.payload view =
      Entries.present (r.named (some (.text r.kind.word)) (fs.map (Field.value? view))) := by
    have hmap : (r.named (.word r.kind.word) fs).map (Prod.map id (Field.value? view)) =
        r.named (some (.text r.kind.word)) (fs.map (Field.value? view)) := by
      rw [named, named, List.map_cons, ← List.zip_map_right]
      rfl
    rw [← hmap, ← hfields, Entries.present, List.filterMap_map]
    rfl
  rw [Sends, hpayload]
  simp only [Argument.sends_of_makes hmakes, exists_eq_left]

end Recipe

/-! ## Fields that hold no list -/

/-- The field does not hold a list of the caller. -/
def Field.Unshared (f : Field SharedObject) : Prop := ∀ ref, f ≠ .held (.list ref)

theorem Argument.unshared_of_makes {view : SharedObject → Value} {as : List (Argument SharedObject)}
    {fs : List (Field SharedObject)} (h : List.Forall₂ (Argument.Makes view) as fs)
    (has : ∀ ref, .held (.list ref) ∉ as) : ∀ f ∈ fs, f.Unshared := by
  induction h with
  | nil => exact nofun
  | cons h _ ih =>
    refine List.forall_mem_cons.mpr ⟨?_, ih fun ref hmem => has ref (List.mem_cons_of_mem _ hmem)⟩
    rintro ref rfl
    cases h
    exact has ref List.mem_cons_self

theorem Recipe.unshared_of_build {r : Recipe SharedObject} {view : SharedObject → Value}
    {c : Command SharedObject} (h : r.build view = .ok c)
    (hheld : ∀ ref, Argument.held (.list ref) ∉ r.passed) : ∀ f ∈ c.fields, f.2.Unshared := by
  obtain ⟨fs, hmakes, hfields⟩ := fields_of_build h
  have hfs := Argument.unshared_of_makes hmakes hheld
  rw [hfields, named, List.forall_mem_cons]
  exact ⟨nofun, fun f hf => hfs f.2 (List.of_mem_zip hf).2⟩

/-! ## Handing out -/

namespace ListStore

variable {s s' : ListStore} {f : Field SharedObject} {fs : List (Text × Field SharedObject)}

theorem value?_unshared (hf : f.Unshared) (s s' : ListStore) :
    f.value? s.view = f.value? s'.view := by
  cases f with
  | absent | word | sequence => rfl
  | held o =>
    cases o with
    | list ref => exact absurd rfl (hf ref)
    | plain v => rfl

def payloadOf (s : ListStore) (fs : List (Text × Field SharedObject)) : Entries Value :=
  fs.filterMap fun f => (f.2.value? s.view).map (f.1, ·)

theorem payloadOf_unshared (hfs : ∀ f ∈ fs, f.2.Unshared) (s s' : ListStore) :
    s.payloadOf fs = s'.payloadOf fs :=
  List.filterMap_congr fun f hf => by rw [value?_unshared (hfs f hf) s s']

/-- The values of the objects in a payload at the moment. -/
def values (s : ListStore) (handed : List (Text × SharedObject)) : Entries Value :=
  handed.map fun e => (e.1, s.view e.2)

theorem view_share (s : ListStore) (v : Value) (hmore : (s.share v).2.lists <+: s'.lists) :
    s'.view (s.share v).1 = v := by
  obtain ⟨more, hmore⟩ := hmore
  cases v with
  | list items =>
    have hlist : s'.lists[s.lists.length]? = some items := by
      rw [← hmore]
      change (s.lists ++ [items] ++ more)[s.lists.length]? = some items
      simp
    change Value.list (s'.lists[s.lists.length]?.getD []) = .list items
    rw [hlist]
    rfl
  | _ => rfl

theorem prefix_share (s : ListStore) (v : Value) : s.lists <+: (s.share v).2.lists := by
  cases v with
  | list items => exact List.prefix_append s.lists [items]
  | _ => exact List.prefix_rfl

theorem handOutField_unshared (hf : f.Unshared) (s : ListStore) :
    s.handOutField f =
      (f.value? s.view).elim (none, s) fun v => (some (s.share v).1, (s.share v).2) := by
  unfold handOutField
  split
  case h_1 h => rw [h]; rfl
  case h_2 ref v h => exact absurd rfl (hf ref)
  case h_3 v _ h => rw [h]; rfl

/-- Lists are made for a payload and none is changed; the payload has the values of the fields. -/
theorem handOut_unshared (hfs : ∀ f ∈ fs, f.2.Unshared) (s : ListStore) :
    s.lists <+: (s.handOut fs).2.lists ∧
      (s.handOut fs).2.values (s.handOut fs).1 = s.payloadOf fs := by
  induction fs generalizing s with
  | nil => exact ⟨List.prefix_rfl, rfl⟩
  | cons f fs ih =>
    obtain ⟨name, f⟩ := f
    obtain ⟨hf, hfs⟩ := List.forall_mem_cons.mp hfs
    rw [handOut, handOutField_unshared hf, payloadOf]
    cases hv : f.value? s.view with
    | none =>
      obtain ⟨hlists, hvalues⟩ := ih hfs s
      refine ⟨hlists, ?_⟩
      rw [List.filterMap_cons_none (by rw [hv]; rfl)]
      exact hvalues
    | some v =>
      obtain ⟨hlists, hvalues⟩ := ih hfs (s.share v).2
      refine ⟨(prefix_share s v).trans hlists, ?_⟩
      rw [List.filterMap_cons_some (by rw [hv]; rfl), ← payloadOf,
        payloadOf_unshared hfs s (s.share v).2, ← hvalues]
      exact congrArg (fun v => (name, v) :: _) (view_share s v hlists)

end ListStore

/-! ## Uses -/

/-- What is done around a command: something is appended to an object, or a payload is handed
out. -/
inductive Use where
  | append (x : Value) (object : SharedObject)
  | payload

def Use.isPayload : Use → Bool
  | append .. => false
  | payload => true

/-- The payloads that are handed out, each with the values it has at that time, and the store in the
end. -/
def ListStore.run (s : ListStore) (c : Command SharedObject) :
    List Use → List (Entries Value) × ListStore
  | [] => ([], s)
  | .append x object :: uses => (s.append x object).run c uses
  | .payload :: uses =>
    let (handed, s) := s.handOut c.fields
    let (payloads, after) := s.run c uses
    (s.values handed :: payloads, after)

/-- A command without lists of the caller goes out the same each time. -/
theorem ListStore.run_unshared {c : Command SharedObject} (hc : ∀ f ∈ c.fields, f.2.Unshared)
    (s : ListStore) (uses : List Use) :
    (s.run c uses).1 = List.replicate (uses.countP Use.isPayload) (c.payload s.view) := by
  have same (s s' : ListStore) : c.payload s.view = c.payload s'.view :=
    payloadOf_unshared hc s s'
  induction uses generalizing s with
  | nil => rfl
  | cons use uses ih =>
    cases use with
    | append x object =>
      have happend : s.run c (.append x object :: uses) = (s.append x object).run c uses := rfl
      rw [happend, ih, List.countP_cons_of_neg Bool.false_ne_true,
        same]
    | payload =>
      have hpayload : (s.run c (.payload :: uses)).1 =
          (s.handOut c.fields).2.values (s.handOut c.fields).1 ::
            ((s.handOut c.fields).2.run c uses).1 := rfl
      rw [hpayload, (handOut_unshared hc s).2, ih, List.countP_cons_of_pos rfl,
        List.replicate_succ, same (s.handOut c.fields).2 s]
      rfl

/--
A command that was built, with no list for a depth or a reference, goes out as its arguments were:
there is one object that its recipe sends for them. So has every payload that is handed out later,
whatever was appended to whichever list in the meantime.
-/
theorem Recipe.command_is_snapshot {r : Recipe SharedObject} {s : ListStore}
    {c : Command SharedObject} (h : r.build s.view = .ok c)
    (hheld : ∀ ref, Argument.held (.list ref) ∉ r.passed) :
    ∃ object, (∀ es, r.Sends s.view es ↔ es = object) ∧ ∀ uses : List Use,
      (s.run c uses).1 = List.replicate (uses.countP Use.isPayload) object ∧
        c.payload (s.run c uses).2.view = object := by
  have hc := unshared_of_build h hheld
  exact ⟨c.payload s.view, fun es => sends_iff_of_build h, fun uses =>
    ⟨ListStore.run_unshared hc s uses, ListStore.payloadOf_unshared hc _ s⟩⟩

/-- A list, two bytes, a range that goes down and a dictionary are given for filters. The list is
appended to, and so are lists of the first payload. -/
theorem Recipe.command_is_snapshot_search :
    let s : ListStore := ⟨[[.text "A"]]⟩
    let r : Recipe SharedObject := .findTransactions ⟨.list 0, .plain (.bytes [0x41, 0x42]),
      .plain (.range 5 0 (-2)), .plain (.dict [("BC", .null), ("D", .int 1)])⟩
    let object : Entries Value := [("command", .text "findTransactions"),
      ("addresses", .list [.text "A"]), ("tags", .list [.int 65, .int 66]),
      ("approvees", .list [.int 5, .int 3, .int 1]), ("bundles", .list [.text "BC", .text "D"])]
    let first : List (Text × SharedObject) := [("command", .plain (.text "findTransactions")),
      ("addresses", .list 1), ("tags", .list 2), ("approvees", .list 3), ("bundles", .list 4)]
    ∃ c, r.build s.view = .ok c ∧ (s.handOut c.fields).1 = first ∧
      let uses : List Use := [.payload, .append (.text "X") (.list 0), .append .null (.list 1),
        .append (.int 5) (.list 3), .payload]
      let (payloads, after) := s.run c uses
      payloads = [object, object] ∧ c.payload after.view = object ∧
        after.view (.list 0) = .list [.text "A", .text "X"] ∧
        after.values first = ([("command", .text "findTransactions"),
          ("addresses", .list [.text "A", .null]), ("tags", .list [.int 65, .int 66]),
          ("approvees", .list [.int 5, .int 3, .int 1, .int 5]),
          ("bundles", .list [.text "BC", .text "D"])] : Entries Value) := by
  intro s r object first
  have hsends : r.Sends s.view object := by
    refine ⟨_, .cons (.elements (.list _)) (.cons (.elements (.bytes ?_))
      (.cons (.elements ?_) (.cons (.elements (.dict ?_)) .nil))), rfl⟩
    · exact .cons rfl (.cons rfl .nil)
    · exact .rangeNext (by decide) (.rangeNext (by decide) (.rangeNext (by decide)
        (.rangeEnd (by decide))))
    · exact .cons rfl (.cons rfl .nil)
  have hheld : ∀ ref, Argument.held (.list ref) ∉ r.passed := by
    intro ref
    simp [r, passed]
  refine ⟨_, rfl, rfl, ?_⟩
  obtain ⟨snapshot, hobject, huses⟩ := command_is_snapshot (r := r) (s := s) rfl hheld
  obtain rfl := (hobject object).mp hsends
  obtain ⟨hpayloads, hafter⟩ := huses [.payload, .append (.text "X") (.list 0),
    .append .null (.list 1), .append (.int 5) (.list 3), .payload]
  exact ⟨hpayloads, hafter, rfl, rfl⟩

/-- A list given for a reference goes out itself and shows what is appended to it. -/
example :
    let s : ListStore := ⟨[[.int 1]]⟩
    let r : Recipe SharedObject := .getTransactionsToApprove (.plain (.int 3)) (.list 0)
    let object (items : List Value) : Entries Value :=
      [("command", .text "getTransactionsToApprove"), ("depth", .int 3), ("reference", .list items)]
    ∃ c, r.build s.view = .ok c ∧
      (s.run c [.payload, .append (.int 2) (.list 0), .payload]).1 =
        [object [.int 1], object [.int 1, .int 2]] :=
  ⟨_, rfl, rfl⟩

end TangleGateway
