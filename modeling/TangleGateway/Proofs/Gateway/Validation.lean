import TangleGateway.Http.Client
import TangleGateway.Proofs.Gateway.Reachable
import TangleGateway.Proofs.Trytes.Identifier

/-! # Validation before dispatch

The three operations that take identifiers fail before anything is logged, sent or changed
exactly when some identifier is malformed. Otherwise the identifiers go out in the order of the
arguments, addresses without their checksums.
-/

namespace TangleGateway

open Trytes

namespace Operation

theorem stripAddress_of_isIdentifier {t : Text} (h : IsIdentifier (.text t)) :
    stripAddress (.text t) = .ok (.text (t.take 81)) := by
  rw [stripAddress, removeChecksum?_of_isIdentifier h]

theorem stripAddress_eq_error {v : Value} (h : ¬ IsIdentifier v) :
    stripAddress v = .error Fault.invalidAddresses := by
  rw [stripAddress, removeChecksum?_eq_none h]

theorem requireHashes_eq_ok {v : Value} (h : IsIdentifierSequence v) :
    requireHashes v = .ok () := by
  rw [requireHashes, if_pos (isHashSequence_iff.mpr h)]

theorem requireHashes_eq_error {v : Value} (h : ¬ IsIdentifierSequence v) :
    requireHashes v = .error Fault.invalidHashes := by
  rw [requireHashes, if_neg (fun hh => h (isHashSequence_iff.mp hh))]

theorem sequenceOf_eq_ok {v : Value} {items : List Value} (h : v.sequence? = some items) :
    Recipe.sequenceOf id v = .ok (.sequence items) := by
  cases v with
  | list | tuple | range | byteArray =>
    cases h
    rfl
  | _ => cases h

theorem exists_sequenceOf {v : Value} (h : requireHashes v = .ok ()) :
    ∃ f, Recipe.sequenceOf id v = .ok f := by
  by_cases hs : Trytes.IsIdentifierSequence v
  · obtain ⟨vs, hvs, -⟩ := hs
    exact ⟨_, sequenceOf_eq_ok hvs⟩
  · rw [requireHashes_eq_error hs] at h
    cases h

theorem getInclusionStates_command {transactions tips : Value} {xs ys : List Value}
    (hx : transactions.sequence? = some xs) (hy : tips.sequence? = some ys)
    (hxs : ∀ x ∈ xs, IsIdentifier x) (hys : ∀ y ∈ ys, IsIdentifier y) :
    (getInclusionStates transactions tips).command =
      .ok (.inclusionStates (.word "getInclusionStates") (.sequence xs) (.sequence ys)) := by
  simp only [command, recipe, requireHashes_eq_ok ⟨xs, hx, hxs⟩, requireHashes_eq_ok ⟨ys, hy, hys⟩,
    Except.ok_bind_eq]
  change Recipe.build id (.getInclusionStates transactions tips) = _
  simp only [Recipe.build, sequenceOf_eq_ok hx, sequenceOf_eq_ok hy, Except.ok_bind_eq]
  rfl

theorem getInclusionStates_command_eq_error {transactions tips : Value}
    (h : ¬ (IsIdentifierSequence transactions ∧ IsIdentifierSequence tips)) :
    (getInclusionStates transactions tips).command = .error Fault.invalidHashes := by
  by_cases hx : IsIdentifierSequence transactions
  · have hy : ¬ IsIdentifierSequence tips := fun hy => h ⟨hx, hy⟩
    simp only [command, recipe, requireHashes_eq_ok hx, requireHashes_eq_error hy,
      Except.ok_bind_eq, Except.error_bind_eq]
  · simp only [command, recipe, requireHashes_eq_error hx, Except.error_bind_eq]

theorem getTrytes_command {hashes : List Value} (h : ∀ x ∈ hashes, IsIdentifier x) :
    (getTrytes hashes).command = .ok (.trytes (.word "getTrytes") (.sequence hashes)) := by
  simp only [command, recipe, requireHashes_eq_ok (isIdentifierSequence_tuple.mpr h),
    Except.ok_bind_eq]
  rfl

theorem getTrytes_command_eq_error {hashes : List Value} (h : ∃ x ∈ hashes, ¬ IsIdentifier x) :
    (getTrytes hashes).command = .error Fault.invalidHashes := by
  obtain ⟨x, hx, hn⟩ := h
  have hs : ¬ IsIdentifierSequence (.tuple hashes) :=
    fun hs => hn (isIdentifierSequence_tuple.mp hs x hx)
  simp only [command, recipe, requireHashes_eq_error hs, Except.error_bind_eq]

theorem findTransactionsByAddresses_command {texts : List Text}
    (h : ∀ t ∈ texts, IsIdentifier (.text t)) :
    (findTransactionsByAddresses (texts.map .text)).command =
      .ok (.findTransactions (.word "findTransactions")
        ⟨.sequence (texts.map fun t => .text (t.take 81)), .absent, .absent, .absent⟩) := by
  have hm : (texts.map Value.text).mapM stripAddress =
      .ok (texts.map fun t => .text (t.take 81)) := by
    rw [List.mapM_map]
    exact Except.mapM_eq_ok fun t ht => stripAddress_of_isIdentifier (h t ht)
  simp only [command, recipe, hm, Except.ok_bind_eq]
  rfl

theorem findTransactionsByAddresses_command_eq_error {addresses : List Value}
    (h : ∃ a ∈ addresses, ¬ IsIdentifier a) :
    (findTransactionsByAddresses addresses).command = .error Fault.invalidAddresses := by
  obtain ⟨a, ha, hn⟩ := h
  have hm : addresses.mapM stripAddress = .error Fault.invalidAddresses := by
    refine Except.mapM_eq_error (fun b _ => ?_) ⟨a, ha, stripAddress_eq_error hn⟩
    by_cases hb : IsIdentifier b
    · obtain ⟨t, rfl, ht⟩ := hb
      exact .inr ⟨_, stripAddress_of_isIdentifier ⟨t, rfl, ht⟩⟩
    · exact .inl (stripAddress_eq_error hb)
  simp only [command, recipe, hm, Except.error_bind_eq]

theorem cls_of_requireHashes {v : Value} {f : Fault} (h : requireHashes v = .error f) :
    f.cls = .standard .validation := by
  unfold requireHashes at h
  split at h
  · cases h
  · cases h
    rfl

theorem cls_of_stripAddress {v : Value} {f : Fault} (h : stripAddress v = .error f) :
    f.cls = .standard .validation := by
  unfold stripAddress at h
  split at h
  · cases h
  · cases h
    rfl

/-- A recipe is refused for a malformed identifier and for nothing else. -/
theorem cls_of_recipe {op : Operation} {f : Fault} (h : op.recipe = .error f) :
    f.cls = .standard .validation := by
  cases op with
  | findTransactionsByAddresses addresses =>
    rcases Except.bind_eq_error_iff.mp h with h | ⟨_, -, h⟩
    · obtain ⟨a, -, ha⟩ := Except.exists_of_mapM_eq_error h
      exact cls_of_stripAddress ha
    · cases h
  | getInclusionStates transactions tips =>
    rcases Except.bind_eq_error_iff.mp h with h | ⟨_, -, h⟩
    · exact cls_of_requireHashes h
    · rcases Except.bind_eq_error_iff.mp h with h | ⟨_, -, h⟩
      · exact cls_of_requireHashes h
      · cases h
  | getTrytes hashes =>
    rcases Except.bind_eq_error_iff.mp h with h | ⟨_, -, h⟩
    · exact cls_of_requireHashes h
    · cases h
  | _ => cases h

end Operation

namespace Gateway

variable {http : HttpLibrary} {g : Gateway http} {op : Operation} {c : ValueCommand}

/-- An operation hands the transport one request with a payload, and logs it first. -/
def Dispatches (g : Gateway http) (op : Operation) (payload : Entries Value) : Prop :=
  ∃ url, g.config.baseUrl = .ok url ∧ ∀ nesting, ∃ word : Text,
    (g.perform nesting op).logs.head? = some (.dispatching word url) ∧
    let sending := g.transport.send
      ⟨url, .dict payload, [("X-CVT-API-Version", g.config.apiVersion)]⟩
    (g.perform nesting op).requests = sending.sent ∧
      (g.perform nesting op).gateway = { g with transport := sending.transport }

/-- An operation fails on a malformed identifier, and that is all that happens. -/
def Rejects (g : Gateway http) (op : Operation) (detail : String) : Prop :=
  ∀ nesting,
    g.perform nesting op = ⟨.error (.call (some .validation) (.text detail) .null none), [], [], g⟩

theorem rejects_command_error {detail : String} (g : Gateway http)
    (h : op.command = .error (.validation detail)) : g.Rejects op detail := by
  intro nesting
  rw [perform, h]
  rfl

theorem dispatches_command (hg : g.Reachable) (h : op.command = .ok c) :
    g.Dispatches op (c.payload id) := by
  obtain ⟨url, hu⟩ := hg.baseUrl
  obtain ⟨word, hw⟩ := Operation.label_of_command h
  have he : g.execute c = g.dispatch url c := execute_eq_dispatch hu
  rw [dispatch_eq, hw] at he
  refine ⟨url, hu, fun nesting => ⟨word, ?_, ?_, ?_⟩⟩
  · simp [perform, h, call, Trace.andThen_logs, he]
  · simp [perform, h, call, he, Config.requestOf]
  · simp [perform, h, call, he, Config.requestOf]

theorem Dispatches.not_rejects {payload : Entries Value} (h : g.Dispatches op payload)
    (detail : String) : ¬ g.Rejects op detail := by
  obtain ⟨url, -, h⟩ := h
  obtain ⟨word, hl, -⟩ := h 0
  intro hs
  rw [hs] at hl
  cases hl

theorem rejects_iff {detail : String} {malformed : Prop}
    (hr : malformed → g.Rejects op detail)
    (hd : ¬ malformed → ∃ payload, g.Dispatches op payload) :
    g.Rejects op detail ↔ malformed := by
  constructor
  · intro h
    by_cases hm : malformed
    · exact hm
    · obtain ⟨payload, hp⟩ := hd hm
      exact absurd h (hp.not_rejects detail)
  · exact hr

theorem dispatches_getInclusionStates (hg : g.Reachable) {transactions tips : Value}
    (hx : IsIdentifierSequence transactions) (hy : IsIdentifierSequence tips) :
    ∃ xs ys, transactions.sequence? = some xs ∧ tips.sequence? = some ys ∧
      g.Dispatches (.getInclusionStates transactions tips)
        [("command", .text "getInclusionStates"), ("transactions", .list xs),
          ("tips", .list ys)] := by
  obtain ⟨xs, hx, hxs⟩ := hx
  obtain ⟨ys, hy, hys⟩ := hy
  exact ⟨xs, ys, hx, hy,
    dispatches_command hg (Operation.getInclusionStates_command hx hy hxs hys)⟩

theorem dispatches_getTrytes (hg : g.Reachable) {hashes : List Value}
    (h : ∀ x ∈ hashes, IsIdentifier x) :
    g.Dispatches (.getTrytes hashes) [("command", .text "getTrytes"), ("hashes", .list hashes)] :=
  dispatches_command hg (Operation.getTrytes_command h)

theorem exists_texts {addresses : List Value} (h : ∀ a ∈ addresses, IsIdentifier a) :
    ∃ texts : List Text, addresses = texts.map .text := by
  induction addresses with
  | nil => exact ⟨[], rfl⟩
  | cons a addresses ih =>
    obtain ⟨t, rfl, -⟩ := h a List.mem_cons_self
    obtain ⟨texts, rfl⟩ := ih fun b hb => h b (List.mem_cons_of_mem _ hb)
    exact ⟨t :: texts, rfl⟩

theorem dispatches_findTransactionsByAddresses (hg : g.Reachable) {addresses : List Value}
    (h : ∀ a ∈ addresses, IsIdentifier a) :
    ∃ texts : List Text, addresses = texts.map .text ∧
      g.Dispatches (.findTransactionsByAddresses addresses)
        [("command", .text "findTransactions"),
          ("addresses", .list (texts.map fun t => .text (t.take 81)))] := by
  obtain ⟨texts, rfl⟩ := exists_texts h
  exact ⟨texts, rfl, dispatches_command hg (Operation.findTransactionsByAddresses_command
    fun t ht => h _ (List.mem_map_of_mem ht))⟩

/--
A malformed identifier, wherever it stands, is found before anything is dispatched. Without one
the command goes to the transport with the identifiers in the order of the arguments.
-/
theorem validation_precedes_dispatch (hg : g.Reachable) :
    (∀ v, IsIdentifierSequence v ↔
      (∃ items, (v = .list items ∨ v = .tuple items) ∧ ∀ x ∈ items, IsIdentifier x) ∨
      (∃ start stop step, Value.rangeLength start stop step = 0 ∧ v = .range start stop step) ∨
      v = .byteArray []) ∧
    (∀ transactions tips,
      (g.Rejects (.getInclusionStates transactions tips) "Invalid hashes provided." ↔
        ¬ IsIdentifierSequence transactions ∨ ¬ IsIdentifierSequence tips) ∧
      (IsIdentifierSequence transactions → IsIdentifierSequence tips →
        ∃ xs ys, transactions.sequence? = some xs ∧ tips.sequence? = some ys ∧
          g.Dispatches (.getInclusionStates transactions tips)
            [("command", .text "getInclusionStates"), ("transactions", .list xs),
              ("tips", .list ys)])) ∧
    (∀ hashes,
      (g.Rejects (.getTrytes hashes) "Invalid hashes provided." ↔
        ∃ x ∈ hashes, ¬ IsIdentifier x) ∧
      ((∀ x ∈ hashes, IsIdentifier x) →
        g.Dispatches (.getTrytes hashes)
          [("command", .text "getTrytes"), ("hashes", .list hashes)])) ∧
    (∀ addresses,
      (g.Rejects (.findTransactionsByAddresses addresses) "Invalid addresses provided." ↔
        ∃ a ∈ addresses, ¬ IsIdentifier a) ∧
      ((∀ a ∈ addresses, IsIdentifier a) →
        ∃ texts : List Text, addresses = texts.map .text ∧
          g.Dispatches (.findTransactionsByAddresses addresses)
            [("command", .text "findTransactions"),
              ("addresses", .list (texts.map fun t => .text (t.take 81)))])) := by
  refine ⟨fun v => isIdentifierSequence_iff,
    fun transactions tips => ⟨rejects_iff ?_ ?_, dispatches_getInclusionStates hg⟩,
    fun hashes => ⟨rejects_iff ?_ ?_, dispatches_getTrytes hg⟩,
    fun addresses => ⟨rejects_iff ?_ ?_, dispatches_findTransactionsByAddresses hg⟩⟩
  · intro h
    exact rejects_command_error g
      (Operation.getInclusionStates_command_eq_error (Classical.not_and_iff_not_or_not.mpr h))
  · intro h
    obtain ⟨hx, hy⟩ := not_or.mp h
    obtain ⟨xs, ys, -, -, hd⟩ := dispatches_getInclusionStates hg
      (Classical.not_not.mp hx) (Classical.not_not.mp hy)
    exact ⟨_, hd⟩
  · intro h
    exact rejects_command_error g (Operation.getTrytes_command_eq_error h)
  · intro h
    exact ⟨_, dispatches_getTrytes hg (by simpa using h)⟩
  · intro h
    exact rejects_command_error g (Operation.findTransactionsByAddresses_command_eq_error h)
  · intro h
    obtain ⟨texts, -, hd⟩ := dispatches_findTransactionsByAddresses hg (by simpa using h)
    exact ⟨_, hd⟩

/-- Only the last of the tips is too long, and the transport is closed. -/
theorem validation_finds_last_tip :
    let g := recording HttpClient.library {} ⟨[], true⟩ false
    let hash (n : Nat) : Value := .text (List.replicate n (.scalar '9'))
    g.Rejects (.getInclusionStates (.list [hash 81]) (.tuple [hash 90, hash 91]))
        "Invalid hashes provided." ∧
      g.Dispatches (.getTrytes [hash 81, hash 90])
        [("command", .text "getTrytes"), ("hashes", .list [hash 81, hash 90])] := by
  intro g hash
  have built : (withTransport {} (.recorder ⟨[], true⟩) false).result = .ok g := rfl
  have hg : g.Reachable := .withTransport built
  have identifier : ∀ n, n = 81 ∨ n = 90 → IsIdentifier (hash n) := by
    intro n hn
    refine ⟨_, rfl, by simpa using hn, fun c hc => ?_⟩
    obtain rfl := List.eq_of_mem_replicate hc
    exact ⟨'9', rfl, .inl rfl⟩
  obtain ⟨-, inclusion, trytes, -⟩ := validation_precedes_dispatch hg
  constructor
  · refine (inclusion _ _).1.mpr (.inr fun h => ?_)
    obtain ⟨t, ht, hl, -⟩ := isIdentifierSequence_tuple.mp h (hash 91) (by simp)
    cases ht
    simp at hl
  · refine (trytes _).2 fun x hx => ?_
    simp only [List.mem_cons, List.not_mem_nil, or_false] at hx
    rcases hx with rfl | rfl
    · exact identifier 81 (.inl rfl)
    · exact identifier 90 (.inr rfl)

end Gateway

end TangleGateway
