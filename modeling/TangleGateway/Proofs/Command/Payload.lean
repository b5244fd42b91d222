import TangleGateway.Gateway.Operation
import TangleGateway.Proofs.Json.Bytes
import TangleGateway.Proofs.Trytes.Identifier

/-! # Payloads of commands

A payload is made of the arguments of a command, of their elements and of words of the program's
own. So it can be written, does not nest deep and can be encoded if this is so for the arguments.
-/

namespace TangleGateway

open Json (Encodable Shallow)

/--
A property of values that nest at most so deep, which is kept when values are put into sequences and
objects and when the elements of a value are taken out.
-/
structure Inherited (P : Nat → Value → Prop) : Prop where
  mono {n : Nat} {v : Value} : P n v → P (n + 1) v
  null {n : Nat} : P n .null
  text {n : Nat} {t : Text} : t.IsScalar → P n (.text t)
  list {n : Nat} {vs : List Value} : (∀ v ∈ vs, P n v) → P (n + 1) (.list vs)
  tuple {n : Nat} {vs : List Value} : (∀ v ∈ vs, P n v) → P (n + 1) (.tuple vs)
  list_of_tuple {n : Nat} {vs : List Value} : P n (.tuple vs) → P n (.list vs)
  dict {n : Nat} {es : Entries Value} :
    (∀ e ∈ es, e.1.IsScalar ∧ P n e.2) → P (n + 1) (.dict es)
  elements {n : Nat} {v : Value} : P (n + 1) v →
    ∀ {vs : List Value}, v.elements? = some vs → ∀ x ∈ vs, P n x

/-! ## Values that can be written -/

namespace Json

def Writable (v : Value) : Prop := ∃ t, write v = .ok t

theorem writable_text (t : Text) : Writable (.text t) := ⟨_, rfl⟩

theorem writable_int {i : Int} (h : Integer.Writable i) : Writable (.int i) :=
  ⟨_, by rw [write, writeInteger_of_writable h]⟩

theorem exists_writeItems_iff {vs : List Value} :
    (∃ ts, writeItems vs = .ok ts) ↔ ∀ v ∈ vs, Writable v := by
  induction vs with
  | nil => exact ⟨fun _ => nofun, fun _ => ⟨[], rfl⟩⟩
  | cons v vs ih =>
    rw [List.forall_mem_cons, ← ih]
    constructor
    · rintro ⟨ts, h⟩
      obtain ⟨t, ht, h⟩ := Except.bind_eq_ok_iff.mp h
      obtain ⟨ts, hts, -⟩ := Except.bind_eq_ok_iff.mp h
      exact ⟨⟨t, ht⟩, ts, hts⟩
    · rintro ⟨⟨t, ht⟩, ts, hts⟩
      exact ⟨t :: ts, by rw [writeItems, ht, hts]; rfl⟩

theorem writable_list_iff {vs : List Value} : Writable (.list vs) ↔ ∀ v ∈ vs, Writable v := by
  rw [← exists_writeItems_iff]
  constructor
  · rintro ⟨t, h⟩
    obtain ⟨ts, hts, -⟩ := Except.bind_eq_ok_iff.mp h
    exact ⟨ts, hts⟩
  · rintro ⟨ts, hts⟩
    exact ⟨_, by rw [write, hts]; rfl⟩

theorem writable_tuple_iff {vs : List Value} : Writable (.tuple vs) ↔ ∀ v ∈ vs, Writable v :=
  writable_list_iff

theorem writable_dict {es : Entries Value} (h : ∀ e ∈ es, Writable e.2) : Writable (.dict es) := by
  have members : ∃ ts, writeMembers es = .ok ts := by
    induction es with
    | nil => exact ⟨[], rfl⟩
    | cons e es ih =>
      obtain ⟨⟨t, ht⟩, hes⟩ := List.forall_mem_cons.mp h
      obtain ⟨ts, hts⟩ := ih hes
      exact ⟨_, by rw [writeMembers, ht, hts]; rfl⟩
  obtain ⟨ts, hts⟩ := members
  exact ⟨_, by rw [write, hts]; rfl⟩

theorem keyName_of_writeKeyed {es : List (Value × Value)} {ts : List Text}
    (h : writeKeyed es = .ok ts) : ∀ e ∈ es, ∃ name, keyName e.1 = .ok name := by
  induction es generalizing ts with
  | nil => exact nofun
  | cons e es ih =>
    obtain ⟨name, hname, h⟩ := Except.bind_eq_ok_iff.mp h
    obtain ⟨t, -, h⟩ := Except.bind_eq_ok_iff.mp h
    obtain ⟨ts, hts, -⟩ := Except.bind_eq_ok_iff.mp h
    exact List.forall_mem_cons.mpr ⟨⟨name, hname⟩, ih hts⟩

theorem writable_of_keyName {v : Value} {name : Text} (h : keyName v = .ok name) :
    Writable v := by
  cases v with
  | bool b => cases b <;> exact ⟨_, rfl⟩
  | int i => exact ⟨name, by rw [write]; exact h⟩
  | float x => exact ⟨name, by rw [write]; exact h⟩
  | null => exact ⟨_, rfl⟩
  | text t => exact writable_text t
  | _ => cases h

theorem writable_elements {v : Value} (h : Writable v) {vs : List Value}
    (hvs : v.elements? = some vs) : ∀ x ∈ vs, Writable x := by
  cases v with
  | null | bool | int | float => cases hvs
  | bytes | byteArray | set | range =>
    obtain ⟨t, h⟩ := h
    cases h
  | list => exact Option.some.inj hvs ▸ writable_list_iff.mp h
  | tuple => exact Option.some.inj hvs ▸ writable_tuple_iff.mp h
  | text t =>
    obtain rfl := Option.some.inj hvs
    exact List.forall_mem_map.mpr fun c _ => writable_text [c]
  | dict es =>
    obtain rfl := Option.some.inj hvs
    exact List.forall_mem_map.mpr fun e _ => writable_text e.1
  | keyed es =>
    obtain rfl := Option.some.inj hvs
    obtain ⟨t, h⟩ := h
    rw [write] at h
    obtain ⟨ts, hts, -⟩ := Except.bind_eq_ok_iff.mp h
    refine List.forall_mem_map.mpr fun e he => ?_
    obtain ⟨name, hname⟩ := keyName_of_writeKeyed hts e he
    exact writable_of_keyName hname

theorem inherited_writable : Inherited fun _ => Writable where
  mono h := h
  null := ⟨_, rfl⟩
  text _ := writable_text _
  list := writable_list_iff.mpr
  tuple := writable_tuple_iff.mpr
  list_of_tuple h := h
  dict h := writable_dict fun e he => (h e he).2
  elements := writable_elements

/-! ## Shallow and encodable values -/

theorem Shallow.mono {n : Nat} {v : Value} (h : Shallow n v) : Shallow (n + 1) v := by
  induction h with
  | null => exact .null
  | bool b => exact .bool b
  | int i => exact .int i
  | text t => exact .text t
  | list _ ih => exact .list ih
  | tuple _ ih => exact .tuple ih
  | dict _ ih => exact .dict ih

theorem Shallow.elements {n : Nat} {v : Value} (h : Shallow (n + 1) v) {vs : List Value}
    (hvs : v.elements? = some vs) : ∀ x ∈ vs, Shallow n x := by
  cases h with
  | null | bool | int => cases hvs
  | text t =>
    obtain rfl := Option.some.inj hvs
    exact List.forall_mem_map.mpr fun c _ => .text [c]
  | list h | tuple h => exact Option.some.inj hvs ▸ h
  | dict _ =>
    obtain rfl := Option.some.inj hvs
    exact List.forall_mem_map.mpr fun e _ => .text e.1

theorem inherited_shallow : Inherited Shallow where
  mono := .mono
  null := .null
  text _ := .text _
  list := .list
  tuple := .tuple
  list_of_tuple | .tuple h => .list h
  dict h := .dict fun e he => (h e he).2
  elements := .elements

theorem Encodable.elements {v : Value} (h : Encodable v) {vs : List Value}
    (hvs : v.elements? = some vs) : ∀ x ∈ vs, Encodable x := by
  cases h with
  | null | bool | int => cases hvs
  | text ht =>
    obtain rfl := Option.some.inj hvs
    refine List.forall_mem_map.mpr fun c hc => .text (Text.isScalar_iff.mpr ?_)
    exact List.forall_mem_singleton.mpr (Text.isScalar_iff.mp ht c hc)
  | list h | tuple h => exact Option.some.inj hvs ▸ h
  | dict hn _ =>
    obtain rfl := Option.some.inj hvs
    exact List.forall_mem_map.mpr fun e he => .text (hn e he)

theorem inherited_encodable : Inherited fun _ => Encodable where
  mono h := h
  null := .null
  text := .text
  list := .list
  tuple := .tuple
  list_of_tuple | .tuple h => .list h
  dict h := .dict (fun e he => (h e he).1) fun e he => (h e he).2
  elements := .elements

end Json

namespace Inherited

variable {P : Nat → Value → Prop} (hP : Inherited P)

include hP

/-! ## Fields -/

theorem value_word {w : Text} (hw : w.IsScalar) :
    ∀ x ∈ (Field.word w : Field Value).value? id, P 2 x := by
  rintro x ⟨⟩
  exact hP.text hw

theorem value_held {v : Value} (hv : P 2 v) : ∀ x ∈ (Field.held v).value? id, P 2 x := by
  intro x hx
  cases v with
  | null => cases hx
  | tuple vs =>
    obtain rfl := Option.some.inj hx
    exact hP.list_of_tuple hv
  | _ =>
    obtain rfl := Option.some.inj hx
    exact hv

theorem value_sequenceOf {v : Value} (hv : P 2 v) {f : Field Value}
    (h : Recipe.sequenceOf id v = .ok f) : ∀ x ∈ f.value? id, P 2 x := by
  unfold Recipe.sequenceOf at h
  split at h
  · rename_i vs hvs
    cases h
    rintro x ⟨⟩
    exact hP.list (hP.elements hv hvs)
  · cases h

theorem value_filterOf {v : Value} (hv : P 2 v) {f : Field Value}
    (h : Recipe.filterOf id v = .ok f) : ∀ x ∈ f.value? id, P 2 x := by
  unfold Recipe.filterOf at h
  split at h
  · cases h
    exact nofun
  · exact hP.value_sequenceOf hv h

theorem payload_of_fields {c : ValueCommand} (h : ∀ f ∈ c.fields, ∀ x ∈ f.2.value? id, P 2 x) :
    P 3 (.dict (c.payload id)) := by
  have hnames : ∀ f ∈ c.fields, f.1.IsScalar := by
    cases c <;> simp [Command.fields]
  refine hP.dict fun e he => ?_
  obtain ⟨f, hf, hfe⟩ := List.mem_filterMap.mp he
  obtain ⟨v, hv, rfl⟩ := Option.map_eq_some_iff.mp hfe
  exact ⟨hnames f hf, h f hf v hv⟩

end Inherited

/-! ## Recipes -/

def Recipe.arguments {ρ : Type} : Recipe ρ → List ρ
  | nodeInfo | getNeighbors | getTips => []
  | addNeighbors uris | removeNeighbors uris => [uris]
  | findTransactions f => [f.addresses, f.tags, f.approvees, f.bundles]
  | getInclusionStates transactions tips => [transactions, tips]
  | getTrytes hashes => [hashes]
  | getTransactionsToApprove depth reference => [depth, reference]

theorem Inherited.fields_of_recipe {P : Nat → Value → Prop} (hP : Inherited P)
    {r : Recipe Value} {c : ValueCommand} (h : r.ofValues = .ok c)
    (ha : ∀ v ∈ r.arguments, P 2 v) : ∀ f ∈ c.fields, ∀ x ∈ f.2.value? id, P 2 x := by
  cases r with
  | nodeInfo | getNeighbors | getTips =>
    cases h
    exact List.forall_mem_singleton.mpr (hP.value_word (Text.isScalar_ofString _))
  | addNeighbors vs | removeNeighbors vs | getTrytes vs =>
    obtain ⟨f, hf, h⟩ := Except.bind_eq_ok_iff.mp h
    cases h
    refine List.forall_mem_cons.mpr
      ⟨hP.value_word (Text.isScalar_ofString _), List.forall_mem_singleton.mpr ?_⟩
    exact hP.value_sequenceOf (ha _ List.mem_cons_self) hf
  | findTransactions f =>
    simp only [Recipe.arguments, List.forall_mem_cons] at ha
    obtain ⟨ha₁, ha₂, ha₃, ha₄, -⟩ := ha
    obtain ⟨f₁, h₁, h⟩ := Except.bind_eq_ok_iff.mp h
    obtain ⟨f₂, h₂, h⟩ := Except.bind_eq_ok_iff.mp h
    obtain ⟨f₃, h₃, h⟩ := Except.bind_eq_ok_iff.mp h
    obtain ⟨f₄, h₄, h⟩ := Except.bind_eq_ok_iff.mp h
    cases h
    simp only [Command.fields, List.forall_mem_cons]
    exact ⟨hP.value_word (Text.isScalar_ofString _), hP.value_filterOf ha₁ h₁,
      hP.value_filterOf ha₂ h₂, hP.value_filterOf ha₃ h₃, hP.value_filterOf ha₄ h₄, nofun⟩
  | getInclusionStates transactions tips =>
    simp only [Recipe.arguments, List.forall_mem_cons] at ha
    obtain ⟨ha₁, ha₂, -⟩ := ha
    obtain ⟨f₁, h₁, h⟩ := Except.bind_eq_ok_iff.mp h
    obtain ⟨f₂, h₂, h⟩ := Except.bind_eq_ok_iff.mp h
    cases h
    simp only [Command.fields, List.forall_mem_cons]
    exact ⟨hP.value_word (Text.isScalar_ofString _), hP.value_sequenceOf ha₁ h₁,
      hP.value_sequenceOf ha₂ h₂, nofun⟩
  | getTransactionsToApprove depth reference =>
    simp only [Recipe.arguments, List.forall_mem_cons] at ha
    obtain ⟨hd, hr, -⟩ := ha
    cases h
    simp only [Command.fields, List.forall_mem_cons]
    exact ⟨hP.value_word (Text.isScalar_ofString _), hP.value_held hd, hP.value_held hr,
      nofun⟩

/-! ## Operations -/

namespace Operation

def arguments : Operation → List Value
  | getNodeInfo | getNeighbors | getTips => []
  | addNeighbors vs | removeNeighbors vs | findTransactionsByAddresses vs
  | findTransactionsByBundles vs | findTransactionsByApprovees vs | findTransactionsByDigests vs
  | getTrytes vs => vs
  | findTransactions f => [f.addresses, f.tags, f.approvees, f.bundles]
  | getInclusionStates transactions tips => [transactions, tips]
  | getTransactionsToApprove depth reference => [depth, reference]

/-- An address that is stripped is a text of trytes. -/
theorem isScalar_stripAddress {v stripped : Value} (h : stripAddress v = .ok stripped) :
    ∃ t : Text, t.IsScalar ∧ stripped = .text t := by
  by_cases hid : Trytes.IsIdentifier v
  · obtain ⟨t, rfl, -, ht⟩ := id hid
    rw [stripAddress, Trytes.removeChecksum?_of_isIdentifier hid] at h
    cases h
    refine ⟨t.take 81, Text.isScalar_iff.mpr fun c hc => ?_, rfl⟩
    obtain ⟨ch, rfl, -⟩ := ht c (List.mem_of_mem_take hc)
    exact ⟨ch, rfl⟩
  · rw [stripAddress, Trytes.removeChecksum?_eq_none hid] at h
    cases h

variable {P : Nat → Value → Prop} {op : Operation}

theorem inherited_recipe (hP : Inherited P) {r : Recipe Value} (h : op.recipe = .ok r)
    (ha : ∀ v ∈ op.arguments, P 1 v) : ∀ v ∈ r.arguments, P 2 v := by
  cases op with
  | getNodeInfo | getNeighbors | getTips =>
    cases h
    exact nofun
  | addNeighbors vs | removeNeighbors vs =>
    cases h
    exact List.forall_mem_singleton.mpr (hP.tuple ha)
  | findTransactions | getTransactionsToApprove =>
    cases h
    exact fun v hv => hP.mono (ha v hv)
  | findTransactionsByBundles vs | findTransactionsByApprovees vs | findTransactionsByDigests vs =>
    cases h
    have hvs : P 2 (.tuple vs) := hP.tuple ha
    simp [Recipe.arguments, noFilters, hP.null, hvs]
  | findTransactionsByAddresses addresses =>
    obtain ⟨stripped, hs, h⟩ := Except.bind_eq_ok_iff.mp h
    cases h
    have hvs : P 2 (.list stripped) := by
      refine hP.list fun v hv => ?_
      obtain ⟨a, -, ha⟩ := Except.exists_of_mem_mapM hs hv
      obtain ⟨t, ht, rfl⟩ := isScalar_stripAddress ha
      exact hP.text ht
    simp [Recipe.arguments, noFilters, hP.null, hvs]
  | getInclusionStates transactions tips =>
    obtain ⟨-, -, h⟩ := Except.bind_eq_ok_iff.mp h
    obtain ⟨-, -, h⟩ := Except.bind_eq_ok_iff.mp h
    cases h
    exact fun v hv => hP.mono (ha v hv)
  | getTrytes hashes =>
    obtain ⟨-, -, h⟩ := Except.bind_eq_ok_iff.mp h
    cases h
    exact List.forall_mem_singleton.mpr (hP.tuple ha)

/-- What holds of the arguments of an operation holds of its payload. -/
theorem inherited_payload (hP : Inherited P) {c : ValueCommand} (h : op.command = .ok c)
    (ha : ∀ v ∈ op.arguments, P 1 v) : P 3 (.dict (c.payload id)) := by
  obtain ⟨r, hr, hc⟩ := Except.bind_eq_ok_iff.mp h
  exact hP.payload_of_fields (hP.fields_of_recipe hc (inherited_recipe hP hr ha))

end Operation

end TangleGateway
