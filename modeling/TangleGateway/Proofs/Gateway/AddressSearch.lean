import TangleGateway.Proofs.Gateway.Identifiers

/-! # Searching by address

An address may be given with its checksum. A search by addresses is the search for these addresses
without their checksums: which of them were given with one, and with which, does not show. What the
checksums are stripped from are exactly the identifiers, and stripping leaves 81 trytes of them.
-/

namespace TangleGateway

namespace Trytes

variable {v : Value} {t : Text}

/-- An address of 81 trytes, and what follows it: nothing, or a checksum of nine trytes. -/
structure SuffixedAddress where
  address : Text
  suffix : Text
  length_address : address.length = 81
  length_suffix : suffix.length = 0 ∨ suffix.length = 9
  trytes : ∀ c ∈ address ++ suffix, IsTryte c

namespace SuffixedAddress

def given (a : SuffixedAddress) : Value :=
  .text (a.address ++ a.suffix)

def plain (a : SuffixedAddress) : Value :=
  .text a.address

theorem isIdentifier_given (a : SuffixedAddress) : IsIdentifier a.given := by
  refine ⟨_, rfl, ?_, a.trytes⟩
  have hs := a.length_suffix
  rw [List.length_append, a.length_address]
  omega

theorem take_given (a : SuffixedAddress) : (a.address ++ a.suffix).take 81 = a.address :=
  List.take_left' a.length_address

end SuffixedAddress

theorem isIdentifier_iff_exists_given : IsIdentifier v ↔ ∃ a : SuffixedAddress, a.given = v := by
  constructor
  · rintro ⟨t, rfl, hl, ht⟩
    have hsplit : t.take 81 ++ t.drop 81 = t := List.take_append_drop 81 t
    refine ⟨⟨t.take 81, t.drop 81, ?_, ?_, by rwa [hsplit]⟩, congrArg Value.text hsplit⟩
    · rw [List.length_take]
      omega
    · rw [List.length_drop]
      omega
  · rintro ⟨a, rfl⟩
    exact a.isIdentifier_given

/-! ## Stripping -/

theorem isAddressWithoutChecksum_iff : isAddressWithoutChecksum v = true ↔ IsBare v := by
  unfold isAddressWithoutChecksum
  cases v with
  | text t =>
    rw [isTrytes_text_iff (by decide)]
    constructor
    · rintro ⟨hl, ht⟩
      exact ⟨t, rfl, hl, ht⟩
    · rintro ⟨_, h, hl, ht⟩
      cases h
      exact ⟨hl, ht⟩
  | _ =>
    constructor
    · intro h
      cases h
    · rintro ⟨_, h, -⟩
      cases h

theorem removeChecksum?_eq_some_iff :
    removeChecksum? v = some t ↔ IsIdentifier v ∧ bare v = .text t := by
  constructor
  · intro h
    have hv : IsIdentifier v := by
      by_contra hv
      rw [removeChecksum?_eq_none hv] at h
      cases h
    obtain ⟨u, rfl, -⟩ := id hv
    rw [removeChecksum?_of_isIdentifier hv] at h
    exact ⟨hv, congrArg Value.text (Option.some.inj h)⟩
  · rintro ⟨hv, h⟩
    obtain ⟨u, rfl, -⟩ := id hv
    rw [removeChecksum?_of_isIdentifier hv]
    exact congrArg some (Value.text.inj h)

theorem isSome_removeChecksum?_iff : (∃ t, removeChecksum? v = some t) ↔ isHash v = true := by
  rw [isHash_iff]
  constructor
  · rintro ⟨t, h⟩
    exact (removeChecksum?_eq_some_iff.mp h).1
  · intro hv
    obtain ⟨u, rfl, -⟩ := id hv
    exact ⟨_, removeChecksum?_of_isIdentifier hv⟩

theorem isBare_of_removeChecksum? (h : removeChecksum? v = some t) : IsBare (.text t) := by
  obtain ⟨hv, ht⟩ := removeChecksum?_eq_some_iff.mp h
  exact ht ▸ hv.isBare_bare

theorem IsBare.removeChecksum? (h : IsBare (.text t)) : removeChecksum? (.text t) = some t := by
  obtain ⟨_, ht, hl, -⟩ := id h
  cases ht
  refine removeChecksum?_eq_some_iff.mpr ⟨h.isIdentifier, ?_⟩
  rw [bare, List.take_of_length_le (Nat.le_of_eq hl)]

end Trytes

open Trytes

/-! ## Searching -/

namespace Operation

def searchGiven (as : List SuffixedAddress) : Operation :=
  .findTransactionsByAddresses (as.map (·.given))

/-- A search with a filter of addresses without checksums. -/
def searchPlain (as : List SuffixedAddress) : Operation :=
  .findTransactions { noFilters with addresses := .list (as.map (·.plain)) }

theorem searchPlain_command (as : List SuffixedAddress) :
    (searchPlain as).command = .ok (.findTransactions (.word "findTransactions")
      ⟨.sequence (as.map (·.plain)), .absent, .absent, .absent⟩) := rfl

theorem searchGiven_command (as : List SuffixedAddress) :
    (searchGiven as).command = (searchPlain as).command := by
  have hgiven : as.map (·.given) = (as.map fun a => a.address ++ a.suffix).map Value.text := by
    rw [List.map_map]
    rfl
  have hplain : (as.map fun a => a.address ++ a.suffix).map (fun t => Value.text (t.take 81)) =
      as.map (·.plain) := by
    rw [List.map_map]
    exact List.map_congr_left fun a _ => congrArg Value.text a.take_given
  have hidentifier : ∀ t ∈ as.map fun a => a.address ++ a.suffix, IsIdentifier (.text t) :=
    List.forall_mem_map.mpr fun a _ => a.isIdentifier_given
  rw [searchGiven, hgiven, findTransactionsByAddresses_command hidentifier, hplain,
    searchPlain_command]

end Operation

/-- The steps are the same, or two searches for the same addresses. -/
inductive Step.Alike : Step → Step → Prop where
  | same (s : Step) : Alike s s
  | search (nesting : Nat) (as : List SuffixedAddress) :
      Alike (.perform nesting (.searchGiven as)) (.perform nesting (.searchPlain as))

namespace Gateway

variable {http : HttpLibrary}

theorem perform_searchGiven (g : Gateway http) (nesting : Nat) (as : List SuffixedAddress) :
    g.perform nesting (.searchGiven as) = g.perform nesting (.searchPlain as) := by
  have hkind : (Operation.searchGiven as).replyKind = (Operation.searchPlain as).replyKind := rfl
  simp only [perform, Operation.searchGiven_command, hkind]

theorem step_alike {s s' : Step} (h : s.Alike s') (g : Gateway http) : g.step s = g.step s' := by
  cases h with
  | same s => rfl
  | search nesting as => rw [step, step, perform_searchGiven]

theorem run_alike {steps steps' : List Step} (h : List.Forall₂ Step.Alike steps steps')
    (g : Gateway http) : g.run steps = g.run steps' := by
  induction h generalizing g with
  | nil => rfl
  | cons hs _ ih => rw [run, run, step_alike hs, ih]

/--
A search by addresses, given with checksums or without them, is the search for the addresses
without them, over every transport and wherever it stands in a session: it goes out with the
addresses as they are, in order and with those that repeat, and all that follows is the same.
Checksums are stripped from identifiers and from nothing else, and only once.
-/
theorem checksums_transparent (http : HttpLibrary) :
    (∀ (g : Gateway http) (as : List SuffixedAddress),
      (∀ nesting, g.perform nesting (.findTransactionsByAddresses (as.map (·.given))) =
        g.perform nesting (.findTransactions
          { Operation.noFilters with addresses := .list (as.map (·.plain)) })) ∧
      (g.Reachable → g.Dispatches (.findTransactionsByAddresses (as.map (·.given)))
        [("command", .text "findTransactions"), ("addresses", .list (as.map (·.plain)))]) ∧
      ∀ bs : List SuffixedAddress, as.map (·.plain) = bs.map (·.plain) → ∀ nesting,
        g.perform nesting (.findTransactionsByAddresses (as.map (·.given))) =
          g.perform nesting (.findTransactionsByAddresses (bs.map (·.given)))) ∧
    (∀ (g : Gateway http) (steps steps' : List Step), List.Forall₂ Step.Alike steps steps' →
      g.run steps = g.run steps') ∧
    ∀ v : Value,
      (isHash v = true ↔ ∃ a : SuffixedAddress, a.given = v) ∧
      ((∃ t, removeChecksum? v = some t) ↔ isHash v = true) ∧
      (∀ t, removeChecksum? v = some t →
        Operation.stripAddress v = .ok (.text t) ∧ (∃ u, v = .text u ∧ t = u.take 81) ∧
        t.length = 81 ∧ isAddressWithoutChecksum (.text t) = true ∧
        removeChecksum? (.text t) = some t) ∧
      (isHash v = false → Operation.stripAddress v =
        .error (.call (some .validation) (.text "Invalid addresses provided.") .null none)) := by
  refine ⟨fun g as => ⟨fun nesting => perform_searchGiven g nesting as, fun hg => ?_,
      fun bs h nesting => ?_⟩,
    fun g steps steps' h => run_alike h g,
    fun v => ⟨?_, isSome_removeChecksum?_iff, fun t ht => ?_, fun hv => ?_⟩⟩
  · exact dispatches_command hg
      ((Operation.searchGiven_command as).trans (Operation.searchPlain_command as))
  · have hplain : Operation.searchPlain as = Operation.searchPlain bs := by
      rw [Operation.searchPlain, Operation.searchPlain, h]
    exact (perform_searchGiven g nesting as).trans
      (hplain ▸ (perform_searchGiven g nesting bs).symm)
  · rw [isHash_iff, isIdentifier_iff_exists_given]
  · have hbare := isBare_of_removeChecksum? ht
    obtain ⟨hv, hvt⟩ := removeChecksum?_eq_some_iff.mp ht
    obtain ⟨u, rfl, -⟩ := hv
    obtain ⟨_, h, hl, -⟩ := id hbare
    cases h
    refine ⟨?_, ⟨u, rfl, (Value.text.inj hvt).symm⟩, hl, isAddressWithoutChecksum_iff.mpr hbare,
      hbare.removeChecksum?⟩
    rw [Operation.stripAddress, ht]
  · refine Operation.stripAddress_eq_error fun h => ?_
    rw [isHash_iff.mpr h] at hv
    cases hv

/-- The same address twice with a checksum and once without one, after a failure. -/
theorem checksums_transparent_repeated :
    let reset := Fault.raised (.standard .connectionReset) []
    let g := recording HttpClient.library {} ⟨[.error reset], true⟩ false
    let nines (n : Nat) : Value := .text (List.replicate n (.scalar '9'))
    let search : List Value := [nines 90, nines 81, nines 90]
    g.run [.perform 3 .getTips, .perform 3 (.findTransactionsByAddresses search)] =
        g.run [.perform 3 .getTips, .perform 3 (.findTransactions
          { Operation.noFilters with addresses := .list [nines 81, nines 81, nines 81] })] ∧
      g.Dispatches (.findTransactionsByAddresses search)
        [("command", .text "findTransactions"),
          ("addresses", .list [nines 81, nines 81, nines 81])] ∧
      removeChecksum? (nines 90) = some (List.replicate 81 (.scalar '9')) ∧
      Operation.stripAddress (nines 91) = .error Fault.invalidAddresses := by
  intro reset g nines search
  have trytes : ∀ n m, ∀ c ∈ List.replicate n (CodePoint.scalar '9') ++
      List.replicate m (CodePoint.scalar '9'), IsTryte c := by
    intro n m c hc
    rw [List.replicate_append_replicate] at hc
    obtain rfl := List.eq_of_mem_replicate hc
    exact ⟨'9', rfl, .inl rfl⟩
  let marked : SuffixedAddress := ⟨_, List.replicate 9 (.scalar '9'), List.length_replicate,
    .inr List.length_replicate, trytes 81 9⟩
  let unmarked : SuffixedAddress := ⟨_, List.replicate 0 (.scalar '9'), List.length_replicate,
    .inl List.length_replicate, trytes 81 0⟩
  obtain ⟨one, session, stripping⟩ := checksums_transparent HttpClient.library
  have built : (withTransport {} g.transport false).result = .ok g := rfl
  refine ⟨?_, (one g [marked, unmarked, marked]).2.1 (.withTransport built), ?_, ?_⟩
  · exact session g _ _ (.cons (.same _) (.cons (.search 3 [marked, unmarked, marked]) .nil))
  · obtain ⟨t, ht⟩ := (stripping (nines 90)).2.1.mpr (by decide +kernel)
    obtain ⟨-, ⟨u, hu, rfl⟩, -⟩ := (stripping (nines 90)).2.2.1 t ht
    cases hu
    exact ht
  · exact (stripping (nines 91)).2.2.2 (by decide +kernel)

end Gateway

end TangleGateway
