import TangleGateway.Proofs.Json.Truncation
import TangleGateway.Proofs.Outcome.Classification

/-! # Bodies that are not whole

A body of success that is cut anywhere, or runs on after the end of its object, is a failure of the
transport. It does not get as far as the parser.
-/

namespace TangleGateway.Answer

open Json (Portable Compact)

variable {es : Entries Value} {depth nesting : Nat}

theorem classify_malformed {body : Text} {problem : Json.Problem} {place : Json.Place}
    (h : Json.read nesting body = .error (.malformed problem place)) {α : Type}
    (parse : Value → Except Fault α) :
    (plain (some 200) body none).classify nesting parse = ⟨.ok ⟨none, some (.call (some .transport)
      (.text (("unparsable response: " : Text) ++ (Json.ReadFault.malformed problem place).message))
      (.int 200) (some (.unreadable (.malformed problem place))))⟩, []⟩ := by
  have hp : parsed nesting body parse = .error (.unreadable (.malformed problem place)) := by
    simp only [parsed, h, Except.mapError_error, Except.error_bind_eq]
  exact classify_unparsed hp rfl

/--
An object is read from each of its compact texts, before blanks. From anything that such a text
only starts with, or that only starts with such a text, nothing is read, whatever the parser: the
outcome is a failure of the transport with the status, for JSON that is malformed at some place.
-/
theorem classify_whole_only (hd : depth ≤ nesting) (hp : Portable depth (.dict es)) :
    (∃ t, Json.write (.dict es) = .ok t ∧ Compact depth (.dict es) t) ∧
      ∀ t, Compact depth (.dict es) t →
        (∀ blanks, (∀ c ∈ blanks, Json.isBlank c = true) →
          Json.read nesting (t ++ blanks) = .ok (.dict es)) ∧
        ∀ b, (b <+: t ∧ b ≠ t) ∨ (∃ more, b = t ++ more ∧ ∃ c ∈ more, Json.isBlank c = false) →
          ∃ problem place reason,
            let cause : Fault := .unreadable (.malformed problem place)
            Json.read nesting b = .error (.malformed problem place) ∧
            cause.cls = .standard .malformedJson ∧ cause.text? = some reason ∧
            ∀ {α : Type} (parse : Value → Except Fault α),
              (plain (some 200) b none).classify nesting parse =
                ⟨.ok ⟨none, some (.call (some .transport)
                  (.text (("unparsable response: " : Text) ++ reason)) (.int 200)
                  (some cause))⟩, []⟩ := by
  refine ⟨hp.writesCompact, fun t ht => ?_⟩
  have hcompact := ht.mono hd
  refine ⟨fun blanks hb => hcompact.read_blanks hb, fun b hb => ?_⟩
  obtain ⟨problem, place, hread⟩ := hcompact.read_unwhole hb
  exact ⟨problem, place, _, hread, rfl, rfl, fun parse => classify_malformed hread parse⟩

/--
A text that spells its code points in several ways is cut within an escape of a name, within a
number and before the last bracket. Last it has one bracket too many.
-/
theorem classify_cut_within_escape :
    let t : Text := "\x7b\"k\\u000a\":[-12,\"\\u00E9\\/\",\x7b\x7d]\x7d"
    let es : Entries Value := [("k\n", .list [.int (-12), .text "é/", .dict []])]
    Json.read 3 (t ++ "\r\n") = .ok (.dict es) ∧
      ∀ b ∈ [t.take 7, t.take 14, t.dropLast, t ++ " ]"], ∃ problem place reason,
        let cause : Fault := .unreadable (.malformed problem place)
        cause.text? = some reason ∧ ∀ {α : Type} (parse : Value → Except Fault α),
          (plain (some 200) b none).classify 3 parse =
            ⟨.ok ⟨none, some (.call (some .transport)
              (.text (("unparsable response: " : Text) ++ reason)) (.int 200) (some cause))⟩,
              []⟩ := by
  intro t es
  have hlist : Compact 2 (.list [.int (-12), .text "é/", .dict []])
      "[-12,\"\\u00E9\\/\",\x7b\x7d]" := by
    refine @Compact.list 1
      [(.int (-12), "-12"), (.text "é/", "\"\\u00E9\\/\""), (.dict [], "\x7b\x7d")] ?_
    simp only [List.forall_mem_cons]
    have htext : Compact 1 (.text "é/") "\"\\u00E9\\/\"" :=
      .text (q := "\\u00E9\\/") fun _ _ => rfl
    exact ⟨.int (by decide), htext, @Compact.dict 0 [] .nil nofun nofun, nofun⟩
  have ht : Compact 3 (.dict es) t :=
    @Compact.dict 2 [⟨"k\n", "k\\u000a", _, _⟩] (by decide)
      (List.forall_mem_singleton.mpr fun _ _ => rfl) (List.forall_mem_singleton.mpr hlist)
  have hp : Portable 3 (.dict es) := by
    refine .dict (by decide) (List.forall_mem_singleton.mpr (.list ?_))
    simp only [List.forall_mem_cons]
    exact ⟨.int (by decide), .text _, .dict .nil nofun, nofun⟩
  obtain ⟨-, hall⟩ := classify_whole_only (Nat.le_refl 3) hp
  obtain ⟨hblanks, hunwhole⟩ := hall t ht
  refine ⟨hblanks "\r\n" (by decide), fun b hb => ?_⟩
  have hcut : (b <+: t ∧ b ≠ t) ∨
      ∃ more, b = t ++ more ∧ ∃ c ∈ more, Json.isBlank c = false := by
    simp only [List.mem_cons, List.not_mem_nil, or_false] at hb
    rcases hb with rfl | rfl | rfl | rfl
    · exact .inl ⟨List.take_prefix 7 t, by decide⟩
    · exact .inl ⟨List.take_prefix 14 t, by decide⟩
    · exact .inl ⟨List.dropLast_prefix t, by decide⟩
    · exact .inr ⟨" ]", rfl, ']', by decide, by decide⟩
  obtain ⟨problem, place, reason, -, -, hreason, h⟩ := hunwhole b hcut
  exact ⟨problem, place, reason, hreason, h⟩

end TangleGateway.Answer
