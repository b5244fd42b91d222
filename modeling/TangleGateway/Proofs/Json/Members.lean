import TangleGateway.Proofs.Json.Compact

/-! # The members of an object

Blanks may stand around the names and the values of an object, and a name may be repeated. The
object is read whatever stands there, and of the members with one name the last one counts.
-/

namespace TangleGateway.Json

variable {depth : Nat} {rest : Text}

theorem Blank.skipBlank_eq_nil {b : Text} (h : Blank b) : skipBlank b = [] := by
  rw [← List.append_nil b, h.skipBlank_append]
  rfl

theorem Blank.delimited_append {b : Text} (h : Blank b) (hr : Delimited rest) :
    Delimited (b ++ rest) := by
  cases b with
  | nil => exact hr
  | cons c b => exact delimited_cons (.inr (.inr (.inr (h c List.mem_cons_self)))) _

/-- A member with blanks before and after its name and its value. -/
structure PaddedMember extends Member where
  beforeName : Text
  afterName : Text
  beforeValue : Text
  afterValue : Text

namespace PaddedMember

variable {m : PaddedMember}

def padded (m : PaddedMember) : Text :=
  m.beforeName ++ (quoted m.spelling ++
    (m.afterName ++ .scalar ':' :: (m.beforeValue ++ (m.text ++ m.afterValue))))

/-- The name and the value are spelled as texts that are read as them. -/
structure Spelled (depth : Nat) (m : PaddedMember) : Prop where
  name : Quotes m.spelling m.name
  value : Spells depth m.value m.text
  blank_beforeName : Blank m.beforeName
  blank_afterName : Blank m.afterName
  blank_beforeValue : Blank m.beforeValue
  blank_afterValue : Blank m.afterValue

theorem Spelled.readsEntry (h : m.Spelled depth) : ReadsEntry depth m.entry m.padded := by
  have hopens : Opens (quoted m.spelling ++
      (m.afterName ++ .scalar ':' :: (m.beforeValue ++ (m.text ++ m.afterValue)))) :=
    ⟨.scalar '"', _, rfl, by decide⟩
  have hskip : skipBlank m.padded = quoted m.spelling ++
      (m.afterName ++ .scalar ':' :: (m.beforeValue ++ (m.text ++ m.afterValue))) := by
    rw [padded, h.blank_beforeName.skipBlank_append, hopens.skipBlank]
  have happend (s : Text) : skipBlank m.padded ++ s = quoted m.spelling ++
      (m.afterName ++ .scalar ':' :: (m.beforeValue ++ (m.text ++ (m.afterValue ++ s)))) := by
    simp only [hskip, List.append_assoc, List.cons_append]
  -- the blanks after the value are skipped before what follows the member is looked at
  refine ⟨hskip ▸ hopens, fun clock rest hr => ?_⟩
  rw [happend, readMembers_padded h.name h.value h.blank_afterName h.blank_beforeValue _
    (h.blank_afterValue.delimited_append hr), readFurther, h.blank_afterValue.skipBlank_append]
  rfl

/-- The text of an object with members in order. -/
def objectText (ms : List PaddedMember) : Text :=
  .scalar '{' :: commaSeparated (ms.map padded) ++ [.scalar '}']

/-- The members by name, in order and with all that repeat. -/
def entries (ms : List PaddedMember) : Entries Value :=
  ms.map fun m => m.entry

theorem spells_objectText {ms : List PaddedMember} (h : ∀ m ∈ ms, m.Spelled depth) :
    Spells (depth + 1) (.dict (Entries.ofPairs (entries ms))) (objectText ms) := by
  have hentries := @readsBack_entries depth (ms.map fun m => (m.entry, m.padded))
    (List.forall_mem_map.mpr fun m hm => (h m hm).readsEntry)
  simp only [List.map_map, Function.comp_def] at hentries
  exact hentries.spells

end PaddedMember

theorem Spells.read_padded {v : Value} {t before after : Text} (h : Spells depth v t)
    (hb : Blank before) (ha : Blank after) : Json.read depth (before ++ (t ++ after)) = .ok v := by
  have hdocument : readDocument depth (before ++ (t ++ after)) = .ok v := by
    have hafter : Delimited (after ++ []) := ha.delimited_append delimited_nil
    rw [List.append_nil] at hafter
    rw [readDocument, hb.skipBlank_append, (h.opens.append after).skipBlank, h.read hafter,
      Except.ok_bind_eq]
    simp only [ha.skipBlank_eq_nil]
    rfl
  have hunmarked : readUnmarked depth (before ++ (t ++ after)) =
      readDocument depth (before ++ (t ++ after)) := by
    rw [readUnmarked]
    intro s hs
    cases before with
    | nil =>
      obtain ⟨c, u, hc, -, -, -, hmark⟩ := h.opens.append after
      rw [List.nil_append, hc] at hs
      cases hs
      exact hmark rfl
    | cons c b =>
      cases hs
      exact absurd (hb _ List.mem_cons_self) (by decide)
  rw [Json.read, hunmarked, hdocument]
  rfl

end TangleGateway.Json
