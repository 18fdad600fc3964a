import EventSchema.Proofs.FunctionNames
import EventSchema.Proofs.LegalIdentifiers

set_option autoImplicit false

namespace EventSchema

namespace Backend

open Naming

/-- The two ways to write an identifier: a plain name that is no keyword, and a keyword with the raw
mark in front, which the keywords of paths cannot have. -/
inductive IsWrittenIdent : String → Prop
  | plain {name : String} (text : isPlainText name.toList = true) (free : name ∉ rustKeywords) :
      IsWrittenIdent name
  | raw {word : String} (keyword : word ∈ rustKeywords)
      (inner : word ∉ ["self", "Self", "super", "crate"]) : IsWrittenIdent ("r#" ++ word)

theorem isWrittenIdent_of_pathKeyword {word : String} (h : word ∈ pathKeywords) :
    IsWrittenIdent (word ++ "_") := by
  have hall : ∀ word ∈ pathKeywords, isPlainText (word ++ "_").toList = true ∧
      word ++ "_" ∉ rustKeywords := by decide
  obtain ⟨ht, hf⟩ := hall word h
  exact .plain ht hf

theorem isWrittenIdent_escapeKeyword {name : String} (hi : isIdentifier name = true)
    (hu : name ≠ "_") : IsWrittenIdent (escapeKeyword name) := by
  have hplain : isPlainText name.toList = true := by
    have ht : name.toList ≠ ['_'] := fun h => hu (String.toList_inj.1 h)
    have hi' : isIdentifierText name.toList = true := hi
    simp [isPlainText_eq, hi', ht]
  unfold escapeKeyword
  split
  · next hk => exact .plain hplain (isKeyword_eq_false_iff.1 (by simpa using hk))
  · next hk =>
    split
    · next hp => exact isWrittenIdent_of_pathKeyword (by simpa using hp)
    · next hp => exact .raw (isKeyword_iff.1 (by simpa using hk)) (by simpa [pathKeywords] using hp)

theorem fieldIdent?_eq_some {key ident : String} :
    fieldIdent? key = some ident ↔
      isIdentifier (snake key) = true ∧ escapeKeyword (snake key) = ident := by
  simp [fieldIdent?]

theorem isWrittenIdent_of_fieldIdent? {key ident : String} (h : fieldIdent? key = some ident) :
    IsWrittenIdent ident := by
  obtain ⟨hi, rfl⟩ := fieldIdent?_eq_some.1 h
  exact isWrittenIdent_escapeKeyword hi (snake_ne_underscore key)

theorem fieldIdent?_eq_iff {a b x y : String} (ha : fieldIdent? a = some x)
    (hb : fieldIdent? b = some y) : x = y ↔ snake a = snake b := by
  obtain ⟨-, rfl⟩ := fieldIdent?_eq_some.1 ha
  obtain ⟨-, rfl⟩ := fieldIdent?_eq_some.1 hb
  exact ⟨escapeKeyword_snake_inj, congrArg escapeKeyword⟩

end Backend

namespace Check

open Backend Naming

theorem uniqueIdents_eq_ok_iff_snake {keys : List String} :
    uniqueIdents keys = .ok () ↔
      (∀ key ∈ keys, ∃ ident, fieldIdent? key = some ident) ∧ (keys.map snake).Nodup := by
  rw [uniqueIdents_eq_ok]
  refine and_congr_right fun hall => nodup_map_congr fun a ha b hb => ?_
  obtain ⟨x, hx⟩ := hall a ha
  obtain ⟨y, hy⟩ := hall b hb
  rw [hx, hy, Option.some.injEq]
  exact fieldIdent?_eq_iff hx hy

end Check

namespace Backend

open Naming

/-- Field identifiers are legal, they tell keys apart as the snake style does, and the check of a
list of keys refuses no more than what this asks for. -/
theorem field_identifiers_sound :
    (∀ key ident, fieldIdent? key = some ident → IsWrittenIdent ident) ∧
      (∀ a b x y, fieldIdent? a = some x → fieldIdent? b = some y →
        (x = y ↔ snake a = snake b)) ∧
      ∀ keys, Check.uniqueIdents keys = .ok () ↔
        (∀ key ∈ keys, ∃ ident, fieldIdent? key = some ident) ∧ (keys.map snake).Nodup :=
  ⟨fun _ _ => isWrittenIdent_of_fieldIdent?, fun _ _ _ _ => fieldIdent?_eq_iff,
    fun _ => Check.uniqueIdents_eq_ok_iff_snake⟩

/-- A keyword that is written raw, one that cannot be, and a name that is neither. -/
theorem field_identifiers_sound_keywords :
    let keys := ["Type", "crate", "crate-id"]
    keys.map fieldIdent? = [some "r#type", some "crate_", some "crate_id"] ∧
      IsWrittenIdent "r#type" ∧ IsWrittenIdent "crate_" ∧ "crate_" ≠ "crate_id" ∧
      Check.uniqueIdents keys = .ok () ∧ Check.uniqueIdents ("TYPE" :: keys) ≠ .ok () := by
  intro keys
  have hidents : keys.map fieldIdent? = [some "r#type", some "crate_", some "crate_id"] := by decide
  obtain ⟨htype, hcrate, hid⟩ : fieldIdent? "Type" = some "r#type" ∧
      fieldIdent? "crate" = some "crate_" ∧ fieldIdent? "crate-id" = some "crate_id" := by
    decide
  obtain ⟨hlegal, hsame, hunique⟩ := field_identifiers_sound
  refine ⟨hidents, hlegal "Type" _ htype, hlegal "crate" _ hcrate, ?_, ?_, ?_⟩
  · exact fun h => absurd ((hsame _ _ _ _ hcrate hid).1 h) (by decide)
  · refine (hunique keys).2 ⟨?_, by decide⟩
    simpa [keys] using ⟨⟨_, htype⟩, ⟨_, hcrate⟩, ⟨_, hid⟩⟩
  · exact fun h => absurd ((hunique _).1 h).2 (by decide)

end Backend

end EventSchema
