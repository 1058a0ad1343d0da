import Courier.Proofs.Json.Derivation
import Courier.Proofs.Statement.Grammar
import Mathlib

/-!
# What a section says

The text of a section is strict JSON for an object, strict JSON for something else, or neither. Only
the first is decoded, and only if no key and no string that is left in the object holds a surrogate. Of
a repeated key the last value is left, so that it does not matter what the earlier ones held, whereas a
word that strict JSON does not know is a fault wherever it stands.
-/

namespace Courier

namespace Section

/-- That a text is strict JSON for an object in which no key and no string, at any depth, holds a
surrogate. -/
structure IsObjectText (raw : Text) (members : Json.Object) : Prop where
  isText : Json.IsText .strict raw (.object members)
  hasSurrogate : ∀ s, (Json.object members).HasText s → Text.hasSurrogate s = false

/-- That a text is strict JSON for a value that is not an object. -/
def IsOtherText (raw : Text) : Prop :=
  ∃ v, Json.IsText .strict raw v ∧ ∀ members, v ≠ .object members

variable (sec : Section) {raw : Text}

lemma decode_eq_ok_iff_isObjectText {members : Json.Object} :
    sec.decode raw = .ok members ↔ IsObjectText raw members := by
  rw [Statement.decode_eq_ok_iff, Json.read?_eq_some_iff, Json.isEncodable_iff]
  exact ⟨fun h => ⟨h.1, h.2⟩, fun h => ⟨h.isText, h.hasSurrogate⟩⟩

lemma decode_eq_notObject_iff :
    sec.decode raw = .error (.sectionNotObject sec) ↔ IsOtherText raw := by
  constructor
  · intro h
    unfold decode at h
    split at h
    · cases h
    · split at h <;> cases h
    · next v hobject hread =>
      exact ⟨v, Json.isText_of_read? hread, hobject⟩
  · rintro ⟨v, hv, hobject⟩
    unfold decode
    rw [Json.read?_eq_some hv]
    split
    · next h => cases h
    · next members h => exact absurd (Option.some.inj h) (hobject members)
    · rfl

/-- **What is decoded, and why something is not**: a section has the object that its text denotes if
that holds no surrogate; the fault of a text for another value is that it is no object; and every text
that is left is not valid. -/
theorem decode_eq_iff (sec : Section) (raw : Text) :
    (∀ members, sec.decode raw = .ok members ↔ IsObjectText raw members) ∧
      (sec.decode raw = .error (.sectionNotObject sec) ↔ IsOtherText raw) ∧
      (sec.decode raw = .error (.invalidSectionJson sec) ↔
        (∀ members, ¬IsObjectText raw members) ∧ ¬IsOtherText raw) := by
  refine ⟨fun members => decode_eq_ok_iff_isObjectText sec, decode_eq_notObject_iff sec, ?_⟩
  rw [← decode_eq_notObject_iff sec]
  simp only [← decode_eq_ok_iff_isObjectText sec]
  cases hdecode : sec.decode raw with
  | ok members => simp
  | error fault =>
    -- There are no other faults.
    rcases Statement.decode_eq_error_iff.mp hdecode with _ | _ | h | h <;> simp

/-- A word that strict JSON does not know is a fault, even if its key is repeated. -/
example : decode .query (Text.ofString "\x7b\"a\": NaN, \"a\": 1\x7d") =
    .error (.invalidSectionJson .query) := by cbv

/-- A surrogate is gone with the value that it was in. -/
example : decode .query (Text.ofString "\x7b\"a\": \"\\ud800\", \"a\": 1\x7d") =
    .ok [(Text.ofString "a", .int 1)] := by cbv

end Section

end Courier
