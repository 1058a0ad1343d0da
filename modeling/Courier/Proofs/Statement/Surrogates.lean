import Courier.Proofs.Statement.Grammar

/-!
# Surrogates in sections

Surrogates are looked for in two places: when a section is decoded, in the JSON text of the whole
object, and when the query is added to the URL, in each key and each value on its own, which has a
text of another form if it is not an object or an array. Both find the same objects, those that hold
a surrogate at any depth, so that what was decoded can always be added to a URL.
-/

namespace Courier

namespace Statement

/-- **The two checks for surrogates agree**: an object has a UTF-8 form as a whole if and only if no
key and no string at any depth holds a surrogate, and if and only if it has a query string; where it
has none, the fault is that of the query section. So no object of a statement that is accepted holds a
surrogate, and the query of a draft, whatever segments it has taken up, can be added to its URL. -/
theorem hasUtf8_iff_encode :
    (∀ object : Json.Object,
      (Section.hasUtf8 object = true ↔
        ∀ s, (Json.object object).HasText s → Text.hasSurrogate s = false) ∧
      (Section.hasUtf8 object = true ↔ ∃ encoded, Query.encode object = .ok encoded) ∧
      ∀ fault, Query.encode object = .error fault → fault = .invalidSectionJson .query) ∧
    (∀ statement d, parse (some statement) = .ok d → ∀ sec s,
      (Json.object (d.object sec)).HasText s → Text.hasSurrogate s = false) ∧
    ∀ segments draft, Draft.addAll {} segments = .ok draft →
      ∃ fullUrl, Query.addTo draft.url draft.query = .ok fullUrl := by
  refine ⟨fun object => ⟨?_, ?_, ?_⟩, ?_, ?_⟩
  · rw [hasUtf8_eq]
    exact Json.isEncodable_iff
  · rw [hasUtf8_eq]
    constructor
    · intro h
      obtain ⟨encoded, hencoded, -⟩ := Query.encode_eq_ok h
      exact ⟨encoded, hencoded⟩
    · rintro ⟨encoded, hencoded⟩
      by_contra h
      have hfault := Query.encode_eq_error_iff.mpr ⟨by simpa using h, rfl⟩
      rw [hencoded] at hfault
      cases hfault
  · intro fault hfault
    exact (Query.encode_eq_error_iff.mp hfault).2
  · intro statement d hparse sec
    exact Json.isEncodable_iff.mp (isEncodable_of_parse hparse sec)
  · intro segments draft hadd
    obtain ⟨entries, -, -, hholds⟩ := Draft.holds_nil.addAll hadd
    obtain ⟨added, hfull, -⟩ := Query.addTo_eq_ok draft.url (hholds.isEncodable .query)
    exact ⟨draft.url ++ added, hfull⟩

end Statement

end Courier
