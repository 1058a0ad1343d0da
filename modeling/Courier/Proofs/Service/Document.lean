import Courier.Proofs.Statement.Grammar
import Courier.Service.Document
import Mathlib.Tactic.Common

/-!
# Documents that can be made

A document is made unless a value in it is nested too deeply or has a key with a surrogate. The
values in the document of a request with its outcome are the objects of the request's sections and
the data of the outcome; there, the sections have keys that can be encoded.
-/

namespace Courier

namespace Document

/-- The whole document of a request with its outcome, before it is made fit to be sent. -/
def whole (d : Descriptor) (e : Execution) : Json :=
  .object [(Text.ofString "request", request d), (Text.ofString "response", response e)]

/-- The values in the document of a request with its outcome. -/
def parts (d : Descriptor) (e : Execution) : List Json :=
  [.object d.query, .object d.body, .object d.headers, e.data]

/-- The deepest nesting of a value in the document of a request with its outcome. -/
def maxPartDepth : Nat := 248

/-- Two objects are around every value in the document. -/
lemma depth_whole_le_iff {d : Descriptor} {e : Execution} :
    (whole d e).depth ≤ maxDepth ↔ ∀ v ∈ parts d e, v.depth ≤ maxPartDepth := by
  have hrequest : (request d).depth ≤ maxPartDepth + 1 ↔ (Json.object d.query).depth ≤ maxPartDepth ∧
      (Json.object d.body).depth ≤ maxPartDepth ∧ (Json.object d.headers).depth ≤ maxPartDepth := by
    have hurl : (Json.string d.fullUrl).depth ≤ maxPartDepth := Nat.zero_le _
    rw [request, Json.depth_object_le_iff]
    simp [hurl]
  have hresponse : (response e).depth ≤ maxPartDepth + 1 ↔ e.data.depth ≤ maxPartDepth := by
    have hint : ∀ n : Int, (Json.int n).depth ≤ maxPartDepth := fun n => Nat.zero_le _
    rw [response, Json.depth_object_le_iff]
    simp [hint]
  have hwhole : (whole d e).depth ≤ maxDepth ↔ (request d).depth ≤ maxPartDepth + 1 ∧
      (response e).depth ≤ maxPartDepth + 1 := by
    show (Json.object _).depth ≤ (maxPartDepth + 1) + 1 ↔ _
    rw [Json.depth_object_le_iff]
    simp
  rw [hwhole, hrequest, hresponse]
  simp [parts, and_assoc]

/-- The keys of a document are those of the values in it, and a few that are ASCII. -/
lemma hasEncodableKeys_whole_iff {d : Descriptor} {e : Execution} :
    (whole d e).hasEncodableKeys = true ↔ ∀ v ∈ parts d e, v.hasEncodableKeys = true := by
  simp [whole, request, response, parts, Json.hasEncodableKeys, Json.all, Json.membersAll,
    Text.hasSurrogate_ofString, and_assoc]

/-- The document of a request with its outcome is made unless a value in it is too deep, or, where
none is, has a key with a surrogate. -/
theorem result_eq (d : Descriptor) (e : Execution) : result d e =
    if ∀ v ∈ parts d e, v.depth ≤ maxPartDepth then
      if ∀ v ∈ parts d e, v.hasEncodableKeys = true then .ok (whole d e).withoutInfinities
      else .error .unencodableKey
    else .error .tooDeep := by
  have hresult : result d e = dump (whole d e) := rfl
  rw [hresult, dump]
  by_cases hdepth : ∀ v ∈ parts d e, v.depth ≤ maxPartDepth
  · rw [if_pos hdepth, if_neg (Nat.not_lt.mpr (depth_whole_le_iff.mpr hdepth))]
    exact if_congr hasEncodableKeys_whole_iff rfl rfl
  · rw [if_neg hdepth, if_pos (Nat.not_le.mp fun h => hdepth (depth_whole_le_iff.mp h))]

end Document

end Courier
