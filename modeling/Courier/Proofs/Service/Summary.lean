import Courier.Proofs.CommandLine

/-!
# The summary of a request

What is printed about a statement that is parsed, and what the service answers about the request of
one that is executed, is what the statement says, with one exception: there are numbers that are too
large to be finite. These are accepted, but there is no text for them in a document, and null stands in
their place.
-/

namespace Courier

namespace Descriptor

/-- The descriptor with null in place of every number in its sections that is not finite. -/
def withoutInfinities (d : Descriptor) : Descriptor :=
  { d with
    headers := Json.membersWithoutInfinities d.headers
    query := Json.membersWithoutInfinities d.query
    body := Json.membersWithoutInfinities d.body }

lemma toJson_withoutInfinities (d : Descriptor) :
    d.toJson.withoutInfinities = d.withoutInfinities.toJson := rfl

lemma request_withoutInfinities (d : Descriptor) :
    (Document.request d).withoutInfinities = Document.request d.withoutInfinities := rfl

lemma membersWithoutInfinities_eq_self_iff {members : Json.Object} :
    Json.membersWithoutInfinities members = members ↔ (Json.object members).isFinite = true := by
  rw [← Json.withoutInfinities_eq_self_iff, Json.withoutInfinities, Json.object.injEq]

/-- A descriptor is the same without its infinite numbers if it has none. -/
theorem withoutInfinities_eq_self_iff {d : Descriptor} :
    d.withoutInfinities = d ↔ ∀ sec, (Json.object (d.object sec)).isFinite = true := by
  rw [forall_object_iff]
  obtain ⟨method, url, headers, query, body, fullUrl⟩ := d
  simp only [withoutInfinities, mk.injEq, true_and, and_true, membersWithoutInfinities_eq_self_iff]

end Descriptor

section

variable {statement : Text} {d : Descriptor}

namespace Document

lemma isRegular_toJson (hparse : Statement.parse (some statement) = .ok d) :
    d.toJson.isRegular = true := by
  obtain ⟨hheaders, hquery, hbody⟩ :=
    Descriptor.forall_object_iff.mp (Statement.isRegular_of_parse hparse)
  have hstring : ∀ t, (Json.string t).isRegular = true := fun _ => rfl
  refine Json.isRegular_object.mpr ⟨by simp [Text.ofString_inj], ?_⟩
  simp [hheaders, hquery, hbody, hstring]

lemma hasEncodableKeys_toJson (hparse : Statement.parse (some statement) = .ok d) :
    d.toJson.hasEncodableKeys = true := by
  have hsections := Descriptor.forall_object_iff.mp (Statement.hasEncodableKeys_of_parse hparse)
  simpa [Descriptor.toJson, Json.hasEncodableKeys, Json.all, Json.membersAll,
    Text.hasSurrogate_ofString] using hsections

/-- The document of a descriptor is the descriptor without its infinite numbers. -/
lemma descriptor_eq (hparse : Statement.parse (some statement) = .ok d)
    (hdepth : d.toJson.depth ≤ maxDepth) : descriptor d = .ok d.withoutInfinities.toJson := by
  rw [descriptor, dump, if_neg (Nat.not_lt.mpr hdepth), if_pos (hasEncodableKeys_toJson hparse),
    Descriptor.toJson_withoutInfinities]

end Document

namespace CommandLine

/-- **What is reported is the request without its infinite numbers.** A statement that is accepted is
printed as such: the run ends with a status of zero and has no effect on the world, and every reader
of JSON finds the method, the URLs and the sections in what is printed, with null in place of the
numbers that are not finite. So does the summary in every answer of the service. What is reported is
all of the request if and only if its numbers are finite. -/
theorem run_eq_finished (hdash : statement.head? ≠ some (CodePoint.ofChar '-'))
    (hparse : Statement.parse (some statement) = .ok d)
    (hdepth : d.toJson.depth ≤ Document.maxDepth) (w : World) :
    (∀ environment file, ∃ output, run w environment file [statement] = (.finished 0 output [], w) ∧
      ∀ dialect, Json.read? dialect output = some d.withoutInfinities.toJson) ∧
    (∀ payload answer, Service.statement? payload = some statement →
      (Service.handle w payload).1 = .ok answer → ∃ response, answer = ⟨200, .object [
        (Text.ofString "request", Document.request d.withoutInfinities),
        (Text.ofString "response", response)]⟩) ∧
    (d.withoutInfinities = d ↔ ∀ sec, (Json.object (d.object sec)).isFinite = true) := by
  refine ⟨?_, ?_, Descriptor.withoutInfinities_eq_self_iff⟩
  · intro environment file
    have hdump := Document.descriptor_eq hparse hdepth
    refine ⟨line (d.withoutInfinities.toJson.write Json.indented), ?_, fun dialect => ?_⟩
    · rw [run, readArguments_singleton hdash]
      dsimp only
      rw [hparse]
      dsimp only
      rw [hdump]
      rfl
    · exact Document.read?_line (Document.isRegular_toJson hparse) hdump
  · intro payload answer hstatement hanswer
    rw [← hstatement] at hparse
    obtain ⟨e, -, rfl⟩ := Service.handle_eq_ok hparse hanswer
    refine ⟨(Document.response e).withoutInfinities, ?_⟩
    rw [← Descriptor.request_withoutInfinities]
    rfl

/-- The number is accepted, it is in the URL, and yet it is not in the summary. -/
theorem run_eq_finished_overflow :
    let statement := Text.ofString "HTTP GET | URL http://a/ | QUERY \x7b\"a\": 1e999\x7d"
    let d : Descriptor :=
      ⟨.get, "http://a/", [], [("a", .float (.infinite false))], [], "http://a/?a=inf"⟩
    statement.head? ≠ some (CodePoint.ofChar '-') ∧ Statement.parse (some statement) = .ok d ∧
      d.toJson.depth ≤ Document.maxDepth ∧ d.withoutInfinities ≠ d ∧
        ∃ output, run {} [] none [statement] = (.finished 0 output [], {}) ∧
          Json.read? .strict output =
            some (Descriptor.toJson ⟨.get, "http://a/", [], [("a", .null)], [], "http://a/?a=inf"⟩) := by
  intro statement d
  have hdash : statement.head? ≠ some (CodePoint.ofChar '-') := by decide
  have hparse : Statement.parse (some statement) = .ok d := by
    simp only [statement, d]
    cbv
  have hdepth : d.toJson.depth ≤ Document.maxDepth := by decide
  obtain ⟨hrun, -, hsame⟩ := run_eq_finished hdash hparse hdepth {}
  obtain ⟨output, houtput, hread⟩ := hrun [] none
  have hinfinite : ¬∀ sec, (Json.object (d.object sec)).isFinite = true := by
    intro h
    exact absurd (h .query) (by decide)
  exact ⟨hdash, hparse, hdepth, fun h => hinfinite (hsame.mp h), output, houtput, hread .strict⟩

end CommandLine

end

end Courier
