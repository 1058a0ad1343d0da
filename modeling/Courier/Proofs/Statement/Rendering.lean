import Courier.Proofs.Json.Pipe
import Courier.Proofs.Statement.Grammar

/-!
# Every request has a statement

A request is written as a statement with all three sections, each of them compact JSON in which an
escape stands for every pipe. Parsing gives the request back, whatever its method, its URL and its
objects are, as long as the URL can stand between delimiters and the objects can be written as JSON.
-/

namespace Courier

namespace Json

/-- A value that has a JSON text: it nests no deeper than is read, the keys of its objects are
distinct, its integers are not too long, its other numbers are finite, and no key and no string holds
a surrogate. -/
structure IsExpressible (v : Json) : Prop where
  regular : v.isRegular = true
  finite : v.isFinite = true
  encodable : v.isEncodable = true
  depth_le : v.depth ≤ maxNesting

/-- The text of an object in a statement. -/
def sectionText (object : Json.Object) : Text := escapePipes (Json.object object).toText

/-- Written objects stand between braces. -/
lemma exists_toText_object (object : Json.Object) :
    ∃ body, (Json.object object).toText =
      CodePoint.ofChar '\x7b' :: (body ++ [CodePoint.ofChar '\x7d']) := by
  show ∃ body, bracket compact 0 '\x7b' '\x7d' (writeMembers compact 1 object) = _
  unfold bracket
  split
  · exact ⟨[], rfl⟩
  · refine ⟨compact.lineBreak 1 ++ Text.join (Text.ofString compact.comma ++ compact.lineBreak 1)
      (writeMembers compact 1 object) ++ compact.lineBreak 0, ?_⟩
    simp

lemma isProper_sectionText (object : Json.Object) : Segment.IsProper (sectionText object) := by
  have hpipe : Segment.pipe ∉ sectionText object := pipe_notMem_escapePipes _
  obtain ⟨body, hbody⟩ := exists_toText_object object
  have hsplit : sectionText object =
      CodePoint.ofChar '\x7b' :: (escapePipes body ++ [CodePoint.ofChar '\x7d']) := by
    rw [sectionText, hbody, escapePipes_cons (by decide), escapePipes_append,
      escapePipes_cons (by decide)]
    rfl
  refine ⟨?_, hpipe, ?_, ?_⟩
  · rw [hsplit]
    exact List.cons_ne_nil _ _
  · rw [hsplit, List.head?_cons]
    decide
  · rw [hsplit, ← List.cons_append, List.getLast?_append]
    simp only [List.getLast?_singleton, Option.some_or]
    decide

/-- The text of an object denotes the object. -/
lemma read?_sectionText {object : Json.Object} (h : (Json.object object).IsExpressible)
    (dialect : Dialect) : read? dialect (sectionText object) = some (.object object) := by
  apply read?_eq_some
  refine ⟨[], sectionText object, [], by simp, isBlank_nil, isBlank_nil, ?_⟩
  have hwritten : IsValue dialect maxNesting (writeAt compact 0 (.object object)) (.object object) :=
    isValue_writeAt isJson_compact (keeps_isFinite rfl) 0 _ _ h.finite h.regular h.depth_le
  exact hwritten.escapePipes

end Json

namespace Statement

/-- The statement of a request. -/
def render (method : Method) (url : Text) (headers query body : Json.Object) : Text :=
  Text.ofString "HTTP " ++ method.name ++ Text.ofString " | URL " ++ url ++
    Text.ofString " | HEADERS " ++ Json.sectionText headers ++
      Text.ofString " | QUERY " ++ Json.sectionText query ++
        Text.ofString " | BODY " ++ Json.sectionText body

/-- The parts of the statement of a request. -/
def renderedParts (method : Method) (url : Text) (headers query body : Json.Object) : Parts where
  method := method
  url := url
  sections := [(.headers, Json.sectionText headers), (.query, Json.sectionText query),
    (.body, Json.sectionText body)]

lemma text_renderedParts (method : Method) (url : Text) (headers query body : Json.Object) :
    (renderedParts method url headers query body).text = render method url headers query body := by
  have hheaders : Text.ofString " | HEADERS " =
      Text.ofString " | " ++ Section.headers.name ++ Text.ofString " " := by decide
  have hquery : Text.ofString " | QUERY " =
      Text.ofString " | " ++ Section.query.name ++ Text.ofString " " := by decide
  have hbody : Text.ofString " | BODY " =
      Text.ofString " | " ++ Section.body.name ++ Text.ofString " " := by decide
  rw [render, hheaders, hquery, hbody]
  simp [Parts.text, renderedParts]

lemma isProper_renderedParts (method : Method) {url : Text} (hurl : Segment.IsProper url)
    (headers query body : Json.Object) :
    (renderedParts method url headers query body).IsProper := by
  have hnodup : [Section.headers, Section.query, Section.body].Nodup := by decide
  refine ⟨hurl, hnodup, ?_⟩
  intro part hpart
  simp only [renderedParts, List.mem_cons, List.not_mem_nil, or_false] at hpart
  rcases hpart with rfl | rfl | rfl <;> exact Json.isProper_sectionText _

section

variable {headers query body : Json.Object}

lemma decode_sectionText (sec : Section) {object : Json.Object}
    (h : (Json.object object).IsExpressible) :
    sec.decode (Json.sectionText object) = .ok object :=
  decode_eq_ok_iff.2 ⟨Json.read?_sectionText h .strict, h.encodable⟩

/-- **Every request has a statement**: parsing gives back the method, the URL and the three objects,
with the full URL that belongs to them. -/
theorem parse_render (method : Method) {url : Text} (hurl : Segment.IsProper url)
    (hsurrogate : Text.hasSurrogate url = false) (hheaders : (Json.object headers).IsExpressible)
    (hquery : (Json.object query).IsExpressible) (hbody : (Json.object body).IsExpressible) :
    ∃ fullUrl, Query.addTo url query = .ok fullUrl ∧
      parse (some (render method url headers query body)) =
        .ok ⟨method, url, headers, query, body, fullUrl⟩ := by
  obtain ⟨added, hfull, -⟩ := Query.addTo_eq_ok url hquery.encodable
  refine ⟨url ++ added, hfull, ?_⟩
  rw [parse_eq_ok_iff]
  refine ⟨renderedParts method url headers query body, isProper_renderedParts method hurl _ _ _,
    hsurrogate, text_renderedParts _ _ _ _ _, rfl, rfl, ?_, ?_, hfull⟩
  · intro part hpart
    simp only [renderedParts, List.mem_cons, List.not_mem_nil, or_false] at hpart
    rcases hpart with rfl | rfl | rfl
    · exact decode_sectionText .headers hheaders
    · exact decode_sectionText .query hquery
    · exact decode_sectionText .body hbody
  · -- No section is absent.
    intro sec hsec
    exfalso
    apply hsec
    cases sec <;> simp [renderedParts]

/-- A request with pipes and line breaks in its strings, a negative fraction and nested objects. -/
theorem parse_render_nested :
    let url := Text.ofString "http://a b/?c=d"
    let headers : Json.Object := [("a|b", .string "|\n\"|"), ("c", .null)]
    let query : Json.Object :=
      [("q", .array [.float (.finite true ⟨0x3FF8000000000000, by decide⟩), .int (-70)])]
    let body : Json.Object := [("", .object [("z", .array []), ("y", .object [])]), ("x", .bool true)]
    Segment.IsProper url ∧ Text.hasSurrogate url = false ∧ (Json.object headers).IsExpressible ∧
      (Json.object query).IsExpressible ∧ (Json.object body).IsExpressible ∧
        ∃ fullUrl, Query.addTo url query = .ok fullUrl ∧
          parse (some (render .post url headers query body)) =
            .ok ⟨.post, url, headers, query, body, fullUrl⟩ := by
  intro url headers query body
  have hurl : Segment.IsProper url := by decide
  have hsurrogate : Text.hasSurrogate url = false := by decide
  have hheaders : (Json.object headers).IsExpressible :=
    ⟨by decide, by decide, by decide, by decide⟩
  have hquery : (Json.object query).IsExpressible :=
    ⟨by decide, by decide, by decide, by decide⟩
  have hbody : (Json.object body).IsExpressible :=
    ⟨by decide, by decide, by decide, by decide⟩
  exact ⟨hurl, hsurrogate, hheaders, hquery, hbody,
    parse_render .post hurl hsurrogate hheaders hquery hbody⟩

end

end Statement

end Courier
