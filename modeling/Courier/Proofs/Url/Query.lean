import Courier.Proofs.Url.Percent
import Courier.Url.Query

/-!
# Query strings of encodable objects

A query string exists for the objects whose keys and strings can be encoded, and for no others, and
few code points occur in it: those that stand for themselves in encoded text, percent signs, and the
two that stand between keys and values. So a full URL exists for every such object, and holds a
surrogate only if the URL before it does.
-/

namespace Courier

namespace Json

/-- Where plain text is wanted, a text of the value is still in it. -/
lemma hasSurrogate_toText (v : Json) : Text.hasSurrogate v.toText = !v.isEncodable := by
  have hwrite := hasSurrogate_write isPlain_compact rfl v
  cases v with
  | string s => rw [toText, isEncodable, all, Bool.not_not]
  | float x =>
    have hplain : Text.IsPlain (toText (.float x)) := by
      rw [toText]
      split
      · exact Text.isPlain_ofInt _
      · exact Binary64.isPlain_write (by decide) (by decide) _
    exact hplain.hasSurrogate
  | null | bool _ | int _ | array _ | object _ => exact hwrite

end Json

namespace Query

/-- Whether a code point may occur in a query string: within an encoded key or value, or between
two of them. -/
def isSymbol (c : CodePoint) : Bool := Percent.isEncoded c || c = '=' || c = '&'

lemma isPlain_of_isSymbol {c : CodePoint} (h : isSymbol c = true) : c.IsPlain := by
  simp only [isSymbol, Percent.isEncoded, Bool.or_eq_true, decide_eq_true_eq] at h
  rcases h with ((h | rfl) | rfl) | rfl
  · exact Percent.isPlain_of_isUnreserved h
  all_goals decide

/-- The `key=value` form of a member that can be encoded. -/
def pairText (member : Text × Json) : Text :=
  member.1.flatMap Percent.encodeCodePoint ++
    CodePoint.ofChar '=' :: member.2.toText.flatMap Percent.encodeCodePoint

lemma pair?_eq_some {member : Text × Json} (hkey : Text.hasSurrogate member.1 = false)
    (hvalue : member.2.isEncodable = true) : pair? member = some (pairText member) := by
  have htext : Text.hasSurrogate member.2.toText = false := by
    rw [Json.hasSurrogate_toText, hvalue, Bool.not_true]
  rw [pair?, Percent.encode?_eq_some hkey, Percent.encode?_eq_some htext]
  rfl

lemma mapM_pair?_eq_some {query : Json.Object} (h : (Json.object query).isEncodable = true) :
    query.mapM pair? = some (query.map pairText) := by
  rw [Json.isEncodable_object] at h
  induction query with
  | nil => rfl
  | cons member query ih =>
    obtain ⟨⟨hkey, hvalue⟩, hquery⟩ := List.forall_mem_cons.1 h
    rw [List.mapM_cons, pair?_eq_some hkey hvalue, ih hquery]
    rfl

/-- The query string of an encodable object has the pairs of its members in their order. -/
lemma encode_of_isEncodable {query : Json.Object} (h : (Json.object query).isEncodable = true) :
    encode query = .ok (Text.join [CodePoint.ofChar '&'] (query.map pairText)) := by
  rw [encode, mapM_pair?_eq_some h]

lemma isSymbol_of_mem_pairText {member : Text × Json} {c : CodePoint} (h : c ∈ pairText member) :
    isSymbol c = true := by
  have hencoded : Percent.isEncoded c = true → isSymbol c = true := by
    intro hc
    simp [isSymbol, hc]
  rw [pairText, List.mem_append, List.mem_cons] at h
  rcases h with h | rfl | h
  · exact hencoded (Percent.isEncoded_of_mem_encoded h)
  · decide
  · exact hencoded (Percent.isEncoded_of_mem_encoded h)

/-- An encodable object has a query string. -/
lemma encode_eq_ok {query : Json.Object} (h : (Json.object query).isEncodable = true) :
    ∃ encoded, encode query = .ok encoded ∧ ∀ c ∈ encoded, isSymbol c = true := by
  refine ⟨_, encode_of_isEncodable h, (Text.forall_mem_join (by decide)).mpr ?_⟩
  rw [List.forall_mem_map]
  exact fun member _ c hc => isSymbol_of_mem_pairText hc

/-- The query string of an object with a member is not empty. -/
lemma encode_ne_nil {query : Json.Object} (hne : query ≠ []) : encode query ≠ .ok [] := by
  obtain ⟨member, query, rfl⟩ := List.exists_cons_of_ne_nil hne
  intro h
  unfold encode at h
  split at h
  · next pairs hpairs =>
    obtain ⟨pair, hpair, rest, -, rfl⟩ : ∃ pair, pair? member = some pair ∧ ∃ rest,
        query.mapM pair? = some rest ∧ pair :: rest = pairs := by
      simpa [List.mapM_cons, Option.bind_eq_some_iff] using hpairs
    -- The first pair has an equals sign.
    have hpairNil : pair = [] := by
      have hjoin := Except.ok.inj h
      rw [Text.join, List.append_eq_nil_iff] at hjoin
      exact hjoin.1
    simp [hpairNil, pair?, Option.bind_eq_some_iff] at hpair
  · cases h

/-- A member has no pair if its key or its value cannot be encoded. -/
lemma pair?_eq_none_iff {member : Text × Json} : pair? member = none ↔
    Text.hasSurrogate member.1 = true ∨ member.2.isEncodable = false := by
  rw [← Percent.encode?_eq_none_iff, ← Bool.not_eq_true', ← Json.hasSurrogate_toText,
    ← Percent.encode?_eq_none_iff, pair?]
  cases Percent.encode? member.1 <;> cases Percent.encode? member.2.toText <;> simp

lemma mapM_pair?_eq_none {query : Json.Object} (h : (Json.object query).isEncodable = false) :
    query.mapM pair? = none := by
  induction query with
  | nil => cases h
  | cons member query ih =>
    have hcons : (Json.object (member :: query)).isEncodable = (!Text.hasSurrogate member.1 &&
        member.2.isEncodable && (Json.object query).isEncodable) := rfl
    rw [List.mapM_cons]
    cases hpair : pair? member with
    | none => rfl
    | some pair =>
      have hmember : ¬(Text.hasSurrogate member.1 = true ∨ member.2.isEncodable = false) := by
        rw [← pair?_eq_none_iff, hpair]
        exact Option.some_ne_none pair
      have hquery : (Json.object query).isEncodable = false := by
        simpa [hcons, hmember, not_or.mp hmember] using h
      rw [ih hquery]
      rfl

/-- An object has no query string if it is not encodable, and the fault names the section. -/
theorem encode_eq_error_iff {query : Json.Object} {fault : Fault} : encode query = .error fault ↔
    (Json.object query).isEncodable = false ∧ fault = .invalidSectionJson .query := by
  cases hquery : (Json.object query).isEncodable with
  | true =>
    obtain ⟨encoded, hencoded, -⟩ := encode_eq_ok hquery
    simp [hencoded]
  | false => simp [encode, mapM_pair?_eq_none hquery, @eq_comm _ fault]

/-! ## Adding to a URL -/

/-- The code point that stands between a URL and what is added to it. -/
def separator (url : Text) : CodePoint := if CodePoint.ofChar '?' ∈ url then '&' else '?'

lemma append_of_ne_nil (url : Text) {query : Text} (h : query ≠ []) :
    append url query = url ++ separator url :: query := by
  have hempty : query.isEmpty = false := by simpa using h
  by_cases hmark : CodePoint.ofChar '?' ∈ url <;> simp [append, hempty, separator, hmark]

/-- What is added for an object with a member is its query string, behind a separator. -/
lemma addTo_of_ne_nil (url : Text) {query : Json.Object} (hne : query ≠ []) {encoded : Text}
    (h : encode query = .ok encoded) :
    addTo url query = .ok (url ++ separator url :: encoded) := by
  have hstring : encoded ≠ [] := by
    rintro rfl
    exact encode_ne_nil hne h
  rw [addTo, h]
  exact congrArg Except.ok (append_of_ne_nil url hstring)

/-- Adding an encodable object to a URL succeeds, and what is added are symbols of query strings, with
a question mark perhaps. -/
lemma addTo_eq_ok (url : Text) {query : Json.Object}
    (h : (Json.object query).isEncodable = true) : ∃ added, addTo url query = .ok (url ++ added) ∧
      ∀ c ∈ added, isSymbol c = true ∨ c = '?' := by
  obtain ⟨encoded, hencoded, hsymbols⟩ := encode_eq_ok h
  by_cases hne : query = []
  · subst hne
    exact ⟨[], by rw [List.append_nil]; rfl, by simp⟩
  · refine ⟨separator url :: encoded, addTo_of_ne_nil url hne hencoded, ?_⟩
    refine List.forall_mem_cons.2 ⟨?_, fun c hc => .inl (hsymbols c hc)⟩
    unfold separator
    split
    · exact .inl (by decide)
    · exact .inr rfl

lemma isPlain_of_forall_isSymbol {added : Text} (h : ∀ c ∈ added, isSymbol c = true ∨ c = '?') :
    added.IsPlain := by
  intro c hc
  rcases h c hc with hsymbol | rfl
  · exact isPlain_of_isSymbol hsymbol
  · decide

end Query

end Courier
