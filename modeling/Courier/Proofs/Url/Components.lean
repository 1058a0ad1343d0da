import Courier.Proofs.Url.Query
import Mathlib.Data.List.TakeWhile

/-!
# Where a query is added

The text of a URL has a path, a query behind the first question mark, and a fragment from the first
number sign on, to which a question mark behind that sign belongs as well. A query object is added at
the very end of the text. It ends up in the query of a URL without a fragment, and in no other: if
there is a fragment, then it becomes longer, and the query stays what it was.
-/

namespace Courier

/-- The components of the text of a URL. -/
structure Components where
  /-- What stands before the query and the fragment. -/
  path : Text
  /-- What follows the first question mark before the fragment, if there is one. -/
  query : Option Text
  /-- The first number sign and everything behind it. -/
  fragment : Text
deriving DecidableEq

namespace Components

/-- The components of a URL. -/
def ofUrl (url : Text) : Components :=
  let front := url.takeWhile (· != CodePoint.ofChar '#')
  let fragment := url.dropWhile (· != CodePoint.ofChar '#')
  match Text.cut? '?' front with
  | some (path, query) => { path, query := some query, fragment }
  | none => { path := front, query := none, fragment }

/-- The components with one more part in the query, behind an ampersand if it is not the first. -/
def addQuery (c : Components) (part : Text) : Components :=
  { c with query := some (match c.query with
      | none => part
      | some query => query ++ CodePoint.ofChar '&' :: part) }

/-- The components with a longer fragment. -/
def addFragment (c : Components) (added : Text) : Components :=
  { c with fragment := c.fragment ++ added }

/-- What stands before the fragment. -/
def front (c : Components) : Text :=
  c.path ++ match c.query with
    | none => []
    | some query => CodePoint.ofChar '?' :: query

/-- The text with the components. -/
def text (c : Components) : Text := c.front ++ c.fragment

/-- That components are found again in their text. -/
structure IsProper (c : Components) : Prop where
  path : CodePoint.ofChar '?' ∉ c.path
  front : CodePoint.ofChar '#' ∉ c.front
  fragment : ∀ first ∈ c.fragment.head?, first = '#'

variable {c : Components} {url : Text}

lemma ofUrl_text (h : c.IsProper) : ofUrl c.text = c := by
  have hfront : ∀ d ∈ c.front, (d != CodePoint.ofChar '#') = true := by
    intro d hd
    rw [bne_iff_ne]
    rintro rfl
    exact h.front hd
  have hfragment : c.fragment.takeWhile (· != CodePoint.ofChar '#') = [] ∧
      c.fragment.dropWhile (· != CodePoint.ofChar '#') = c.fragment := by
    rcases hc : c.fragment with _ | ⟨first, rest⟩
    · exact ⟨rfl, rfl⟩
    · obtain rfl := h.fragment first (by simp [hc])
      simp
  have htake : c.text.takeWhile (· != CodePoint.ofChar '#') = c.front := by
    rw [text, List.takeWhile_append_of_pos hfront, hfragment.1, List.append_nil]
  have hdrop : c.text.dropWhile (· != CodePoint.ofChar '#') = c.fragment := by
    rw [text, List.dropWhile_append_of_pos hfront, hfragment.2]
  obtain ⟨path, query, fragment⟩ := c
  rw [ofUrl, htake, hdrop]
  cases query with
  | none =>
    have hcut : Text.cut? '?' (front ⟨path, none, fragment⟩) = none := by
      rw [Text.cut?_eq_none_iff]
      simpa [front] using h.path
    rw [hcut]
    simp [front]
  | some query =>
    have hcut : Text.cut? '?' (front ⟨path, some query, fragment⟩) = some (path, query) :=
      Text.cut?_eq_some_iff.2 ⟨rfl, h.path⟩
    rw [hcut]

lemma front_ofUrl (url : Text) :
    (ofUrl url).front = url.takeWhile (· != CodePoint.ofChar '#') := by
  rw [ofUrl]
  cases hcut : Text.cut? '?' (url.takeWhile (· != CodePoint.ofChar '#')) with
  | none => simp [front]
  | some parts =>
    obtain ⟨path, query⟩ := parts
    exact (Text.cut?_eq_some_iff.1 hcut).1.symm

lemma fragment_ofUrl (url : Text) :
    (ofUrl url).fragment = url.dropWhile (· != CodePoint.ofChar '#') := by
  rw [ofUrl]
  cases Text.cut? '?' (url.takeWhile (· != CodePoint.ofChar '#')) <;> rfl

lemma text_ofUrl (url : Text) : (ofUrl url).text = url := by
  rw [text, front_ofUrl, fragment_ofUrl, List.takeWhile_append_dropWhile]

lemma isProper_ofUrl (url : Text) : (ofUrl url).IsProper := by
  refine ⟨?_, ?_, ?_⟩
  · rw [ofUrl]
    cases hcut : Text.cut? '?' (url.takeWhile (· != CodePoint.ofChar '#')) with
    | none => exact Text.cut?_eq_none_iff.1 hcut
    | some parts => exact (Text.cut?_eq_some_iff.1 hcut).2
  · rw [front_ofUrl]
    intro hmem
    simpa using List.mem_takeWhile_imp hmem
  · rw [fragment_ofUrl]
    intro first hfirst
    have hhead := List.head?_dropWhile_not (· != CodePoint.ofChar '#') url
    rw [hfirst] at hhead
    simpa using hhead

/-- The components of a URL are the proper ones with its text. -/
lemma ofUrl_eq_iff : ofUrl url = c ↔ c.IsProper ∧ c.text = url := by
  constructor
  · rintro rfl
    exact ⟨isProper_ofUrl url, text_ofUrl url⟩
  · rintro ⟨hproper, rfl⟩
    exact ofUrl_text hproper

lemma fragment_ofUrl_eq_nil_iff : (ofUrl url).fragment = [] ↔ CodePoint.ofChar '#' ∉ url := by
  rw [fragment_ofUrl, List.dropWhile_eq_nil_iff]
  constructor
  · intro h hmem
    simpa using h _ hmem
  · intro h d hd
    rw [bne_iff_ne]
    rintro rfl
    exact h hd

/-! ## Adding a part -/

/-- One more part in the query stands behind the separator if there is no fragment. -/
lemma text_addQuery (hproper : c.IsProper) (hfragment : c.fragment = []) (part : Text) :
    (c.addQuery part).text = c.text ++ Query.separator c.text :: part := by
  obtain ⟨path, query, fragment⟩ := c
  obtain rfl : fragment = [] := hfragment
  have hpath : CodePoint.ofChar '?' ∉ path := hproper.path
  cases query <;> simp [text, front, addQuery, Query.separator, hpath]

lemma IsProper.addQuery (hproper : c.IsProper) {part : Text} (hpart : CodePoint.ofChar '#' ∉ part) :
    (c.addQuery part).IsProper := by
  obtain ⟨path, query, fragment⟩ := c
  obtain ⟨hpath, hfront, hfragment⟩ := hproper
  refine ⟨hpath, ?_, hfragment⟩
  cases query <;> simp_all [Components.front, Components.addQuery]

lemma text_addFragment (c : Components) (added : Text) :
    (c.addFragment added).text = c.text ++ added :=
  (List.append_assoc c.front c.fragment added).symm

/-- A fragment takes up whatever is added behind it. -/
lemma IsProper.addFragment (hproper : c.IsProper) (hfragment : c.fragment ≠ []) (added : Text) :
    (c.addFragment added).IsProper := by
  refine ⟨hproper.path, hproper.front, ?_⟩
  obtain ⟨first, rest, hrest⟩ := List.exists_cons_of_ne_nil hfragment
  have hfirst : first = '#' := hproper.fragment first (by simp [hrest])
  simp [Components.addFragment, hrest, hfirst]

/-- Behind a URL without a fragment, a part stands in the query. -/
lemma ofUrl_append_of_notMem (h : CodePoint.ofChar '#' ∉ url) {part : Text}
    (hpart : CodePoint.ofChar '#' ∉ part) :
    ofUrl (url ++ Query.separator url :: part) = (ofUrl url).addQuery part := by
  have hproper := isProper_ofUrl url
  have htext := text_addQuery hproper (fragment_ofUrl_eq_nil_iff.2 h) part
  rw [text_ofUrl] at htext
  exact ofUrl_eq_iff.2 ⟨hproper.addQuery hpart, htext⟩

/-- Behind a URL with a fragment, everything stands in the fragment. -/
lemma ofUrl_append_of_mem (h : CodePoint.ofChar '#' ∈ url) (added : Text) :
    ofUrl (url ++ added) = (ofUrl url).addFragment added := by
  have hfragment : (ofUrl url).fragment ≠ [] := by
    rw [Ne, fragment_ofUrl_eq_nil_iff, not_not]
    exact h
  refine ofUrl_eq_iff.2 ⟨(isProper_ofUrl url).addFragment hfragment added, ?_⟩
  rw [text_addFragment, text_ofUrl]

end Components

namespace Query

open Components

/-- **A query object ends up in the query of a URL if and only if the URL has no fragment.** Then the
path and the fragment are what they were, and the query string is the query or the last part of it. If
there is a fragment, then the query string becomes a part of that. -/
theorem components_addTo (url : Text) {query : Json.Object} (hne : query ≠ [])
    (hencodable : (Json.object query).isEncodable = true) :
    ∃ encoded full, encode query = .ok encoded ∧ addTo url query = .ok full ∧
      (ofUrl full = (ofUrl url).addQuery encoded ↔ CodePoint.ofChar '#' ∉ url) ∧
      (CodePoint.ofChar '#' ∈ url →
        ofUrl full = (ofUrl url).addFragment (separator url :: encoded)) := by
  obtain ⟨encoded, hencoded, hsymbols⟩ := encode_eq_ok hencodable
  have hsign : CodePoint.ofChar '#' ∉ encoded := by
    intro hmem
    exact absurd (hsymbols _ hmem) (by decide)
  refine ⟨encoded, _, hencoded, addTo_of_ne_nil url hne hencoded, ⟨?_, ?_⟩, ?_⟩
  · -- A longer fragment is another one.
    intro hquery hmem
    rw [ofUrl_append_of_mem hmem] at hquery
    have hlength := congrArg (fun c => c.fragment.length) hquery
    simp [addQuery, addFragment] at hlength
  · intro hmem
    exact ofUrl_append_of_notMem hmem hsign
  · intro hmem
    exact ofUrl_append_of_mem hmem _

/-- A question mark in a fragment does not open a query, but what is added follows an ampersand. -/
theorem components_addTo_fragment :
    let query : Json.Object := [("a", .int 1)]
    query ≠ [] ∧ (Json.object query).isEncodable = true ∧
      ofUrl "http://a/p#f?x" = ⟨"http://a/p", none, "#f?x"⟩ ∧
      (∃ full, addTo "http://a/p#f?x" query = .ok full ∧
        ofUrl full = ⟨"http://a/p", none, "#f?x&a=1"⟩) ∧
      ∃ full, addTo "http://a/p?x" query = .ok full ∧
        ofUrl full = ⟨"http://a/p", some "x&a=1", []⟩ := by
  intro query
  have hne : query ≠ [] := List.cons_ne_nil _ _
  have hencodable : (Json.object query).isEncodable = true := by decide
  have hstring : encode query = .ok "a=1" := by decide +kernel
  obtain ⟨encoded, full, hencoded, hfull, -, hlonger⟩ :=
    components_addTo "http://a/p#f?x" hne hencodable
  obtain ⟨encoded', full', hencoded', hfull', hiff, -⟩ :=
    components_addTo "http://a/p?x" hne hencodable
  obtain rfl := Except.ok.inj (hstring.symm.trans hencoded)
  obtain rfl := Except.ok.inj (hstring.symm.trans hencoded')
  refine ⟨hne, hencodable, by decide, ⟨full, hfull, ?_⟩, full', hfull', ?_⟩
  · rw [hlonger (by decide)]
    decide
  · rw [hiff.2 (by decide)]
    decide

end Query

end Courier
