import Courier.Proofs.Url.Pairs

/-!
# Adding query objects one after the other

A query object may be added to a URL in parts: adding one object and then another comes to adding the
members of both at once, because behind the first of them the URL has a question mark, and the second
follows an ampersand. What is added stands behind the URL, and it is nothing for the object without
members only. It depends on the keys and on the texts of the values, and these can be told from it.
-/

namespace Courier

namespace Text

/-- Lists that have parts are joined in one piece or in two. -/
lemma join_append (separator : Text) {first second : List Text} (hfirst : first ≠ [])
    (hsecond : second ≠ []) : join separator (first ++ second) =
      join separator first ++ separator ++ join separator second := by
  obtain ⟨part, parts, rfl⟩ := List.exists_cons_of_ne_nil hfirst
  obtain ⟨next, others, rfl⟩ := List.exists_cons_of_ne_nil hsecond
  simp [join]

end Text

namespace Query

/-- The keys of an object with the texts of their values. -/
def texts (query : Json.Object) : List (Text × Text) :=
  query.map fun member => (member.1, member.2.toText)

variable {url full encoded : Text} {first second query other : Json.Object}

/-! ## Query strings -/

lemma isEncodable_append : (Json.object (first ++ second)).isEncodable = true ↔
    (Json.object first).isEncodable = true ∧ (Json.object second).isEncodable = true := by
  simp only [Json.isEncodable_object, List.forall_mem_append]

/-- Only encodable objects have a query string. -/
lemma isEncodable_of_encode (h : encode query = .ok encoded) :
    (Json.object query).isEncodable = true := by
  cases hquery : (Json.object query).isEncodable with
  | true => rfl
  | false =>
    rw [encode_eq_error_iff.2 ⟨hquery, rfl⟩] at h
    cases h

/-- The query string of the members of two objects is made up of theirs. -/
lemma encode_append {encoded' : Text} (hfirst : first ≠ []) (hsecond : second ≠ [])
    (h : encode first = .ok encoded) (h' : encode second = .ok encoded') :
    encode (first ++ second) = .ok (encoded ++ CodePoint.ofChar '&' :: encoded') := by
  have hencodable := isEncodable_of_encode h
  have hencodable' := isEncodable_of_encode h'
  rw [encode_of_isEncodable hencodable] at h
  rw [encode_of_isEncodable hencodable'] at h'
  obtain rfl := Except.ok.inj h
  obtain rfl := Except.ok.inj h'
  rw [encode_of_isEncodable (isEncodable_append.2 ⟨hencodable, hencodable'⟩), List.map_append,
    Text.join_append _ (by simpa using hfirst) (by simpa using hsecond), List.append_assoc]
  rfl

/-- Nothing else of an object is in its query string. -/
lemma encode_congr (h : texts query = texts other) : encode query = encode other := by
  have hpair : ∀ object : Json.Object, object.mapM pair? = (texts object).mapM fun entry => do
      let key ← Percent.encode? entry.1
      let value ← Percent.encode? entry.2
      return key ++ (CodePoint.ofChar '=' :: value) := by
    intro object
    rw [texts, List.mapM_map]
    rfl
  rw [encode, encode, hpair, hpair, h]

/-- The keys and the texts of the values can be told from a query string. -/
lemma texts_eq_of_encode (h : encode query = .ok encoded) (h' : encode other = .ok encoded) :
    texts query = texts other := by
  by_cases hquery : query = [] <;> by_cases hother : other = []
  · rw [hquery, hother]
  · subst hquery
    obtain rfl : [] = encoded := Except.ok.inj h
    exact absurd h' (encode_ne_nil hother)
  · subst hother
    obtain rfl : [] = encoded := Except.ok.inj h'
    exact absurd h (encode_ne_nil hquery)
  · have hencodable := isEncodable_of_encode h
    have hencodable' := isEncodable_of_encode h'
    rw [encode_of_isEncodable hencodable] at h
    rw [encode_of_isEncodable hencodable', ← h, Except.ok.injEq] at h'
    have hpairs := pairs?_join hother hencodable'
    rw [h', pairs?_join hquery hencodable] at hpairs
    exact Option.some.inj hpairs

/-! ## Adding to a URL -/

@[simp] lemma append_nil (url : Text) : append url [] = url := rfl

lemma append_inj {added added' : Text} (h : append url added = append url added') :
    added = added' := by
  rcases added with _ | ⟨c, rest⟩ <;> rcases added' with _ | ⟨c', rest'⟩
  · rfl
  · simp [append_of_ne_nil url (List.cons_ne_nil c' rest')] at h
  · simp [append_of_ne_nil url (List.cons_ne_nil c rest)] at h
  · rw [append_of_ne_nil url (List.cons_ne_nil c rest),
      append_of_ne_nil url (List.cons_ne_nil c' rest'), List.append_cancel_left_eq] at h
    exact List.tail_eq_of_cons_eq h

/-- What is added to a URL that something was added to follows an ampersand. -/
lemma append_append {added added' : Text} (h : added ≠ []) (h' : added' ≠ []) :
    append (append url added) added' = append url (added ++ CodePoint.ofChar '&' :: added') := by
  have hmark : CodePoint.ofChar '?' ∈ url ++ separator url :: added := by
    unfold separator
    split
    · next hurl => exact List.mem_append_left _ hurl
    · exact List.mem_append_right _ List.mem_cons_self
  have hseparator : separator (url ++ separator url :: added) = '&' := if_pos hmark
  rw [append_of_ne_nil url h, append_of_ne_nil _ h', append_of_ne_nil url (by simp [h]), hseparator,
    List.append_assoc, List.cons_append]

lemma addTo_nil (url : Text) : addTo url [] = .ok url := rfl

lemma addTo_eq_ok_iff : addTo url query = .ok full ↔
    ∃ encoded, encode query = .ok encoded ∧ append url encoded = full := by
  rw [addTo]
  cases encode query <;> simp [Except.map]

/-- Adding the members of two objects at once comes to adding one object after the other. -/
lemma addTo_append {middle : Text} (hmiddle : addTo url first = .ok middle)
    (hfull : addTo middle second = .ok full) : addTo url (first ++ second) = .ok full := by
  by_cases hfirst : first = []
  · subst hfirst
    obtain rfl := Except.ok.inj hmiddle
    exact hfull
  · by_cases hsecond : second = []
    · subst hsecond
      obtain rfl := Except.ok.inj hfull
      rwa [List.append_nil]
    · obtain ⟨encoded, hencoded, rfl⟩ := addTo_eq_ok_iff.1 hmiddle
      obtain ⟨encoded', hencoded', rfl⟩ := addTo_eq_ok_iff.1 hfull
      have hne : encoded ≠ [] := fun h => encode_ne_nil hfirst (h ▸ hencoded)
      have hne' : encoded' ≠ [] := fun h => encode_ne_nil hsecond (h ▸ hencoded')
      exact addTo_eq_ok_iff.2
        ⟨_, encode_append hfirst hsecond hencoded hencoded', (append_append hne hne').symm⟩

/-- The result tells and is told by the keys and the texts of the values. -/
lemma addTo_eq_iff_texts_eq (h : addTo url query = .ok full) :
    addTo url other = .ok full ↔ texts other = texts query := by
  obtain ⟨encoded, hencoded, rfl⟩ := addTo_eq_ok_iff.1 h
  constructor
  · intro hother
    obtain ⟨encoded', hencoded', happend⟩ := addTo_eq_ok_iff.1 hother
    obtain rfl := append_inj happend
    exact texts_eq_of_encode hencoded' hencoded
  · intro htexts
    exact addTo_eq_ok_iff.2 ⟨encoded, (encode_congr htexts).trans hencoded, rfl⟩

lemma addTo_eq_self_iff (h : addTo url query = .ok full) : full = url ↔ query = [] := by
  constructor
  · rintro rfl
    have htexts := (addTo_eq_iff_texts_eq (addTo_nil full)).1 h
    simpa [texts] using htexts
  · rintro rfl
    exact (Except.ok.inj h).symm

/-- **Adding query objects is an action of their concatenation on URLs.** Encodable objects can be added
one after the other, and then all of their members could have been added at once; whether an object has
members makes no difference. A URL is the beginning of what it becomes, which is the URL itself only if
the object is empty. What it becomes tells the keys and the texts of the values, and nothing else of an
object matters. -/
theorem addTo_addTo (url : Text) {first second : Json.Object}
    (hfirst : (Json.object first).isEncodable = true)
    (hsecond : (Json.object second).isEncodable = true) :
    ∃ middle full, addTo url first = .ok middle ∧ addTo middle second = .ok full ∧
      addTo url (first ++ second) = .ok full ∧
      url <+: middle ∧ (middle = url ↔ first = []) ∧
      ∀ other, addTo url other = .ok middle ↔ texts other = texts first := by
  obtain ⟨added, hmiddle, -⟩ := addTo_eq_ok url hfirst
  obtain ⟨added', hfull, -⟩ := addTo_eq_ok (url ++ added) hsecond
  refine ⟨_, _, hmiddle, hfull, addTo_append hmiddle hfull, List.prefix_append _ _,
    addTo_eq_self_iff hmiddle, fun other => ?_⟩
  exact addTo_eq_iff_texts_eq hmiddle

/-- An empty key with an empty value is a member, and a URL may have a question mark before. -/
theorem addTo_addTo_emptyKey :
    let first : Json.Object := [("", .string "")]
    let second : Json.Object := [("k", .array [.int 1])]
    (Json.object first).isEncodable = true ∧ (Json.object second).isEncodable = true ∧
      addTo "/p?" first = .ok "/p?&=" ∧ addTo "/p?&=" second = .ok "/p?&=&k=%5B1%5D" ∧
      addTo "/p?" (first ++ second) = .ok "/p?&=&k=%5B1%5D" ∧
      ∀ other, addTo "/p?" other = .ok "/p?&=" ↔ texts other = [([], [])] := by
  intro first second
  have hfirst : (Json.object first).isEncodable = true := by decide
  have hsecond : (Json.object second).isEncodable = true := by decide
  obtain ⟨middle, full, hmiddle, hfull, hboth, -, -, htexts⟩ := addTo_addTo "/p?" hfirst hsecond
  have hstring : addTo "/p?" first = .ok "/p?&=" := by decide +kernel
  obtain rfl := Except.ok.inj (hstring.symm.trans hmiddle)
  have hstring' : addTo "/p?&=" second = .ok "/p?&=&k=%5B1%5D" := by decide +kernel
  obtain rfl := Except.ok.inj (hstring'.symm.trans hfull)
  exact ⟨hfirst, hsecond, hstring, hstring', hboth, htexts⟩

end Query

end Courier
