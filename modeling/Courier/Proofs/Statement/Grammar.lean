import Courier.Proofs.Json.Regular
import Courier.Proofs.Statement.Entries
import Courier.Proofs.Url.Query
import Mathlib.Data.List.Nodup

/-!
# The grammar of statements

A statement that is accepted has the form

`HTTP method | URL url | SECTION value | ... | SECTION value`

with one of the two methods, a URL, and any of the three sections, in any order and each at most
once. This file states the grammar by the *parts* of a statement, the text that is made from them and
the descriptor that they describe, and shows that the statements that are accepted are exactly those
texts, that they describe what is read from them, and that no text is made from parts in two ways.
-/

namespace Courier

/-- The object of a section in a descriptor. -/
def Descriptor.object (d : Descriptor) : Section → Json.Object
  | .headers => d.headers
  | .query => d.query
  | .body => d.body

/-- All sections pass a test if the three objects do. -/
lemma Descriptor.forall_object_iff {d : Descriptor} {test : Json → Bool} :
    (∀ sec, test (.object (d.object sec)) = true) ↔ test (.object d.headers) = true ∧
      test (.object d.query) = true ∧ test (.object d.body) = true := by
  constructor
  · intro h
    exact ⟨h .headers, h .query, h .body⟩
  · rintro ⟨hheaders, hquery, hbody⟩ (_ | _ | _)
    · exact hheaders
    · exact hquery
    · exact hbody

namespace Statement

open Segment

/-- The parts of a statement: the sections are given with their texts. -/
structure Parts where
  method : Method
  url : Text
  sections : List (Section × Text)

namespace Parts

/-- The statement that is made from parts. -/
def text (parts : Parts) : Text :=
  Text.ofString "HTTP " ++ parts.method.name ++ Text.ofString " | URL " ++ parts.url ++
    parts.sections.flatMap fun part =>
      Text.ofString " | " ++ part.1.name ++ Text.ofString " " ++ part.2

/-- The URL and the texts of the sections can stand between delimiters, and no section is given
twice. -/
structure IsProper (parts : Parts) : Prop where
  url : Segment.IsProper parts.url
  nodup : (parts.sections.map (·.1)).Nodup
  sections : ∀ part ∈ parts.sections, Segment.IsProper part.2

/-- The descriptor that parts describe: it has their method and URL, the objects that the texts of
the sections denote, and an empty object for each section that is not given. -/
structure Describes (parts : Parts) (d : Descriptor) : Prop where
  method : d.method = parts.method
  url : d.url = parts.url
  object : ∀ part ∈ parts.sections, part.1.decode part.2 = .ok (d.object part.1)
  absent : ∀ sec, sec ∉ parts.sections.map (·.1) → d.object sec = []
  fullUrl : Query.addTo parts.url d.query = .ok d.fullUrl

/-- The entries of a statement. -/
def entries (parts : Parts) : List (Keyword × Text) :=
  (.http, parts.method.name) :: (.url, parts.url) ::
    parts.sections.map fun part => (.json part.1, part.2)

lemma joined_entries (e : Keyword × Text) (entries : List (Keyword × Text)) :
    joined ((e :: entries).map entry) =
      e.1.name ++ space :: e.2 ++
        entries.flatMap fun e => Text.ofString " | " ++ e.1.name ++ space :: e.2 := by
  have hdelimiter : Text.ofString " | " = [space, pipe, space] := by decide
  simp [joined, Text.join, entry, List.flatMap_map, hdelimiter]

/-- The text of parts is the joined form of their entries. -/
lemma text_eq_joined (parts : Parts) : parts.text = joined (parts.entries.map entry) := by
  have hhttp : Text.ofString "HTTP " = Keyword.http.name ++ [space] := by decide
  have hurl : Text.ofString " | URL " = Text.ofString " | " ++ Keyword.url.name ++ [space] := by
    decide
  have hspace : Text.ofString " " = [space] := by decide
  rw [entries, joined_entries, text, hhttp, hurl, hspace]
  simp [List.flatMap_map, Keyword.name]

/-- The segments of parts. -/
lemma map_entry_entries (parts : Parts) : parts.entries.map entry =
    entry (.http, parts.method.name) :: entry (.url, parts.url) ::
      parts.sections.map fun part => entry (.json part.1, part.2) := by
  simp [entries]

lemma entries_injective : Function.Injective entries := by
  rintro ⟨m, u, sections⟩ ⟨m', u', sections'⟩ h
  simp only [entries, List.cons.injEq, Prod.mk.injEq, true_and] at h
  obtain ⟨hmethod, rfl, hsections⟩ := h
  have hm : some m = some m' := by
    rw [← Method.ofName?_name m, ← Method.ofName?_name m', hmethod]
  have hinjective : Function.Injective fun part : Section × Text => (Keyword.json part.1, part.2) := by
    rintro ⟨sec, raw⟩ ⟨sec', raw'⟩ heq
    simpa using heq
  rw [Option.some.inj hm, hinjective.list_map hsections]

lemma IsProper.nodup_entries {parts : Parts} (h : parts.IsProper) :
    (parts.entries.map (·.1)).Nodup := by
  have hsections : ((parts.sections.map (·.1)).map Keyword.json).Nodup :=
    h.nodup.map fun sec sec' heq => by simpa using heq
  simpa [entries, Function.comp_def] using hsections

lemma isProper_methodName (m : Method) : Segment.IsProper m.name := by
  cases m <;> decide

lemma IsProper.entries {parts : Parts} (h : parts.IsProper) :
    ∀ e ∈ parts.entries, Segment.IsProper e.2 := by
  simp only [Parts.entries, List.forall_mem_cons, List.forall_mem_map]
  exact ⟨isProper_methodName _, h.url, h.sections⟩

lemma split_text {parts : Parts} (h : parts.IsProper) :
    split parts.text = .ok (parts.entries.map entry) := by
  refine split_eq_ok_iff.2 ⟨by simp [Parts.entries], ?_, parts.text_eq_joined⟩
  intro segment hsegment
  obtain ⟨e, he, rfl⟩ := List.mem_map.1 hsegment
  exact (isProper_entry_iff.2 (h.entries e he)).1

/-- **No text is made from parts in two ways.** -/
lemma text_injOn {parts parts' : Parts} (h : parts.IsProper) (h' : parts'.IsProper)
    (htext : parts.text = parts'.text) : parts = parts' := by
  have hsplit := split_text h
  rw [htext, split_text h'] at hsplit
  exact entries_injective (entry_injective.list_map (Except.ok.inj hsplit)).symm

end Parts

/-! ## Taking up the entries -/

lemma Unaccepted.not_accepts {k : Keyword} {value : Text} {fault : Fault}
    (h : Unaccepted k value fault) : ¬ Accepts k value := by
  cases h with
  | notUpper h =>
    rintro ⟨m, rfl⟩
    exact h (by cases m <;> decide)
  | noMethod _ h =>
    rintro ⟨m, rfl⟩
    exact h m rfl
  | noJson h | noObject h =>
    rintro ⟨object, hobject⟩
    rw [hobject] at h
    simp at h

namespace Draft

variable {draft : Draft} {entries : List (Keyword × Text)}

/-- A draft takes up entries with distinct keywords and values that may follow them. -/
lemma Holds.exists_addAll (h : draft.Holds entries) (more : List (Keyword × Text))
    (hnodup : ((entries ++ more).map (·.1)).Nodup)
    (hmore : ∀ e ∈ more, e.2 ≠ [] ∧ e.2.head? ≠ some space ∧ Accepts e.1 e.2) :
    ∃ draft', draft.addAll (more.map entry) = .ok draft' ∧ draft'.Holds (entries ++ more) := by
  induction more generalizing draft entries with
  | nil => exact ⟨draft, rfl, by simpa using h⟩
  | cons e more ih =>
    obtain ⟨⟨hvalue, hhead, haccepts⟩, hrest⟩ := List.forall_mem_cons.1 hmore
    cases hadd : draft.add (entry e) with
    | error fault =>
      -- Neither is the keyword used before nor is the value one that may not follow it.
      exfalso
      have hextract : extract (entry e) = .ok e := extract_eq_ok_iff.2 ⟨rfl, hvalue, hhead⟩
      have hnew : e.1 ∉ draft.seen := by
        rw [h.seen]
        simp only [List.map_append, List.map_cons, List.nodup_append, List.mem_cons] at hnodup
        exact fun hmem => hnodup.2.2 e.1 hmem e.1 (.inl rfl) rfl
      rw [add_of_extract_eq_ok hextract, if_neg hnew] at hadd
      exact (set_eq_error_iff.1 hadd).not_accepts haccepts
    | ok next =>
      obtain ⟨e', he', -, -, hnext⟩ := h.add hadd
      obtain rfl := entry_injective he'
      obtain ⟨draft', haddAll, hholds⟩ := ih hnext (by simpa using hnodup) hrest
      exact ⟨draft', by simpa [Draft.addAll, hadd, bind, Except.bind] using haddAll,
        by simpa using hholds⟩

end Draft

/-- The order of the first two segments is right if and only if they have the keywords of the method
and of the URL. -/
lemma checkOrder_map_entry_iff {entries : List (Keyword × Text)} :
    checkOrder (entries.map entry) = .ok () ↔
      ∃ method url others, entries = (.http, method) :: (.url, url) :: others := by
  -- No keyword's name is the beginning of another one's.
  have hhttp : ∀ e : Keyword × Text, Keyword.http.name.isPrefixOf (entry e) = true ↔ e.1 = .http := by
    rintro ⟨_ | _ | _ | _ | _, value⟩ <;>
      simp [entry, Keyword.name, Section.name, Text.ofString, List.isPrefixOf]
  have hurl : ∀ e : Keyword × Text, Keyword.url.name.isPrefixOf (entry e) = true ↔ e.1 = .url := by
    rintro ⟨_ | _ | _ | _ | _, value⟩ <;>
      simp [entry, Keyword.name, Section.name, Text.ofString, List.isPrefixOf]
  rcases entries with _ | ⟨e, _ | ⟨e', others⟩⟩
  · simp [checkOrder]
  · simp only [checkOrder, List.map_cons, List.map_nil]
    split <;> simp
  · obtain ⟨k, value⟩ := e
    obtain ⟨k', value'⟩ := e'
    simp only [checkOrder, List.map_cons, hhttp, hurl]
    by_cases hk : k = .http
    · by_cases hk' : k' = .url <;> simp [hk, hk']
    · simp [hk]

/-- What can be written in UTF-8 is what holds no surrogate. -/
lemma hasUtf8_eq (members : Json.Object) :
    Section.hasUtf8 members = (Json.object members).isEncodable := by
  rw [Section.hasUtf8, Utf8.isSome_encode?, Json.hasSurrogate_write Json.isPlain_spaced rfl,
    Bool.not_not]

lemma decode_eq_ok_iff {sec : Section} {raw : Text} {object : Json.Object} :
    sec.decode raw = .ok object ↔
      Json.read? .strict raw = some (.object object) ∧ (Json.object object).isEncodable = true := by
  unfold Section.decode
  split
  · next h => simp [h]
  · next members h =>
    rw [hasUtf8_eq]
    by_cases hencodable : (Json.object members).isEncodable = true
    · simp only [hencodable, if_true, h, Except.ok.injEq, Option.some.injEq, Json.object.injEq]
      exact ⟨fun heq => ⟨heq, heq ▸ hencodable⟩, fun heq => heq.1⟩
    · simp only [hencodable, h, Option.some.injEq, Json.object.injEq]
      simp only [Bool.false_eq_true, if_false, reduceCtorEq, false_iff, not_and]
      rintro rfl
      exact hencodable
  · next v hobject h =>
    simp only [h, reduceCtorEq, Option.some.injEq, false_iff, not_and]
    rintro rfl
    exact absurd rfl (hobject object)

variable {draft : Draft} {parts : Parts}

/-- The fields of a draft that holds the entries of parts. -/
lemma Draft.Holds.fields (h : draft.Holds parts.entries) :
    draft.method = some parts.method ∧ draft.url = parts.url ∧
      (∀ part ∈ parts.sections, part.1.decode part.2 = .ok (draft.object part.1)) ∧
        ∀ sec, sec ∉ parts.sections.map (·.1) → draft.object sec = [] := by
  obtain ⟨m, hm, hname⟩ := h.reads (.http, parts.method.name) (by simp [Parts.entries])
  have hmethod : some parts.method = some m := by
    rw [← Method.ofName?_name parts.method, ← Method.ofName?_name m]
    exact congrArg _ hname
  refine ⟨by rw [hm, hmethod], ?_, fun part hpart => ?_, fun sec hsec => ?_⟩
  · exact h.reads (.url, parts.url) (by simp [Parts.entries])
  · refine h.reads (.json part.1, part.2) ?_
    simpa [Parts.entries] using hpart
  · refine h.lacks (.json sec) ?_
    simpa [Parts.entries] using hsec

/-- All objects that a draft holds can be encoded. -/
lemma Draft.Holds.isEncodable {entries : List (Keyword × Text)} (h : draft.Holds entries)
    (sec : Section) : (Json.object (draft.object sec)).isEncodable = true := by
  by_cases hsec : .json sec ∈ entries.map (·.1)
  · obtain ⟨e, he, hk⟩ := List.mem_map.1 hsec
    have hreads := h.reads e he
    rw [hk] at hreads
    exact (decode_eq_ok_iff.1 hreads).2
  · have hlacks : draft.object sec = [] := h.lacks _ hsec
    rw [hlacks]
    rfl

/-- A draft that holds the entries of parts gives the descriptor that they describe. -/
lemma Draft.Holds.finish_eq_ok_iff (h : draft.Holds parts.entries) {d : Descriptor} :
    draft.finish = .ok d ↔ parts.Describes d := by
  obtain ⟨hmethod, hurl, hobject, habsent⟩ := h.fields
  have hfinish : draft.finish = (Query.addTo draft.url draft.query).map fun fullUrl =>
      ⟨parts.method, draft.url, draft.headers, draft.query, draft.body, fullUrl⟩ := by
    simp only [finish, hmethod, bind, Except.bind]
    cases Query.addTo draft.url draft.query <;> rfl
  constructor
  · intro hd
    cases hfull : Query.addTo draft.url draft.query with
    | error fault => simp [hfinish, hfull, Except.map] at hd
    | ok fullUrl =>
      rw [hfinish, hfull] at hd
      obtain rfl := Except.ok.inj hd
      have hsame : ∀ sec, Descriptor.object
          ⟨parts.method, draft.url, draft.headers, draft.query, draft.body, fullUrl⟩ sec =
            draft.object sec := by
        rintro (_ | _ | _) <;> rfl
      refine ⟨rfl, hurl, fun part hpart => ?_, fun sec hsec => ?_, by rw [← hurl]; exact hfull⟩
      · rw [hsame]
        exact hobject part hpart
      · rw [hsame]
        exact habsent sec hsec
  · intro hd
    -- The parts determine the objects of all sections, those that are not given included.
    have hsame : ∀ sec, d.object sec = draft.object sec := by
      intro sec
      by_cases hsec : sec ∈ parts.sections.map (·.1)
      · obtain ⟨part, hpart, rfl⟩ := List.mem_map.1 hsec
        exact Except.ok.inj ((hd.object part hpart).symm.trans (hobject part hpart))
      · rw [hd.absent sec hsec, habsent sec hsec]
    have hheaders : d.headers = draft.headers := hsame .headers
    have hquery : d.query = draft.query := hsame .query
    have hbody : d.body = draft.body := hsame .body
    have hfull := hd.fullUrl
    rw [hquery, ← hurl] at hfull
    rw [hfinish, hfull, ← hd.method, hurl, ← hd.url, ← hheaders, ← hquery, ← hbody]
    rfl

/-- Such a draft always gives a descriptor. -/
lemma Draft.Holds.exists_finish (h : draft.Holds parts.entries) : ∃ d, draft.finish = .ok d := by
  obtain ⟨hmethod, hurl, -⟩ := h.fields
  obtain ⟨added, hfull, -⟩ := Query.addTo_eq_ok draft.url (h.isEncodable .query)
  exact ⟨⟨parts.method, draft.url, draft.headers, draft.query, draft.body, draft.url ++ added⟩, by
    simp only [finish, hmethod, bind, Except.bind]
    rw [show Query.addTo draft.url draft.query = _ from hfull]
    rfl⟩

/-! ## Reading -/

/-- Segments that a draft takes up in the right order are the entries of parts. -/
lemma exists_parts_of_addAll {segments : List Text}
    (hproper : ∀ segment ∈ segments, Segment.IsProper segment)
    (horder : checkOrder segments = .ok ()) (hadd : Draft.addAll {} segments = .ok draft) :
    ∃ parts : Parts, parts.IsProper ∧ segments = parts.entries.map entry ∧
      draft.Holds parts.entries := by
  obtain ⟨entries, rfl, hvalues, hholds⟩ := Draft.holds_nil.addAll hadd
  simp only [List.nil_append] at hholds
  obtain ⟨method, url, others, rfl⟩ := checkOrder_map_entry_iff.1 horder
  obtain ⟨m, -, hm⟩ := hholds.reads (.http, method) (by simp)
  obtain rfl : method = m.name := hm
  have hnodup := hholds.nodup
  simp only [List.map_cons, List.nodup_cons, List.mem_cons, not_or] at hnodup
  -- What follows has other keywords than the first two segments.
  have hsections : ∃ sections : List (Section × Text),
      others = sections.map fun part => (.json part.1, part.2) := by
    obtain ⟨⟨-, hhttp⟩, hurl, -⟩ := hnodup
    clear * - hhttp hurl
    induction others with
    | nil => exact ⟨[], rfl⟩
    | cons e others ih =>
      simp only [List.map_cons, List.mem_cons, not_or] at hhttp hurl
      obtain ⟨sections, rfl⟩ := ih hhttp.2 hurl.2
      obtain ⟨_ | _ | sec, raw⟩ := e
      · exact absurd rfl hhttp.1
      · exact absurd rfl hurl.1
      · exact ⟨(sec, raw) :: sections, rfl⟩
  obtain ⟨sections, rfl⟩ := hsections
  have hvalue : ∀ e ∈ (Keyword.http, m.name) :: (.url, url) ::
      sections.map (fun part => (Keyword.json part.1, part.2)), Segment.IsProper e.2 := fun e he =>
    isProper_entry_iff.1 ⟨hproper _ (List.mem_map_of_mem he), (hvalues e he).2⟩
  refine ⟨⟨m, url, sections⟩, ⟨hvalue (.url, url) (by simp), ?_, fun part hpart => ?_⟩, rfl, hholds⟩
  · have hjson := hnodup.2.2
    rw [List.map_map] at hjson
    exact List.Nodup.of_map Keyword.json (by simpa [Function.comp_def] using hjson)
  · exact hvalue (.json part.1, part.2) (by simpa using hpart)

/-- A statement is read if and only if it is made from parts that describe what is read. -/
lemma read_eq_ok_iff {statement : Text} {d : Descriptor} :
    read statement = .ok d ↔
      ∃ parts : Parts, parts.IsProper ∧ parts.text = statement ∧ parts.Describes d := by
  constructor
  · intro h
    unfold read at h
    cases hsplit : split statement with
    | error fault => simp [hsplit, bind, Except.bind] at h
    | ok segments =>
      cases horder : checkOrder segments with
      | error fault => simp [hsplit, horder, bind, Except.bind] at h
      | ok _ =>
        cases hadd : Draft.addAll {} segments with
        | error fault => simp [hsplit, horder, hadd, bind, Except.bind] at h
        | ok draft =>
          simp only [hsplit, horder, hadd, bind, Except.bind] at h
          obtain ⟨-, hproper, rfl⟩ := split_eq_ok_iff.1 hsplit
          obtain ⟨parts, hparts, rfl, hholds⟩ := exists_parts_of_addAll hproper horder hadd
          exact ⟨parts, hparts, parts.text_eq_joined, hholds.finish_eq_ok_iff.1 h⟩
  · rintro ⟨parts, hparts, rfl, hd⟩
    have horder : checkOrder (parts.entries.map entry) = .ok () :=
      checkOrder_map_entry_iff.2 ⟨_, _, _, rfl⟩
    obtain ⟨draft, hadd, hholds⟩ := Draft.holds_nil.exists_addAll parts.entries
      (by simpa using hparts.nodup_entries) fun e he => by
        refine ⟨(hparts.entries e he).ne_nil, (hparts.entries e he).head?_ne, ?_⟩
        simp only [Parts.entries, List.mem_cons, List.mem_map] at he
        rcases he with rfl | rfl | ⟨part, hpart, rfl⟩
        · exact ⟨parts.method, rfl⟩
        · exact trivial
        · exact ⟨_, hd.object part hpart⟩
    simp only [read, Parts.split_text hparts, horder, hadd, bind, Except.bind]
    exact hholds.finish_eq_ok_iff.2 hd

/-- An object that parts describe is empty or what a text denotes. -/
lemma Parts.Describes.object_eq_nil_or {d : Descriptor} (h : parts.Describes d) (sec : Section) :
    d.object sec = [] ∨ ∃ raw, sec.decode raw = .ok (d.object sec) := by
  by_cases hsec : sec ∈ parts.sections.map (·.1)
  · obtain ⟨part, hpart, rfl⟩ := List.mem_map.1 hsec
    exact .inr ⟨_, h.object part hpart⟩
  · exact .inl (h.absent sec hsec)

/-- The objects that parts describe can be encoded. -/
lemma Parts.Describes.isEncodable {d : Descriptor} (h : parts.Describes d) (sec : Section) :
    (Json.object (d.object sec)).isEncodable = true := by
  rcases h.object_eq_nil_or sec with hnil | ⟨raw, hraw⟩
  · rw [hnil]
    rfl
  · exact (decode_eq_ok_iff.1 hraw).2

/-- The full URL that parts describe starts with their URL, and what follows is plain. -/
lemma Parts.Describes.exists_fullUrl {d : Descriptor} (h : parts.Describes d) :
    ∃ added, d.fullUrl = parts.url ++ added ∧ added.IsPlain := by
  obtain ⟨added, hfull, hsymbols⟩ := Query.addTo_eq_ok parts.url (h.isEncodable .query)
  exact ⟨added, Except.ok.inj (h.fullUrl.symm.trans hfull),
    Query.isPlain_of_forall_isSymbol hsymbols⟩

/-- What is reported about a statement whose URL holds a surrogate. -/
def urlReports : List Report :=
  [(Text.ofString "full_url", .notUnicode), (Text.ofString "url", .notUnicode)]

/-- Both URLs are reported, in the order of the fields' names. -/
lemma sortReports_urls : Descriptor.sortReports
    [(Text.ofString "url", .notUnicode), (Text.ofString "full_url", .notUnicode)] = urlReports := by
  have hle : Text.le (Text.ofString "url") (Text.ofString "full_url") = false := by decide
  simp [Descriptor.sortReports, List.mergeSort, hle, urlReports]

/-- A descriptor that is described by parts is checked for surrogates in its URL. -/
lemma Parts.Describes.check_eq {d : Descriptor} (h : parts.Describes d) (hparts : parts.IsProper) :
    d.check = if Text.hasSurrogate parts.url then .error urlReports else .ok d := by
  obtain ⟨added, hfull, hplain⟩ := h.exists_fullUrl
  have hne := hparts.url.ne_nil
  have hproblem : ∀ t : Text, t ≠ [] → Text.hasSurrogate t = Text.hasSurrogate parts.url →
      Descriptor.textProblem? t =
        if Text.hasSurrogate parts.url then some .notUnicode else none := by
    intro t ht hsurrogate
    simp [Descriptor.textProblem?, hsurrogate, ht]
  unfold Descriptor.check
  rw [hproblem d.url (by rwa [h.url]) (by rw [h.url]),
    hproblem d.fullUrl (by simp [hfull, hne]) (by simp [hfull, hplain.hasSurrogate])]
  cases Text.hasSurrogate parts.url with
  | true => exact congrArg Except.error sortReports_urls
  | false => rfl

lemma parse_of_read_eq_ok {statement : Text} {d : Descriptor} (h : read statement = .ok d) :
    ∃ parts : Parts, parts.IsProper ∧ parts.text = statement ∧ parts.Describes d ∧
      parse (some statement) =
        if Text.hasSurrogate parts.url then .error (.invalid urlReports) else .ok d := by
  obtain ⟨parts, hparts, htext, hd⟩ := read_eq_ok_iff.1 h
  refine ⟨parts, hparts, htext, hd, ?_⟩
  simp only [parse, h, hd.check_eq hparts]
  by_cases hsurrogate : Text.hasSurrogate parts.url = true <;> simp [hsurrogate]

lemma parse_of_read_eq_error {statement : Text} {fault : Fault}
    (h : read statement = .error fault) : parse (some statement) = .error (.fault fault) := by
  simp only [parse, h]

lemma parse_eq_ok_iff {statement : Text} {d : Descriptor} :
    parse (some statement) = .ok d ↔
      ∃ parts : Parts, parts.IsProper ∧ Text.hasSurrogate parts.url = false ∧
        parts.text = statement ∧ parts.Describes d := by
  constructor
  · intro h
    cases hread : read statement with
    | error fault => simp [parse_of_read_eq_error hread] at h
    | ok d' =>
      obtain ⟨parts, hparts, htext, hd, hparse⟩ := parse_of_read_eq_ok hread
      rw [hparse] at h
      split at h
      · simp at h
      · next hsurrogate =>
        obtain rfl := Except.ok.inj h
        exact ⟨parts, hparts, by simpa using hsurrogate, htext, hd⟩
  · rintro ⟨parts, hparts, hsurrogate, htext, hd⟩
    obtain ⟨parts', hparts', htext', -, hparse⟩ :=
      parse_of_read_eq_ok (read_eq_ok_iff.2 ⟨parts, hparts, htext, hd⟩)
    obtain rfl := Parts.text_injOn hparts hparts' (htext.trans htext'.symm)
    simpa [hsurrogate] using hparse

/-- A statement is accepted if it can be read and its URL holds no surrogate. -/
lemma parse_eq_ok_iff_read {statement : Text} {d : Descriptor} : parse (some statement) = .ok d ↔
    read statement = .ok d ∧ Text.hasSurrogate d.url = false := by
  rw [parse_eq_ok_iff, read_eq_ok_iff]
  constructor
  · rintro ⟨parts, hparts, hurl, htext, hd⟩
    rw [← hd.url] at hurl
    exact ⟨⟨parts, hparts, htext, hd⟩, hurl⟩
  · rintro ⟨⟨parts, hparts, htext, hd⟩, hurl⟩
    rw [hd.url] at hurl
    exact ⟨parts, hparts, hurl, htext, hd⟩

/-- **A statement is accepted if and only if it follows the grammar**, and it can be read in one way
only. -/
theorem parse_iff_unique_parts (statement : Text) (d : Descriptor) :
    (parse (some statement) = .ok d ↔
      ∃ parts : Parts, parts.IsProper ∧ Text.hasSurrogate parts.url = false ∧
        parts.text = statement ∧ parts.Describes d) ∧
    ∀ parts parts' : Parts, parts.IsProper → parts'.IsProper → parts.text = statement →
      parts'.text = statement → parts = parts' :=
  ⟨parse_eq_ok_iff, fun _ _ hparts hparts' htext htext' =>
    Parts.text_injOn hparts hparts' (htext.trans htext'.symm)⟩

/-! ## The sections of a statement -/

section

variable {statement : Text} {d : Descriptor}

/-- A section of a statement that is accepted is empty or what a text denotes. -/
lemma object_eq_nil_or_of_parse (h : parse (some statement) = .ok d) (sec : Section) :
    d.object sec = [] ∨ ∃ raw, sec.decode raw = .ok (d.object sec) := by
  obtain ⟨parts, -, -, -, hd⟩ := parse_eq_ok_iff.1 h
  exact hd.object_eq_nil_or sec

lemma isEncodable_of_parse (h : parse (some statement) = .ok d) (sec : Section) :
    (Json.object (d.object sec)).isEncodable = true := by
  obtain ⟨parts, -, -, -, hd⟩ := parse_eq_ok_iff.1 h
  exact hd.isEncodable sec

lemma hasSurrogate_fullUrl_of_parse (h : parse (some statement) = .ok d) :
    Text.hasSurrogate d.fullUrl = false := by
  obtain ⟨parts, -, hurl, -, hd⟩ := parse_eq_ok_iff.1 h
  obtain ⟨added, hfull, hplain⟩ := hd.exists_fullUrl
  rw [hfull, Text.hasSurrogate_append, hurl, hplain.hasSurrogate]
  rfl

lemma isRegular_of_parse (h : parse (some statement) = .ok d) (sec : Section) :
    (Json.object (d.object sec)).isRegular = true := by
  rcases object_eq_nil_or_of_parse h sec with hnil | ⟨raw, hraw⟩
  · rw [hnil]
    rfl
  · exact Json.isRegular_of_read? (decode_eq_ok_iff.1 hraw).1

lemma depth_le_of_parse (h : parse (some statement) = .ok d) (sec : Section) :
    (Json.object (d.object sec)).depth ≤ Json.maxNesting := by
  rcases object_eq_nil_or_of_parse h sec with hnil | ⟨raw, hraw⟩
  · rw [hnil]
    decide
  · exact Json.depth_le_of_read? (decode_eq_ok_iff.1 hraw).1

end

end Statement

end Courier
