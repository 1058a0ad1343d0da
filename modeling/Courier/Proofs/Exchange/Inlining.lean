import Courier.Exchange.Execution
import Courier.Proofs.Statement.Grammar
import Mathlib

/-!
# Queries within URLs

The query of a statement is a convenience: a statement says the same if the full URL is written in
place of the URL and the query is left out. What is added to a URL has no pipes and no spaces, so that
the full URL can stand in a statement, and a URL to which no query is added stays as it is.
-/

namespace Courier

namespace Statement

open Segment

/-- The segments of a statement with another URL and without a query. -/
def inlined (url : Text) (segments : List Text) : List Text :=
  (segments.filter fun segment => ¬Opens (.json .query) segment).map fun segment =>
    if Opens .url segment then entry (.url, url) else segment

namespace Parts

variable {parts : Parts} {d : Descriptor}

/-- The parts with another URL and without a query. -/
def inlined (parts : Parts) (url : Text) : Parts :=
  { parts with url, sections := parts.sections.filter fun part => part.1 ≠ .query }

lemma inlined_map_entry (parts : Parts) (url : Text) :
    Statement.inlined url (parts.entries.map entry) = (parts.inlined url).entries.map entry := by
  simp [Statement.inlined, Parts.inlined, Parts.entries, opens_entry_iff, List.filter_map,
    Function.comp_def]

/-- The full URL can stand in a statement. -/
lemma Describes.isProper_fullUrl (hd : parts.Describes d) (hparts : parts.IsProper) :
    Segment.IsProper d.fullUrl := by
  obtain ⟨added, hfull, hsymbols⟩ := Query.addTo_eq_ok parts.url (hd.isEncodable .query)
  have hadded : d.fullUrl = parts.url ++ added := Except.ok.inj (hd.fullUrl.symm.trans hfull)
  have hpipe : pipe ∉ added := by
    intro hmem
    exact absurd (hsymbols _ hmem) (by decide)
  have hspace : space ∉ added := by
    intro hmem
    exact absurd (hsymbols _ hmem) (by decide)
  rw [hadded]
  exact hparts.url.append hpipe hspace

lemma IsProper.inlined (hparts : parts.IsProper) {url : Text} (hurl : Segment.IsProper url) :
    (parts.inlined url).IsProper := by
  refine ⟨hurl, hparts.nodup.sublist (List.filter_sublist.map _), ?_⟩
  intro part hpart
  exact hparts.sections part (List.mem_of_mem_filter hpart)

/-- Without the query, the other sections are what they were. -/
lemma Describes.inlined (hd : parts.Describes d) :
    (parts.inlined d.fullUrl).Describes { d with url := d.fullUrl, query := [] } := by
  refine ⟨hd.method, rfl, ?_, ?_, rfl⟩
  · intro part hpart
    obtain ⟨hmem, hne⟩ := List.mem_filter.1 hpart
    have hobject := hd.object part hmem
    obtain ⟨_ | _ | _, raw⟩ := part
    · exact hobject
    · simp at hne
    · exact hobject
  · intro sec hsec
    have habsent : sec ≠ .query → d.object sec = [] := by
      intro hne
      refine hd.absent sec fun hmem => hsec ?_
      obtain ⟨part, hpart, rfl⟩ := List.mem_map.1 hmem
      exact List.mem_map_of_mem (List.mem_filter.2 ⟨hpart, by simpa using hne⟩)
    rcases sec with _ | _ | _
    · exact habsent (by simp)
    · rfl
    · exact habsent (by simp)

end Parts

section

variable {statement : Text} {d : Descriptor}

/-- **A query can always be written into the URL.** The statement with the full URL in place of the URL
and without the query is accepted; it describes the same request, but for the way in which the URL is
given, and to execute it is to make the same call, with the same outcome, in every world. -/
theorem parse_inlined (hparse : parse (some statement) = .ok d) :
    ∃ segments d', split statement = .ok segments ∧
      parse (some (joined (inlined d.fullUrl segments))) = .ok d' ∧
      d'.method = d.method ∧ d'.headers = d.headers ∧ d'.body = d.body ∧
      d'.fullUrl = d.fullUrl ∧ d'.query = [] ∧ ∀ w, execute w d' = execute w d := by
  have hurl := hasSurrogate_fullUrl_of_parse hparse
  obtain ⟨parts, hparts, -, rfl, hd⟩ := parse_eq_ok_iff.1 hparse
  have hproper := hparts.inlined (hd.isProper_fullUrl hparts)
  have haccepted : parse (some (joined (inlined d.fullUrl (parts.entries.map entry)))) =
      .ok { d with url := d.fullUrl, query := [] } := by
    rw [Parts.inlined_map_entry, ← Parts.text_eq_joined]
    exact parse_eq_ok_iff.2 ⟨_, hproper, hurl, rfl, hd.inlined⟩
  exact ⟨_, _, Parts.split_text hparts, haccepted, rfl, rfl, rfl, rfl, rfl, fun _ => rfl⟩

/-- The text of the query is full of pipes and blanks, and the URL has a query already. -/
theorem parse_inlined_pipe :
    let first := Text.ofString "HTTP GET"
    let headers := Text.ofString "HEADERS \x7b\"h\":1\x7d"
    let query := Text.ofString "QUERY \x7b\"q\":\"ü \\u007c \", \"\\u007c\":[0]\x7d"
    let fullUrl := Text.ofString "http://a/?x&q=%C3%BC%20%7C%20&%7C=%5B0%5D"
    let d : Descriptor := ⟨.get, "http://a/?x", [("h", .int 1)],
      [("q", .string "ü | "), ("|", .array [.int 0])], [], fullUrl⟩
    parse (some (joined [first, "URL http://a/?x", query, headers])) = .ok d ∧
      ∃ d', parse (some (joined [first, "URL " ++ fullUrl, headers])) = .ok d' ∧
        d'.method = d.method ∧ d'.headers = d.headers ∧ d'.body = d.body ∧
          d'.fullUrl = d.fullUrl ∧ d'.query = [] ∧ ∀ w, execute w d' = execute w d := by
  intro first headers query fullUrl d
  have hparse : parse (some (joined [first, "URL http://a/?x", query, headers])) = .ok d := by
    simp only [first, query, headers, fullUrl, d]
    cbv
  have hproper : ∀ segment ∈ [first, "URL http://a/?x", query, headers], IsProper segment := by
    decide
  obtain ⟨segments, d', hsplit, hinlined⟩ := parse_inlined hparse
  rw [split_eq_ok_iff.2 ⟨List.cons_ne_nil _ _, hproper, rfl⟩] at hsplit
  cases hsplit
  exact ⟨hparse, d', hinlined⟩

end

end Statement

end Courier
