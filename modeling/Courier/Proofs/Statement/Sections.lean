import Courier.Proofs.Statement.Refusal
import Mathlib

/-!
# Sections are independent

Every section of a statement is read on its own. So any of them can be left out, and what is left can
be written in any order: the result is a statement that is accepted if the first one was, and the
sections that are left say what they said. The order may decide which fault is reported, but not
whether one is.
-/

namespace Courier

namespace Descriptor

/-- A descriptor with some of the sections only, and with the full URL that is left then. -/
def restrict (d : Descriptor) (left : List Section) (fullUrl : Text) : Descriptor where
  method := d.method
  url := d.url
  headers := if .headers ∈ left then d.headers else []
  query := if .query ∈ left then d.query else []
  body := if .body ∈ left then d.body else []
  fullUrl

lemma object_restrict (d : Descriptor) (left : List Section) (fullUrl : Text) (sec : Section) :
    (d.restrict left fullUrl).object sec = if sec ∈ left then d.object sec else [] := by
  rcases sec with _ | _ | _ <;> rfl

end Descriptor

namespace Statement

open Segment

namespace Parts

variable {parts : Parts} {kept : List (Section × Text)} {d : Descriptor}

lemma IsProper.of_subperm (h : parts.IsProper) (hkept : kept.Subperm parts.sections) :
    ({ parts with sections := kept } : Parts).IsProper := by
  refine ⟨h.url, ?_, fun part hpart => h.sections part (hkept.subset hpart)⟩
  obtain ⟨sections, hperm, hsublist⟩ := hkept
  exact (hperm.map (·.1)).nodup_iff.1 (h.nodup.sublist (hsublist.map (·.1)))

/-- The parts that are left describe the sections that are left. -/
lemma Describes.exists_restrict (hd : parts.Describes d) (hkept : kept.Subperm parts.sections) :
    ∃ fullUrl, ({ parts with sections := kept } : Parts).Describes
      (d.restrict (kept.map (·.1)) fullUrl) := by
  have hencodable : (Json.object ((d.restrict (kept.map (·.1)) []).object .query)).isEncodable =
      true := by
    rw [Descriptor.object_restrict]
    split
    · exact hd.isEncodable .query
    · rfl
  obtain ⟨added, hfull, -⟩ := Query.addTo_eq_ok parts.url hencodable
  refine ⟨parts.url ++ added, hd.method, hd.url, ?_, ?_, hfull⟩
  · intro part hpart
    rw [Descriptor.object_restrict, if_pos (List.mem_map_of_mem hpart)]
    exact hd.object part (hkept.subset hpart)
  · intro sec hsec
    rw [Descriptor.object_restrict, if_neg hsec]

end Parts

/-- Segments that are left of those of sections are the ones of sections that are left. -/
lemma exists_sections_of_subperm {sections : List (Section × Text)} {kept : List Text}
    (h : kept.Subperm (sections.map fun part => entry (.json part.1, part.2))) :
    ∃ left : List (Section × Text), left.Subperm sections ∧
      kept = left.map fun part => entry (.json part.1, part.2) := by
  have hinjective : Function.Injective fun part : Section × Text =>
      entry (.json part.1, part.2) := by
    rintro ⟨sec, raw⟩ ⟨sec', raw'⟩ heq
    simpa using entry_injective heq
  have hrange : kept ∈ Set.range (List.map fun part : Section × Text =>
      entry (.json part.1, part.2)) := by
    rw [Set.range_list_map]
    intro segment hsegment
    obtain ⟨part, -, hpart⟩ := List.mem_map.1 (h.subset hsegment)
    exact ⟨part, hpart⟩
  obtain ⟨left, rfl⟩ := hrange
  exact ⟨left, (List.map_subperm_map_iff hinjective).1 h, rfl⟩

/-- The sections that are left are those that the segments open. -/
lemma uses_json_iff {left : List (Section × Text)} {sec : Section} :
    Uses (left.map fun part => entry (.json part.1, part.2)) (.json sec) ↔
      sec ∈ left.map (·.1) := by
  have h : Uses ((left.map fun part => (Keyword.json part.1, part.2)).map entry) (.json sec) ↔ _ :=
    uses_map_entry_iff
  simpa [Function.comp_def] using h

/-- What a descriptor says if only some segments of the sections of another one are left. -/
structure Restricts (kept : List Text) (d d' : Descriptor) : Prop where
  method : d'.method = d.method
  url : d'.url = d.url
  object : ∀ sec, Uses kept (.json sec) → d'.object sec = d.object sec
  absent : ∀ sec, ¬Uses kept (.json sec) → d'.object sec = []
  fullUrl : Query.addTo d'.url d'.query = .ok d'.fullUrl

section

variable {first second : Text} {sections kept : List Text} {d : Descriptor}

/-- The segments that are left are read as before. -/
lemma exists_read_of_subperm (hproper : ∀ segment ∈ first :: second :: sections, IsProper segment)
    (hread : read (joined (first :: second :: sections)) = .ok d) (hkept : kept.Subperm sections) :
    ∃ d', read (joined (first :: second :: kept)) = .ok d' ∧ Restricts kept d d' := by
  obtain ⟨parts, hparts, htext, hd⟩ := read_eq_ok_iff.1 hread
  -- The segments are those of the parts, as there is only one way to split a statement.
  have hsegments : first :: second :: sections = parts.entries.map entry := by
    have hsplit := split_eq_ok_iff.2 ⟨List.cons_ne_nil _ _, hproper, rfl⟩
    rw [← htext, Parts.split_text hparts] at hsplit
    exact (Except.ok.inj hsplit).symm
  rw [Parts.map_entry_entries, List.cons.injEq, List.cons.injEq] at hsegments
  obtain ⟨rfl, rfl, rfl⟩ := hsegments
  obtain ⟨left, hleft, rfl⟩ := exists_sections_of_subperm hkept
  obtain ⟨fullUrl, hd'⟩ := hd.exists_restrict hleft
  refine ⟨_, read_eq_ok_iff.2 ⟨_, hparts.of_subperm hleft, ?_, hd'⟩, rfl, rfl, ?_, ?_, ?_⟩
  · rw [Parts.text_eq_joined, Parts.map_entry_entries]
  · intro sec huses
    rw [Descriptor.object_restrict, if_pos (uses_json_iff.1 huses)]
  · intro sec huses
    exact hd'.absent sec fun hmem => huses (uses_json_iff.2 hmem)
  · rw [hd'.url]
    exact hd'.fullUrl

/-- Sections that are refused are refused in any order. -/
lemma exists_read_eq_error_of_perm
    (hproper : ∀ segment ∈ first :: second :: sections, IsProper segment)
    (hperm : kept.Perm sections) {fault : Fault}
    (hread : read (joined (first :: second :: sections)) = .error fault) :
    ∃ fault', read (joined (first :: second :: kept)) = .error fault' := by
  cases hkept : read (joined (first :: second :: kept)) with
  | error fault' => exact ⟨fault', rfl⟩
  | ok d =>
    have hproper' : ∀ segment ∈ first :: second :: kept, IsProper segment := by
      intro segment hsegment
      exact hproper segment (((hperm.cons second).cons first).mem_iff.1 hsegment)
    obtain ⟨d', hd', -⟩ := exists_read_of_subperm hproper' hkept hperm.symm.subperm
    rw [hread] at hd'
    cases hd'

lemma read_eq_error_of_parse {statement : Text} {fault : Fault}
    (h : parse (some statement) = .error (.fault fault)) : read statement = .error fault :=
  read_eq_error_iff_refused.2 (parse_eq_fault_iff_refused.1 h)

end

/-- **Sections are independent, and their order is irrelevant.** From a statement that is accepted any
sections can be left out, and the others can be written in any order: it is still accepted, and each
section that is left says what it said. A statement that is refused for a fault is refused for a fault in
any order of its sections. -/
theorem parse_joined_of_subperm :
    (∀ statement d, parse (some statement) = .ok d →
      ∃ first second sections, split statement = .ok (first :: second :: sections) ∧
        ∀ kept : List Text, kept.Subperm sections →
          ∃ d', parse (some (joined (first :: second :: kept))) = .ok d' ∧ Restricts kept d d') ∧
    ∀ first second (sections permuted : List Text) fault,
      (∀ segment ∈ first :: second :: sections, IsProper segment) → permuted.Perm sections →
        parse (some (joined (first :: second :: sections))) = .error (.fault fault) →
          ∃ fault', parse (some (joined (first :: second :: permuted))) = .error (.fault fault') := by
  constructor
  · intro statement d hparse
    obtain ⟨hread, hurl⟩ := parse_eq_ok_iff_read.1 hparse
    obtain ⟨parts, hparts, rfl, -⟩ := read_eq_ok_iff.1 hread
    have hsplit := Parts.split_text hparts
    obtain ⟨-, hproper, htext⟩ := split_eq_ok_iff.1 hsplit
    rw [Parts.map_entry_entries] at hsplit hproper htext
    refine ⟨_, _, _, hsplit, ?_⟩
    intro kept hkept
    rw [htext] at hread
    obtain ⟨d', hread', hrestricts⟩ := exists_read_of_subperm hproper hread hkept
    rw [← hrestricts.url] at hurl
    exact ⟨d', parse_eq_ok_iff_read.2 ⟨hread', hurl⟩, hrestricts⟩
  · intro first second sections permuted fault hproper hperm hparse
    have hread := read_eq_error_of_parse hparse
    obtain ⟨fault', hread'⟩ := exists_read_eq_error_of_perm hproper hperm hread
    exact ⟨fault', parse_of_read_eq_error hread'⟩

/-- The query is left out, and the body is put first. Two sections with faults are refused in both
orders, and the one that comes first decides the fault. -/
theorem parse_joined_of_subperm_reordered :
    let first := Text.ofString "HTTP GET"
    let second := Text.ofString "URL http://a/?x"
    let headers := Text.ofString "HEADERS \x7b\"h\":1\x7d"
    let query := Text.ofString "QUERY \x7b\"q\":\"ä\"\x7d"
    let body := Text.ofString "BODY \x7b\"b\":[]\x7d"
    let noObject := Text.ofString "BODY 1"
    let noJson := Text.ofString "QUERY x"
    let d : Descriptor := ⟨.get, "http://a/?x", [("h", .int 1)], [("q", .string "ä")],
      [("b", .array [])], "http://a/?x&q=%C3%A4"⟩
    parse (some (joined [first, second, headers, query, body])) = .ok d ∧
      (∃ d', parse (some (joined [first, second, body, headers])) = .ok d' ∧
        Restricts [body, headers] d d') ∧
      parse (some (joined [first, second, noObject, noJson])) =
        .error (.fault (.sectionNotObject .body)) ∧
      ∃ fault, parse (some (joined [first, second, noJson, noObject])) = .error (.fault fault) := by
  intro first second headers query body noObject noJson d
  have hparse : parse (some (joined [first, second, headers, query, body])) = .ok d := by
    simp only [first, second, headers, query, body, d]
    cbv
  have hfault : parse (some (joined [first, second, noObject, noJson])) =
      .error (.fault (.sectionNotObject .body)) := by
    simp only [first, second, noObject, noJson]
    cbv
  have hproper : ∀ segment ∈ [first, second, headers, query, body], IsProper segment := by decide
  have hproper' : ∀ segment ∈ [first, second, noObject, noJson], IsProper segment := by decide
  have hkept : [body, headers].Subperm [headers, query, body] :=
    ⟨[headers, body], .swap body headers [], by simp⟩
  obtain ⟨haccepted, hrefused⟩ := parse_joined_of_subperm
  refine ⟨hparse, ?_, hfault, ?_⟩
  · obtain ⟨first', second', sections, hsplit, hrestricts⟩ := haccepted _ _ hparse
    rw [split_eq_ok_iff.2 ⟨List.cons_ne_nil _ _, hproper, rfl⟩] at hsplit
    cases hsplit
    exact hrestricts _ hkept
  · exact hrefused _ _ _ _ _ hproper' (.swap noObject noJson []) hfault

end Statement

end Courier
