import Courier.Proofs.Json.Written
import Courier.Proofs.Text.Utf8

/-!
# Values with a UTF-8 form

A text has a UTF-8 form unless it holds a surrogate, and a value that is written with its code points
as they are has one unless a key or a string in it holds a surrogate, however deep it stands. For one
direction, all that is written besides the keys and the strings is ASCII; for the other, a surrogate
is never escaped, and nothing around a string takes away from it.
-/

namespace Courier

namespace Text

lemma IsPlain.hasSurrogate {t : Text} (h : t.IsPlain) : hasSurrogate t = false :=
  hasSurrogate_eq_false_iff.2 fun c hc => (h c hc).isSurrogate

/-- Joined texts hold the code points of each of them. -/
lemma mem_join {part : Text} {parts : List Text} (hpart : part ∈ parts) {c : CodePoint}
    (hc : c ∈ part) (separator : Text) : c ∈ join separator parts := by
  cases parts with
  | nil => cases hpart
  | cons first parts =>
    rw [join, List.mem_append]
    rcases List.mem_cons.mp hpart with rfl | hpart
    · exact .inl hc
    · exact .inr (List.mem_flatMap.mpr ⟨part, hpart, List.mem_append_right _ hc⟩)

end Text

namespace Json

/-! ## The texts of a value -/

/-- The texts of a value: its keys and its strings, at every depth. -/
inductive HasText : Json → Text → Prop
  | string (s : Text) : HasText (.string s) s
  | item {items : List Json} {v : Json} {s : Text} (hv : v ∈ items) (h : HasText v s) :
      HasText (.array items) s
  | key {members : List (Text × Json)} {member : Text × Json} (hmember : member ∈ members) :
      HasText (.object members) member.1
  | value {members : List (Text × Json)} {member : Text × Json} {s : Text}
      (hmember : member ∈ members) (h : HasText member.2 s) : HasText (.object members) s

lemma isEncodable_object {members : List (Text × Json)} : (object members).isEncodable = true ↔
    ∀ member ∈ members, Text.hasSurrogate member.1 = false ∧ member.2.isEncodable = true := by
  rw [isEncodable, all, membersAll_eq_true]
  simp

/-- A test of keys and strings is one of the texts of a value. -/
theorem all_iff_forall_hasText {p : Text → Bool} {v : Json} :
    v.all { key := p, string := p } = true ↔ ∀ s, v.HasText s → p s = true := by
  constructor
  · intro h s hs
    induction hs with
    | string s => exact h
    | item hv _ ih => exact ih (itemsAll_eq_true.mp h _ hv)
    | key hmember => exact (membersAll_eq_true.mp h _ hmember).1
    | value hmember _ ih => exact ih (membersAll_eq_true.mp h _ hmember).2
  · intro h
    induction v using Json.induction with
    | null | bool _ | int _ | float _ => rfl
    | string s => exact h s (.string s)
    | array items ih => exact itemsAll_eq_true.mpr fun v hv => ih v hv fun s hs => h s (.item hv hs)
    | object members ih =>
      refine membersAll_eq_true.mpr fun member hmember => ⟨h _ (.key hmember), ?_⟩
      exact ih member hmember fun s hs => h s (.value hmember hs)

/-- A value is encodable if all its texts are. -/
theorem isEncodable_iff {v : Json} :
    v.isEncodable = true ↔ ∀ s, v.HasText s → Text.hasSurrogate s = false := by
  rw [isEncodable, all_iff_forall_hasText]
  simp

/-- A value that can be encoded has keys that can be. -/
lemma hasEncodableKeys_of_isEncodable {v : Json} (h : v.isEncodable = true) :
    v.hasEncodableKeys = true := by
  refine all_mono ?_ ?_ ?_ h
  · intro _ hk
    exact hk
  · intro _ _
    rfl
  · intro _ _
    rfl

/-! ## Writing keeps surrogates -/

lemma writeItems_eq_map (style : Style) (level : Nat) (items : List Json) :
    writeItems style level items = items.map (writeAt style level) := by
  induction items with
  | nil => rfl
  | cons v items ih => rw [writeItems, ih, List.map_cons]

lemma writeMembers_eq_map (style : Style) (level : Nat) (members : List (Text × Json)) :
    writeMembers style level members = members.map fun member =>
      writeString style member.1 ++ Text.ofString style.colon ++ writeAt style level member.2 := by
  induction members with
  | nil => rfl
  | cons member members ih => rw [writeMembers, ih, List.map_cons]

section

variable {style : Style} {c : CodePoint}

lemma mem_bracket {item : Text} {items : List Text} (hitem : item ∈ items) (hc : c ∈ item)
    (level : Nat) (opening closing : CodePoint) :
    c ∈ bracket style level opening closing items := by
  have hjoin := Text.mem_join hitem hc (Text.ofString style.comma ++ style.lineBreak (level + 1))
  unfold bracket
  split
  · cases hitem
  · exact List.mem_append_left _ (List.mem_append_left _ (List.mem_append_right _ hjoin))

/-- A surrogate is written as it is, if the style is not confined to ASCII. -/
lemma mem_writeString (hstyle : style.ascii = false) {s : Text} (hc : c ∈ s)
    (hsurrogate : c.isSurrogate = true) : c ∈ writeString style s := by
  have hlow : 0xD800 ≤ c.toNat := by
    simp only [CodePoint.isSurrogate, Bool.and_eq_true, decide_eq_true_eq] at hsurrogate
    exact hsurrogate.1
  have hquote : c ≠ '"' := by
    rintro rfl
    exact absurd hsurrogate (by decide)
  have hslash : c ≠ '\\' := by
    rintro rfl
    exact absurd hsurrogate (by decide)
  have hself : writeCodePoint style c = [c] := by
    rw [writeCodePoint, if_neg hquote, if_neg hslash, if_neg (by omega), if_neg (by omega),
      if_neg (by omega), if_neg (by omega), if_neg (by omega), if_neg (by omega),
      if_neg (by simp [hstyle])]
  refine List.mem_append_left _ (List.mem_cons_of_mem _ (List.mem_flatMap.mpr ⟨c, hc, ?_⟩))
  rw [hself]
  exact List.mem_singleton_self c

/-- Every surrogate in a text of a value is written. -/
theorem HasText.mem_writeAt (hstyle : style.ascii = false) {v : Json} {s : Text} (h : v.HasText s)
    (hc : c ∈ s) (hsurrogate : c.isSurrogate = true) (level : Nat) : c ∈ writeAt style level v := by
  induction h generalizing level with
  | string s => exact mem_writeString hstyle hc hsurrogate
  | item hv _ ih =>
    rw [writeAt, writeItems_eq_map]
    exact mem_bracket (List.mem_map_of_mem hv) (ih hc (level + 1)) _ _ _
  | key hmember =>
    rw [writeAt, writeMembers_eq_map]
    refine mem_bracket (List.mem_map_of_mem hmember) ?_ _ _ _
    exact List.mem_append_left _ (List.mem_append_left _ (mem_writeString hstyle hc hsurrogate))
  | value hmember _ ih =>
    rw [writeAt, writeMembers_eq_map]
    refine mem_bracket (List.mem_map_of_mem hmember) ?_ _ _ _
    exact List.mem_append_right _ (ih hc (level + 1))

/-- What is written with its code points as they are holds a surrogate if a text of the value
does. -/
theorem hasSurrogate_write (hplain : style.IsPlain) (hstyle : style.ascii = false) (v : Json) :
    Text.hasSurrogate (v.write style) = !v.isEncodable := by
  cases hv : v.isEncodable with
  | true => exact Text.hasSurrogate_eq_false_iff.mpr (isSurrogate_of_mem_write hplain hv)
  | false =>
    have htext : ∃ s, v.HasText s ∧ Text.hasSurrogate s = true := by
      by_contra hnone
      have hall : ∀ s, v.HasText s → Text.hasSurrogate s = false := by
        intro s hs
        by_contra hsurrogate
        exact hnone ⟨s, hs, by simpa using hsurrogate⟩
      rw [isEncodable_iff.mpr hall] at hv
      cases hv
    obtain ⟨s, hs, hsurrogate⟩ := htext
    obtain ⟨c, hc, hsurrogate⟩ := Text.hasSurrogate_eq_true_iff.mp hsurrogate
    exact Text.hasSurrogate_eq_true_iff.mpr ⟨c, hs.mem_writeAt hstyle hc hsurrogate 0, hsurrogate⟩

end

lemma isPlain_spaced : spaced.IsPlain := ⟨by decide, by decide⟩

end Json

end Courier
