import Courier.Json.Bytes
import Courier.Proofs.Json.Derivation
import Courier.Proofs.Json.Writing

/-!
# What is read can be written

The reader gives regular values only: an object has one member for each key, however many the text
has, and integers that are too long to be written are too long to be read as well. Nor does it give
values that are nested too deeply to be read again. Without its infinite numbers such a value is still
regular, so that a text can be written for it from which it is read again.
-/

namespace Courier

namespace Text

lemma length_ofNat_le_iff {n k : Nat} (hk : 0 < k) : (ofNat n).length ≤ k ↔ n < 10 ^ k := by
  rw [ofNat, List.length_map]
  exact Nat.length_toDigits_le_iff (by decide) hk

end Text

namespace Fields

variable {α : Type} {p : Text × α → Prop}

lemma forall_insert {fields : Fields α} (h : ∀ field ∈ fields, p field) {key : Text} {value : α}
    (hnew : p (key, value)) : ∀ field ∈ fields.insert key value, p field := by
  induction fields with
  | nil => simpa [insert] using hnew
  | cons field fields ih =>
    obtain ⟨k, v⟩ := field
    rw [List.forall_mem_cons] at h
    rw [insert]
    split
    · next hk => exact List.forall_mem_cons.mpr ⟨hk ▸ hnew, h.2⟩
    · exact List.forall_mem_cons.mpr ⟨h.1, ih h.2⟩

/-- Fields are among the entries that they are made from. -/
lemma forall_ofEntries {entries : List (Text × α)} (h : ∀ entry ∈ entries, p entry) :
    ∀ field ∈ ofEntries entries, p field :=
  List.foldlRecOn (motive := fun fields : Fields α => ∀ field ∈ fields, p field) entries _
    (by simp) fun _ hfields entry hentry => forall_insert hfields (h entry hentry)

end Fields

namespace Json

/-! ## Regular values -/

lemma itemsRegular_eq_true {items : List Json} :
    itemsRegular items = true ↔ ∀ v ∈ items, v.isRegular = true := by
  induction items with
  | nil => simp [itemsRegular]
  | cons v items ih => rw [itemsRegular, Bool.and_eq_true, ih, List.forall_mem_cons]

lemma membersRegular_eq_true {members : List (Text × Json)} :
    membersRegular members = true ↔ ∀ member ∈ members, member.2.isRegular = true := by
  induction members with
  | nil => simp [membersRegular]
  | cons member members ih => rw [membersRegular, Bool.and_eq_true, ih, List.forall_mem_cons]

lemma isRegular_array {items : List Json} :
    (array items).isRegular = true ↔ ∀ v ∈ items, v.isRegular = true := itemsRegular_eq_true

lemma isRegular_object {members : List (Text × Json)} : (object members).isRegular = true ↔
    (members.map (·.1)).Nodup ∧ ∀ member ∈ members, member.2.isRegular = true := by
  rw [isRegular, Bool.and_eq_true, decide_eq_true_eq, membersRegular_eq_true]

lemma isRegular_int {n : Int} : (int n).isRegular = true ↔ n.natAbs < 10 ^ maxDigits := by
  rw [isRegular, decide_eq_true_eq, Text.length_ofNat_le_iff (by decide)]

/-! ## Depth -/

lemma itemsDepth_le_iff {items : List Json} {n : Nat} :
    itemsDepth items ≤ n ↔ ∀ v ∈ items, v.depth ≤ n := by
  induction items with
  | nil => simp [itemsDepth]
  | cons v items ih =>
    have hmax : itemsDepth (v :: items) ≤ n ↔ v.depth ≤ n ∧ itemsDepth items ≤ n := Nat.max_le
    rw [hmax, ih, List.forall_mem_cons]

/-- The members of an object are as deep as the array of their values. -/
lemma membersDepth_eq (members : List (Text × Json)) :
    membersDepth members = itemsDepth (members.map (·.2)) := by
  induction members with
  | nil => rfl
  | cons member members ih =>
    show Nat.max member.2.depth (membersDepth members) = _
    rw [ih]
    rfl

lemma depth_object_le_iff {members : List (Text × Json)} {n : Nat} :
    (object members).depth ≤ n + 1 ↔ ∀ member ∈ members, member.2.depth ≤ n := by
  have hdepth : (object members).depth = membersDepth members + 1 := rfl
  rw [hdepth, Nat.add_le_add_iff_right, membersDepth_eq, itemsDepth_le_iff, List.forall_mem_map]

/-! ## Values that are read -/

section

variable {dialect : Dialect} {t : Text} {v : Json}

lemma isRegular_of_toJson? {n : Numeral} (hn : n.IsProper) (h : n.toJson? = some v) :
    v.isRegular = true := by
  rcases Numeral.eq_of_toJson? h with ⟨i, rfl, hi, hlength⟩ | ⟨x, rfl⟩
  · rw [isRegular_int, hi]
    have hlt := Text.digitsValue_lt hn.whole.isDigit
    exact Nat.lt_of_lt_of_le hlt (Nat.pow_le_pow_right (by decide) hlength)
  · rfl

/-- A value with a text is regular: of the members with one key one is left. -/
lemma IsValue.isRegular {nesting : Nat} (h : IsValue dialect nesting t v) : v.isRegular = true := by
  refine IsValue.of_forall_form (p := fun _ v => v.isRegular = true) ?_ h
  intro t v hform
  cases hform with
  | word hw =>
    have hwords : ∀ word ∈ words .lenient, word.2.isRegular = true := by
      simp [words, plainWords, constants, Json.isRegular]
    exact hwords _ (words_subset dialect hw)
  | number hn _ hv => exact isRegular_of_toJson? hn hv
  | string _ => rfl
  | array hlist => exact isRegular_array.mpr hlist.forall_items
  | object hlist =>
    refine isRegular_object.mpr ⟨Fields.nodup_keys_ofEntries _, Fields.forall_ofEntries ?_⟩
    refine Listed.forall_items (hlist.mono ?_)
    rintro t member ⟨-, -, -, hv⟩
    exact hv

lemma depth_of_word {w : String} (h : (w, v) ∈ words dialect) : v.depth = 0 := by
  have hwords : ∀ word ∈ words .lenient, word.2.depth = 0 := by
    simp [words, plainWords, constants, depth]
  exact hwords _ (words_subset dialect h)

lemma depth_of_toJson? {n : Numeral} (h : n.toJson? = some v) : v.depth = 0 := by
  rcases Numeral.eq_of_toJson? h with ⟨i, rfl, -⟩ | ⟨x, rfl⟩ <;> rfl

/-- The nesting that is allowed bounds the depth. -/
lemma IsValue.depth_le {nesting : Nat} (h : IsValue dialect nesting t v) : v.depth ≤ nesting := by
  induction nesting generalizing t v with
  | zero =>
    cases h with
    | word hw => exact Nat.le_of_eq (depth_of_word hw)
    | number _ _ hv => exact Nat.le_of_eq (depth_of_toJson? hv)
    | string _ => exact Nat.le_refl 0
  | succ nesting ih =>
    cases h with
    | word hw => exact depth_of_word hw ▸ Nat.zero_le _
    | number _ _ hv => exact depth_of_toJson? hv ▸ Nat.zero_le _
    | string _ => exact Nat.zero_le _
    | array hlist =>
      refine Nat.add_le_add_right (itemsDepth_le_iff.mpr ?_) 1
      exact Listed.forall_items (hlist.mono fun _ _ => ih)
    | object hlist =>
      refine depth_object_le_iff.mpr (Fields.forall_ofEntries ?_)
      refine Listed.forall_items (hlist.mono ?_)
      rintro t member ⟨-, -, -, hv⟩
      exact ih hv

/-- A value that is read is regular. -/
theorem isRegular_of_read? (h : read? dialect t = some v) : v.isRegular = true := by
  obtain ⟨a, w, b, -, -, -, hw⟩ := isText_of_read? h
  exact hw.isRegular

/-- A value that is read is nested no deeper than values are read. -/
theorem depth_le_of_read? (h : read? dialect t = some v) : v.depth ≤ maxNesting := by
  obtain ⟨a, w, b, -, -, -, hw⟩ := isText_of_read? h
  exact hw.depth_le

end

lemma isRegular_of_ofBytes? {bytes : List UInt8} {v : Json} (h : ofBytes? bytes = some v) :
    v.isRegular = true := by
  obtain ⟨t, -, hread⟩ := Option.bind_eq_some_iff.mp h
  exact isRegular_of_read? hread

/-! ## Values without infinite numbers -/

lemma itemsWithoutInfinities_eq_map (items : List Json) :
    itemsWithoutInfinities items = items.map withoutInfinities := by
  induction items with
  | nil => rfl
  | cons v items ih => rw [itemsWithoutInfinities, ih, List.map_cons]

lemma membersWithoutInfinities_eq_map (members : List (Text × Json)) :
    membersWithoutInfinities members =
      members.map fun member => (member.1, member.2.withoutInfinities) := by
  induction members with
  | nil => rfl
  | cons member members ih => rw [membersWithoutInfinities, ih, List.map_cons]

lemma isFinite_array {items : List Json} :
    (array items).isFinite = true ↔ ∀ v ∈ items, v.isFinite = true := itemsAll_eq_true

lemma isFinite_object {members : List (Text × Json)} :
    (object members).isFinite = true ↔ ∀ member ∈ members, member.2.isFinite = true := by
  rw [isFinite, all, membersAll_eq_true]
  simp

/-- Nothing but numbers is left out of a value. -/
theorem isRegular_withoutInfinities (v : Json) (h : v.isRegular = true) :
    v.withoutInfinities.isRegular = true := by
  induction v using Json.induction with
  | null | bool _ | int _ | string _ => exact h
  | float x =>
    rw [withoutInfinities]
    split <;> rfl
  | array items ih =>
    rw [isRegular_array] at h
    rw [withoutInfinities, itemsWithoutInfinities_eq_map, isRegular_array, List.forall_mem_map]
    exact fun v hv => ih v hv (h v hv)
  | object members ih =>
    rw [isRegular_object] at h
    rw [withoutInfinities, membersWithoutInfinities_eq_map, isRegular_object, List.map_map,
      List.forall_mem_map]
    exact ⟨h.1, fun member hmember => ih member hmember (h.2 member hmember)⟩

theorem isFinite_withoutInfinities (v : Json) : v.withoutInfinities.isFinite = true := by
  induction v using Json.induction with
  | null | bool _ | int _ | string _ => rfl
  | float x =>
    rw [withoutInfinities]
    split
    · assumption
    · rfl
  | array items ih =>
    rw [withoutInfinities, itemsWithoutInfinities_eq_map, isFinite_array, List.forall_mem_map]
    exact ih
  | object members ih =>
    rw [withoutInfinities, membersWithoutInfinities_eq_map, isFinite_object, List.forall_mem_map]
    exact ih

theorem depth_withoutInfinities (v : Json) : v.withoutInfinities.depth = v.depth := by
  have hitems : ∀ items : List Json, (∀ v ∈ items, v.withoutInfinities.depth = v.depth) →
      itemsDepth (items.map withoutInfinities) = itemsDepth items := by
    intro items h
    refine eq_of_forall_ge_iff fun n => ?_
    rw [itemsDepth_le_iff, itemsDepth_le_iff, List.forall_mem_map]
    exact forall₂_congr fun v hv => by rw [h v hv]
  induction v using Json.induction with
  | null | bool _ | int _ | string _ => rfl
  | float x =>
    rw [withoutInfinities]
    split <;> rfl
  | array items ih => rw [withoutInfinities, itemsWithoutInfinities_eq_map, depth, depth, hitems items ih]
  | object members ih =>
    have hvalues := hitems (members.map (·.2)) (List.forall_mem_map.mpr ih)
    rw [List.map_map] at hvalues
    rw [withoutInfinities, membersWithoutInfinities_eq_map, depth, depth, membersDepth_eq,
      membersDepth_eq, List.map_map, ← hvalues]
    rfl

/-- A value is the same without its infinite numbers if it has none. -/
theorem withoutInfinities_eq_self_iff {v : Json} :
    v.withoutInfinities = v ↔ v.isFinite = true := by
  constructor
  · intro h
    rw [← h]
    exact isFinite_withoutInfinities v
  · intro h
    induction v using Json.induction with
    | null | bool _ | int _ | string _ => rfl
    | float x => exact if_pos h
    | array items ih =>
      rw [isFinite_array] at h
      rw [withoutInfinities, itemsWithoutInfinities_eq_map, List.map_congr_left (g := id), List.map_id]
      exact fun v hv => ih v hv (h v hv)
    | object members ih =>
      rw [isFinite_object] at h
      rw [withoutInfinities, membersWithoutInfinities_eq_map, List.map_congr_left (g := id),
        List.map_id]
      exact fun member hmember => Prod.ext rfl (ih member hmember (h member hmember))

/-! ## Values that are read back -/

lemma isBlank_singleton {c : CodePoint} (h : c.isJsonBlank = true) : IsBlank [c] := by
  intro d hd
  rwa [List.mem_singleton.mp hd]

lemma isJson_indented : indented.IsJson :=
  ⟨⟨[], isBlank_nil, rfl⟩, ⟨[], _, isBlank_nil, isBlank_singleton (by decide), rfl⟩⟩

/-- Reading undoes writing, also if blanks were added at the end. -/
theorem read?_write_append {style : Style} {test : Test} {dialect : Dialect}
    (hstyle : style.IsJson) (hkeeps : style.Keeps test) {v : Json} (htest : v.all test = true)
    (hregular : v.isRegular = true) (hdepth : v.depth ≤ maxNesting) {b : Text} (hb : IsBlank b) :
    read? dialect (v.write style ++ b) = some v := by
  apply read?_eq_some
  refine ⟨[], v.write style, b, rfl, isBlank_nil, hb, ?_⟩
  exact isValue_writeAt hstyle hkeeps 0 v maxNesting htest hregular hdepth

end Json

end Courier
