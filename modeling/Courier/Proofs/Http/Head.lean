import Courier.Http.Server
import Courier.Proofs.Http.Framing
import Courier.Proofs.Text.Words
import Mathlib.Data.List.Forall2

/-!
# What a head says

The first line of a head consists of three words, the last of which begins with the name of the
protocol; every other line is empty or has a colon, with the name of a header before it and a value
after it. A head declares the length of a body if its last value for that is a number that is not too
long and if it does not ask for another way to tell where the body ends. A head that says less than
that is malformed, in one of five ways.
-/

namespace Courier

namespace Fields

variable {α : Type}

/-- The last value of a key in a list of entries. -/
def lastValue? (entries : List (Text × α)) (key : Text) : Option α :=
  ((entries.filter fun entry => entry.1 = key).getLast?).map (·.2)

lemma get?_foldl_insert (entries : List (Text × α)) (key : Text) : ∀ fields : Fields α,
    Fields.get? (entries.foldl (fun fields entry => insert fields entry.1 entry.2) fields) key =
      (lastValue? entries key).or (fields.get? key) := by
  induction entries with
  | nil =>
    intro fields
    rfl
  | cons entry entries ih =>
    intro fields
    rw [List.foldl_cons, ih, get?_insert]
    by_cases h : entry.1 = key
    · -- The entry counts unless there is a later one.
      have hlast : lastValue? (entry :: entries) key =
          some ((lastValue? entries key).getD entry.2) := by
        simp [lastValue?, h, List.getLast?_cons, Option.getD_map]
      rw [hlast, if_pos h]
      cases lastValue? entries key <;> rfl
    · have hlast : lastValue? (entry :: entries) key = lastValue? entries key := by
        simp [lastValue?, h]
      rw [hlast, if_neg h]

/-- Of a repeated key the last value counts. -/
lemma get?_ofEntries (entries : List (Text × α)) (key : Text) :
    (ofEntries entries).get? key = lastValue? entries key := by
  have hfold := get?_foldl_insert entries key []
  have hnil : get? ([] : Fields α) key = none := rfl
  rw [hnil, Option.or_none] at hfold
  exact hfold

lemma isSome_lastValue?_iff {entries : List (Text × α)} {key : Text} :
    (lastValue? entries key).isSome = true ↔ key ∈ entries.map (·.1) := by
  rw [lastValue?, Option.isSome_map, List.getLast?_isSome, ne_eq, List.filter_eq_nil_iff,
    List.mem_map]
  simp

/-- The last entry counts for its key, and the others for all other keys. -/
lemma lastValue?_append_singleton (entries : List (Text × α)) (entry : Text × α) (key : Text) :
    lastValue? (entries ++ [entry]) key =
      if entry.1 = key then some entry.2 else lastValue? entries key := by
  by_cases h : entry.1 = key <;> simp [lastValue?, List.filter_append, h]

end Fields

namespace Http

namespace Head

/-! ## Heads that are read -/

/-- That a line gives a header its value: there is a colon in it, the first one of which comes after
the name. Blanks around the name and the value do not count, and the name is meant in small letters. -/
inductive IsField : List UInt8 → Text × Text → Prop
  | mk {line : List UInt8} {name value : Text}
      (hline : Latin1.decode line = name ++ CodePoint.ofChar ':' :: value)
      (hname : CodePoint.ofChar ':' ∉ name) :
      IsField line
        (Text.lowerLatin1 (Text.strip CodePoint.isBlank name), Text.strip CodePoint.isBlank value)

/-- What the bytes of a head say: the three words of the first line, and the headers of the other
lines. -/
inductive Says : List UInt8 → Text → Text → Text → List (Text × Text) → Prop
  | mk {raw first : List UInt8} {others : List (List UInt8)} {method target version : Text}
      {fields : List (Text × Text)} (hlines : IsLines raw (first :: others))
      (hwords : Text.IsWords CodePoint.isBlank (Latin1.decode first) [method, target, version])
      (hversion : Text.ofString "HTTP/" <+: version)
      (hfields : List.Forall₂ IsField (others.filter (· ≠ [])) fields) :
      Says raw method target version fields

section

variable {line raw : List UInt8} {others : List (List UInt8)} {fields fields' : List (Text × Text)}

lemma readHeader_eq_ok_iff {field : Text × Text} :
    readHeader (Latin1.decode line) = .ok field ↔ IsField line field := by
  constructor
  · intro h
    unfold readHeader at h
    split at h
    · next name value hcut =>
      obtain ⟨hline, hname⟩ := Text.cut?_eq_some_iff.mp hcut
      cases h
      exact .mk hline hname
    · cases h
  · rintro ⟨hline, hname⟩
    rw [readHeader, Text.cut?_eq_some_iff.mpr ⟨hline, hname⟩]

lemma readHeader_eq_error_iff {fault : Fault} : readHeader (Latin1.decode line) = .error fault ↔
    CodePoint.ofChar ':' ∉ Latin1.decode line ∧ fault = .headerLine := by
  rw [← Text.cut?_eq_none_iff, readHeader]
  cases Text.cut? ':' (Latin1.decode line) <;> simp [@eq_comm _ fault]

lemma IsField.unique {field field' : Text × Text} (h : IsField line field)
    (h' : IsField line field') : field = field' := by
  rw [← readHeader_eq_ok_iff] at h h'
  rw [h] at h'
  exact Except.ok.inj h'

lemma fields_unique (h : List.Forall₂ IsField others fields)
    (h' : List.Forall₂ IsField others fields') : fields = fields' :=
  List.right_unique_forall₂' (fun _ _ _ h h' => h.unique h') h h'

/-- Every line that is not empty has a colon, or else there is one that has none. -/
lemma exists_fields_or_headerLine (others : List (List UInt8)) :
    (∃ fields, List.Forall₂ IsField others fields) ∨
      ∃ line ∈ others, CodePoint.ofChar ':' ∉ Latin1.decode line := by
  induction others with
  | nil => exact .inl ⟨[], .nil⟩
  | cons line others ih =>
    cases hline : readHeader (Latin1.decode line) with
    | error fault => exact .inr ⟨line, List.mem_cons_self, (readHeader_eq_error_iff.mp hline).1⟩
    | ok field =>
      rcases ih with ⟨fields, hfields⟩ | ⟨other, hother, hcolon⟩
      · exact .inl ⟨field :: fields, .cons (readHeader_eq_ok_iff.mp hline) hfields⟩
      · exact .inr ⟨other, List.mem_cons_of_mem _ hother, hcolon⟩

/-- What is paired has a counterpart. -/
lemma exists_counterpart {α β : Type} {p : α → β → Prop} {as : List α} {bs : List β}
    (h : List.Forall₂ p as bs) {a : α} (ha : a ∈ as) : ∃ b ∈ bs, p a b := by
  induction h with
  | nil => cases ha
  | cons hpair _ ih =>
    rcases List.mem_cons.mp ha with rfl | ha
    · exact ⟨_, List.mem_cons_self, hpair⟩
    · obtain ⟨b, hb, hpair⟩ := ih ha
      exact ⟨b, List.mem_cons_of_mem _ hb, hpair⟩

lemma IsField.ne_nil {field : Text × Text} (h : IsField line field) : line ≠ [] := by
  obtain ⟨hline, -⟩ := h
  rintro rfl
  exact absurd (congrArg List.length hline) (by simp [Latin1.decode])

lemma readHeaders_eq_ok_iff {headers : Fields Text} : ∀ before : Fields Text,
    readHeaders before others = .ok headers ↔ ∃ fields,
      List.Forall₂ IsField (others.filter (· ≠ [])) fields ∧
        headers = fields.foldl (fun fields field => fields.insert field.1 field.2) before := by
  induction others with
  | nil =>
    intro before
    simp [readHeaders, @eq_comm _ headers]
  | cons line others ih =>
    intro before
    by_cases hempty : line = []
    · subst hempty
      rw [readHeaders, ih]
      simp
    · have hkeep : (line :: others).filter (· ≠ []) = line :: others.filter (· ≠ []) := by
        simp [hempty]
      rw [readHeaders.eq_3 _ _ _ (fun h => hempty h), hkeep]
      cases hline : readHeader (Latin1.decode line) with
      | error fault =>
        -- A line without a colon gives no header.
        constructor
        · intro h
          cases h
        · rintro ⟨fields, hfields, -⟩
          cases hfields with
          | cons hfield _ =>
            rw [readHeader_eq_ok_iff.mpr hfield] at hline
            cases hline
      | ok field =>
        obtain ⟨name, value⟩ := field
        dsimp only
        rw [ih]
        constructor
        · rintro ⟨fields, hfields, hheaders⟩
          exact ⟨(name, value) :: fields, .cons (readHeader_eq_ok_iff.mp hline) hfields, hheaders⟩
        · rintro ⟨fields, hfields, hheaders⟩
          cases hfields with
          | cons hfield hfields =>
            obtain rfl := hfield.unique (readHeader_eq_ok_iff.mp hline)
            exact ⟨_, hfields, hheaders⟩

/-- A head is read for what it says. -/
theorem read_eq_ok_iff {head : Head} : read raw = .ok head ↔ ∃ fields,
    Says raw head.method head.target head.version fields ∧
      head.headers = Fields.ofEntries fields := by
  constructor
  · intro h
    unfold read at h
    split at h
    · cases h
    · next first others hlines =>
      split at h
      · next method target version hwords =>
        split at h
        · next hversion =>
          cases hheaders : readHeaders [] others with
          | error fault =>
            rw [hheaders] at h
            cases h
          | ok headers =>
            rw [hheaders] at h
            cases h
            obtain ⟨fields, hfields, rfl⟩ := (readHeaders_eq_ok_iff []).mp hheaders
            exact ⟨fields, .mk (lines_eq_iff.mp hlines) (Text.words_eq_iff.mp hwords)
              (List.isPrefixOf_iff_prefix.mp hversion) hfields, rfl⟩
        · cases h
      · cases h
  · obtain ⟨method, target, version, headers⟩ := head
    rintro ⟨fields, ⟨hlines, hwords, hversion, hfields⟩, hheaders⟩
    have hread := (readHeaders_eq_ok_iff []).mpr ⟨fields, hfields, hheaders⟩
    rw [read, lines_eq_iff.mpr hlines]
    dsimp only
    rw [Text.words_eq_iff.mpr hwords]
    dsimp only
    rw [if_pos (List.isPrefixOf_iff_prefix.mpr hversion), hread]
    rfl

end

/-! ## Declared lengths -/

/-- The last value for the length of the body; a head without one declares none. -/
def lengthText (fields : List (Text × Text)) : Text :=
  (Fields.lastValue? fields (Text.ofString "content-length")).getD (Text.ofString "0")

/-- A run of digits that is not too long. -/
structure IsLength (digits : Text) : Prop where
  ne_nil : digits ≠ []
  length_le : digits.length ≤ maxLengthDigits
  isDigit : ∀ c ∈ digits, c.isDigit = true

/-- The length of the body that headers declare. -/
inductive Declares (fields : List (Text × Text)) : Nat → Prop
  | mk (htransfer : Text.ofString "transfer-encoding" ∉ fields.map (·.1))
      (hlength : IsLength (lengthText fields)) :
      Declares fields (Text.digitsValue (lengthText fields))

section

variable {raw : List UInt8} {fields : List (Text × Text)} {n : Nat}

lemma Declares.eq {n : Nat} (h : Declares fields n) :
    n = Text.digitsValue (lengthText fields) := by
  cases h
  rfl

lemma isLength_iff {digits : Text} : IsLength digits ↔
    ¬(digits.isEmpty || !digits.all CodePoint.isDigit ||
      decide (maxLengthDigits < digits.length)) = true := by
  simp only [Bool.or_eq_true, Bool.not_eq_true', decide_eq_true_eq, not_or, Nat.not_lt,
    Bool.not_eq_false, List.all_eq_true, List.isEmpty_iff]
  constructor
  · intro h
    exact ⟨⟨h.ne_nil, h.isDigit⟩, h.length_le⟩
  · rintro ⟨⟨hne, hdigit⟩, hle⟩
    exact ⟨hne, hle, hdigit⟩

/-- The length that a head declares is that of its headers. -/
lemma declaredLength_eq_ok_iff {head : Head} (hheaders : head.headers = Fields.ofEntries fields) :
    declaredLength head = .ok n ↔ Declares fields n := by
  have hlast : ∀ name, head.headers.get? name = Fields.lastValue? fields name := by
    intro name
    rw [hheaders, Fields.get?_ofEntries]
  rw [declaredLength, hlast, hlast]
  split
  · next htransfer =>
    rw [Fields.isSome_lastValue?_iff] at htransfer
    constructor
    · intro h
      cases h
    · rintro ⟨hnone, -⟩
      exact absurd htransfer hnone
  · next htransfer =>
    rw [Fields.isSome_lastValue?_iff] at htransfer
    dsimp only
    rw [← lengthText]
    split
    · next hlength =>
      constructor
      · intro h
        cases h
      · rintro ⟨-, h⟩
        exact absurd hlength (isLength_iff.mp h)
    · next hlength =>
      constructor
      · intro h
        cases h
        exact .mk htransfer (isLength_iff.mpr hlength)
      · intro h
        rw [h.eq]

lemma declaredLength_eq_malformed {head : Head} {refusal : Refusal}
    (h : declaredLength head = .error refusal) : refusal = .malformed := by
  rw [declaredLength] at h
  split at h
  · cases h
    rfl
  · dsimp only at h
    split at h <;> cases h
    rfl

end

/-! ## Malformed heads -/

/-- What is wrong with the bytes of a head that does not declare the length of a body. -/
inductive Malformed (raw : List UInt8) : Prop
  /-- The first line does not consist of three words. -/
  | requestLine {first : List UInt8} {others : List (List UInt8)} {words : List Text}
      (hlines : IsLines raw (first :: others))
      (hwords : Text.IsWords CodePoint.isBlank (Latin1.decode first) words)
      (hlength : words.length ≠ 3)
  /-- The third word does not begin with the name of the protocol. -/
  | version {first : List UInt8} {others : List (List UInt8)} {method target version : Text}
      (hlines : IsLines raw (first :: others))
      (hwords : Text.IsWords CodePoint.isBlank (Latin1.decode first) [method, target, version])
      (hversion : ¬Text.ofString "HTTP/" <+: version)
  /-- Another line is not empty and has no colon. -/
  | headerLine {first line : List UInt8} {others : List (List UInt8)}
      (hlines : IsLines raw (first :: others)) (hline : line ∈ others) (hne : line ≠ [])
      (hcolon : CodePoint.ofChar ':' ∉ Latin1.decode line)
  /-- Another line asks for another way to tell where the body ends. -/
  | transferEncoding {first line : List UInt8} {others : List (List UInt8)} {value : Text}
      (hlines : IsLines raw (first :: others)) (hline : line ∈ others)
      (hfield : IsField line (Text.ofString "transfer-encoding", value))
  /-- The last value for the length of the body is no number, or it is too long. -/
  | length {first : List UInt8} {others : List (List UInt8)} {fields : List (Text × Text)}
      (hlines : IsLines raw (first :: others))
      (hfields : List.Forall₂ IsField (others.filter (· ≠ [])) fields)
      (hlength : ¬IsLength (lengthText fields))

section

variable {raw first : List UInt8} {others : List (List UInt8)} {fields : List (Text × Text)}

/-- What a head says does not go with any of these. -/
lemma Malformed.not_declares (h : Malformed raw) {method target version : Text}
    (hheld : Says raw method target version fields) (n : Nat) : ¬Declares fields n := by
  rintro ⟨htransfer, hlength⟩
  obtain ⟨hlines, hwords, hversion, hfields⟩ := hheld
  -- The lines of the head and the words of the first one are the same in both.
  cases h with
  | requestLine hlines' hwords' hlength' =>
    obtain ⟨rfl, rfl⟩ := List.cons.inj (hlines'.unique hlines)
    exact hlength' (by rw [hwords'.unique hwords]; rfl)
  | version hlines' hwords' hversion' =>
    obtain ⟨rfl, rfl⟩ := List.cons.inj (hlines'.unique hlines)
    cases hwords'.unique hwords
    exact hversion' hversion
  | headerLine hlines' hline hne hcolon =>
    obtain ⟨rfl, rfl⟩ := List.cons.inj (hlines'.unique hlines)
    obtain ⟨field, -, hfield⟩ := exists_counterpart hfields (List.mem_filter.mpr ⟨hline, by simpa using hne⟩)
    obtain ⟨hdecode, -⟩ := hfield
    exact hcolon (by rw [hdecode]; simp)
  | transferEncoding hlines' hline hfield =>
    obtain ⟨rfl, rfl⟩ := List.cons.inj (hlines'.unique hlines)
    have hne : _ ≠ [] := hfield.ne_nil
    obtain ⟨field, hmem, hfield'⟩ :=
      exists_counterpart hfields (List.mem_filter.mpr ⟨hline, by simpa using hne⟩)
    obtain rfl := hfield'.unique hfield
    exact htransfer (List.mem_map_of_mem hmem)
  | length hlines' hfields' hlength' =>
    obtain ⟨rfl, rfl⟩ := List.cons.inj (hlines'.unique hlines)
    rw [fields_unique hfields' hfields] at hlength'
    exact hlength' hlength

/-- The bytes of a head are malformed, or they say what it declares. -/
lemma malformed_or_declares (raw : List UInt8) : Malformed raw ∨
    ∃ method target version fields n,
      Says raw method target version fields ∧ Declares fields n := by
  obtain ⟨first, others, hlines⟩ := exists_isLines_cons raw
  obtain ⟨words, hwords⟩ := Text.exists_isWords CodePoint.isBlank (Latin1.decode first)
  match words with
  | [method, target, version] =>
    by_cases hversion : Text.ofString "HTTP/" <+: version
    · rcases exists_fields_or_headerLine (others.filter (· ≠ [])) with
        ⟨fields, hfields⟩ | ⟨line, hline, hcolon⟩
      · by_cases htransfer : Text.ofString "transfer-encoding" ∈ fields.map (·.1)
        · obtain ⟨⟨name, value⟩, hmem, rfl⟩ := List.mem_map.mp htransfer
          obtain ⟨line, hline, hfield⟩ := exists_counterpart hfields.flip hmem
          exact .inl (.transferEncoding hlines (List.mem_of_mem_filter hline) hfield)
        · by_cases hlength : IsLength (lengthText fields)
          · exact .inr ⟨method, target, version, fields, _, .mk hlines hwords hversion hfields,
              .mk htransfer hlength⟩
          · exact .inl (.length hlines hfields hlength)
      · obtain ⟨hmem, hne⟩ := List.mem_filter.mp hline
        exact .inl (.headerLine hlines hmem (by simpa using hne) hcolon)
    · exact .inl (.version hlines hwords hversion)
  | [] | [_] | [_, _] | _ :: _ :: _ :: _ :: _ =>
    exact .inl (.requestLine hlines hwords (by simp))

/-- A head is malformed if and only if it does not declare the length of a body. -/
theorem malformed_iff : Malformed raw ↔
    ∀ method target version fields n, Says raw method target version fields → ¬Declares fields n := by
  constructor
  · intro h method target version fields n hheld
    exact h.not_declares hheld n
  · intro h
    rcases malformed_or_declares raw with hmalformed | ⟨_, _, _, _, n, hheld, hdeclares⟩
    · exact hmalformed
    · exact absurd hdeclares (h _ _ _ _ n hheld)

end

end Head

end Http

end Courier
