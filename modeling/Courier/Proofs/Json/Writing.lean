import Courier.Proofs.Json.Layout
import Courier.Proofs.Json.Reading
import Mathlib.Data.List.Forall2

/-!
# What is written can be read

In every style whose marks are those of JSON, the text of a value denotes the value, if there is a
text for it at all: the keys of each object have to be distinct, integers must not be longer than
what is read, numbers must be finite, and no two escapes of a string may come to stand for one code
point together. So the reader gives back what was written, also after an escape was put in place of
every pipe.
-/

namespace Courier

namespace Fields

variable {α : Type}

/-- Entries with distinct keys are fields as they are. -/
lemma ofEntries_eq_self {entries : List (Text × α)} (h : (entries.map (·.1)).Nodup) :
    ofEntries entries = entries := by
  -- The induction runs over arbitrary fields with other keys.
  have key : ∀ (entries : List (Text × α)) (fields : Fields α),
      ((fields ++ entries).map (·.1)).Nodup →
        entries.foldl (fun fields entry => insert fields entry.1 entry.2) fields =
          fields ++ entries := by
    intro entries
    induction entries with
    | nil => simp
    | cons entry entries ih =>
      intro fields hnodup
      obtain ⟨k, v⟩ := entry
      have hnotMem : k ∉ fields.map (·.1) := by
        rw [List.map_append, List.nodup_append] at hnodup
        intro hmem
        exact hnodup.2.2 k hmem k (by simp) rfl
      have happend : fields ++ (k, v) :: entries = fields ++ [(k, v)] ++ entries := by simp
      rw [List.foldl_cons, insert_of_notMem hnotMem, ih _ (happend ▸ hnodup), happend]
  exact key entries [] h

end Fields

namespace Json

mutual

/-- Whether the keys of every object are distinct and no integer has more digits than are read. -/
def isRegular : Json → Bool
  | .int n => (Text.ofNat n.natAbs).length ≤ maxDigits
  | .array items => itemsRegular items
  | .object members => decide (members.map (·.1)).Nodup && membersRegular members
  | _ => true

/-- Whether all items are regular. -/
def itemsRegular : List Json → Bool
  | [] => true
  | v :: items => isRegular v && itemsRegular items

/-- Whether the values of all members are regular. -/
def membersRegular : List (Text × Json) → Bool
  | [] => true
  | (_, v) :: members => isRegular v && membersRegular members

end

/-! ## Lists of written items -/

lemma isBlank_append {a b : Text} (ha : IsBlank a) (hb : IsBlank b) : IsBlank (a ++ b) := by
  intro c hc
  rcases List.mem_append.mp hc with hc | hc
  · exact ha c hc
  · exact hb c hc

lemma isBlank_lineBreak (style : Style) (level : Nat) : IsBlank (style.lineBreak level) := by
  unfold Style.lineBreak
  split
  · exact isBlank_nil
  · intro c hc
    rcases List.mem_cons.mp hc with rfl | hc
    · decide
    · rw [List.eq_of_mem_replicate hc]
      decide

/-- A style with the marks of JSON. -/
structure Style.IsJson (style : Style) : Prop where
  comma : ∃ b, IsBlank b ∧ Text.ofString style.comma = CodePoint.ofChar ',' :: b
  colon : ∃ a b, IsBlank a ∧ IsBlank b ∧
    Text.ofString style.colon = a ++ CodePoint.ofChar ':' :: b

lemma isJson_compact : compact.IsJson :=
  ⟨⟨[], isBlank_nil, rfl⟩, ⟨[], [], isBlank_nil, isBlank_nil, rfl⟩⟩

section

variable {α : Type} {p : Text → α → Prop}

lemma separated_join {b : Text} (hb : IsBlank b) {texts : List Text} {vs : List α}
    (h : List.Forall₂ p texts vs) (hne : texts ≠ []) {c : Text} (hc : IsBlank c) :
    ∀ a, IsBlank a →
      Separated p (a ++ (Text.join (CodePoint.ofChar ',' :: b) texts ++ c)) vs := by
  induction h with
  | nil => exact absurd rfl hne
  | @cons t v texts vs hv hrest ih =>
    intro a ha
    cases texts with
    | nil =>
      cases hrest
      rw [Text.join_singleton]
      exact .last ha hv hc
    | cons next texts =>
      -- The blanks behind the comma belong to the next item.
      have hsplit : a ++ (Text.join (CodePoint.ofChar ',' :: b) (t :: next :: texts) ++ c) =
          a ++ (t ++ ([] ++ CodePoint.ofChar ',' ::
            (b ++ (Text.join (CodePoint.ofChar ',' :: b) (next :: texts) ++ c)))) := by
        rw [Text.join_cons_cons]
        simp
      rw [hsplit]
      exact .cons ha hv isBlank_nil (ih (by simp) b hb)

lemma listed_bracket {style : Style} (hstyle : style.IsJson) (level : Nat)
    (opening closing : CodePoint) {texts : List Text} {vs : List α}
    (h : List.Forall₂ p texts vs) :
    Listed p opening closing (bracket style level opening closing texts) vs := by
  unfold bracket
  split
  · cases h
    exact .empty isBlank_nil
  · next hne =>
    obtain ⟨b, hb, hcomma⟩ := hstyle.comma
    have hseparated := separated_join (isBlank_append hb (isBlank_lineBreak style (level + 1))) h
      hne (isBlank_lineBreak style level) _ (isBlank_lineBreak style (level + 1))
    have hitems : Listed p opening closing (opening :: (_ ++ [closing])) vs := .items hseparated
    dsimp only
    rw [hcomma]
    simpa using hitems

end

/-! ## Written values -/

/-- That a test lets through only what a style writes readably: strings of which no two escapes join
to one code point, and finite numbers. -/
structure Style.Keeps (style : Style) (test : Test) : Prop where
  key : ∀ s, test.key s = true → joined (s.flatMap style.pieces) = s
  string : ∀ s, test.string s = true → joined (s.flatMap style.pieces) = s
  float : ∀ x, test.float x = true → x.isFinite = true

lemma keeps_isFinite {style : Style} (h : style.ascii = false) :
    style.Keeps { float := Binary64.isFinite } :=
  ⟨fun s _ => joined_flatMap_pieces h s, fun s _ => joined_flatMap_pieces h s, fun _ h => h⟩

section

variable {style : Style} {test : Test} {dialect : Dialect}

lemma IsForm.isValue {nesting : Nat} {t : Text} {v : Json}
    (h : ∀ inside, IsForm dialect inside t v) : IsValue dialect nesting t v := by
  cases nesting with
  | zero => exact h none
  | succ nesting => exact h (some (IsValue dialect nesting))

lemma isValue_word {nesting : Nat} {w : String} {v : Json} (h : (w, v) ∈ plainWords) :
    IsValue dialect nesting (Text.ofString w) v := by
  refine IsForm.isValue fun _ => .word ?_
  cases dialect with
  | strict => exact h
  | lenient => exact List.mem_append_left _ h

lemma isValue_int {nesting : Nat} {n : Int} (h : (Text.ofNat n.natAbs).length ≤ maxDigits) :
    IsValue dialect nesting (Text.ofInt n) (.int n) := by
  rw [← Numeral.text_ofInt 'e' n]
  exact IsForm.isValue fun _ =>
    .number (Numeral.isProper_ofInt n) (.inl rfl) (Numeral.toJson?_ofInt h)

lemma isValue_float {nesting : Nat} {x : Binary64} (h : x.isFinite = true) :
    IsValue dialect nesting (x.write Binary64.jsonWords) (.float x) := by
  cases x with
  | finite negative m =>
    obtain ⟨n, hproper, htext, hvalue⟩ :=
      Numeral.exists_write_finite Binary64.jsonWords negative m
    rw [← htext]
    exact IsForm.isValue fun _ => .number hproper (.inl rfl) hvalue
  | infinite negative => exact absurd h Bool.false_ne_true
  | nan => exact absurd h Bool.false_ne_true

lemma isValue_string {nesting : Nat} {s : Text} (h : joined (s.flatMap style.pieces) = s) :
    IsValue dialect nesting (writeString style s) (.string s) := by
  have hform : ∀ inside, IsForm dialect inside (writeString style s)
      (.string (joined (s.flatMap style.pieces))) :=
    fun _ => .string (spells_flatMap style s)
  rw [h] at hform
  exact IsForm.isValue hform

lemma isMember_written (hstyle : style.IsJson) {value : Text → Json → Prop} {key t : Text}
    {v : Json} (hkey : joined (key.flatMap style.pieces) = key) (h : value t v) :
    IsMember value (writeString style key ++ Text.ofString style.colon ++ t) (key, v) := by
  obtain ⟨a, b, ha, hb, hcolon⟩ := hstyle.colon
  have hmember := IsMember.mk (spells_flatMap style key) ha hb h
  rw [hkey] at hmember
  rw [hcolon]
  simpa [writeString] using hmember

mutual

/-- In a style that keeps what passes a test, the text of a regular value that passes it denotes the
value. -/
theorem isValue_writeAt (hstyle : style.IsJson) (hkeeps : style.Keeps test) (level : Nat) :
    ∀ (v : Json) (nesting : Nat), v.all test = true → v.isRegular = true → v.depth ≤ nesting →
      IsValue dialect nesting (writeAt style level v) v
  | .null, _, _, _, _ => isValue_word (w := "null") (by simp [plainWords])
  | .bool true, _, _, _, _ => isValue_word (w := "true") (by simp [plainWords])
  | .bool false, _, _, _, _ => isValue_word (w := "false") (by simp [plainWords])
  | .int n, _, _, hregular, _ => isValue_int (by simpa [isRegular] using hregular)
  | .float x, _, htest, _, _ => isValue_float (hkeeps.float x htest)
  | .string s, _, htest, _, _ => isValue_string (hkeeps.string s htest)
  | .array items, 0, _, _, hdepth => by simp [depth] at hdepth
  | .array items, nesting + 1, htest, hregular, hdepth =>
    .array (listed_bracket hstyle level '[' ']'
      (forall₂_writeItems hstyle hkeeps (level + 1) items nesting htest hregular
        (Nat.le_of_succ_le_succ hdepth)))
  | .object members, 0, _, _, hdepth => by simp [depth] at hdepth
  | .object members, nesting + 1, htest, hregular, hdepth => by
    rw [isRegular, Bool.and_eq_true, decide_eq_true_eq] at hregular
    have hlisted := listed_bracket hstyle level '\x7b' '\x7d'
      (forall₂_writeMembers hstyle hkeeps (level + 1) members nesting htest hregular.2
        (Nat.le_of_succ_le_succ hdepth))
    have hform : IsForm dialect (some (IsValue dialect nesting))
        (bracket style level '\x7b' '\x7d' (writeMembers style (level + 1) members))
        (.object (Fields.ofEntries members)) := .object hlisted
    rw [Fields.ofEntries_eq_self hregular.1] at hform
    exact hform

theorem forall₂_writeItems (hstyle : style.IsJson) (hkeeps : style.Keeps test) (level : Nat) :
    ∀ (items : List Json) (nesting : Nat), itemsAll test items = true →
      itemsRegular items = true → itemsDepth items ≤ nesting →
        List.Forall₂ (IsValue dialect nesting) (writeItems style level items) items
  | [], _, _, _, _ => .nil
  | v :: items, nesting, htest, hregular, hdepth => by
    rw [itemsAll, Bool.and_eq_true] at htest
    rw [itemsRegular, Bool.and_eq_true] at hregular
    have hmax : Nat.max (depth v) (itemsDepth items) ≤ nesting := hdepth
    exact .cons
      (isValue_writeAt hstyle hkeeps level v nesting htest.1 hregular.1
        (Nat.le_trans (Nat.le_max_left _ _) hmax))
      (forall₂_writeItems hstyle hkeeps level items nesting htest.2 hregular.2
        (Nat.le_trans (Nat.le_max_right _ _) hmax))

theorem forall₂_writeMembers (hstyle : style.IsJson) (hkeeps : style.Keeps test) (level : Nat) :
    ∀ (members : List (Text × Json)) (nesting : Nat), membersAll test members = true →
      membersRegular members = true → membersDepth members ≤ nesting →
        List.Forall₂ (IsMember (IsValue dialect nesting)) (writeMembers style level members) members
  | [], _, _, _, _ => .nil
  | (key, v) :: members, nesting, htest, hregular, hdepth => by
    rw [membersAll, Bool.and_eq_true, Bool.and_eq_true] at htest
    rw [membersRegular, Bool.and_eq_true] at hregular
    have hmax : Nat.max (depth v) (membersDepth members) ≤ nesting := hdepth
    exact .cons
      (isMember_written hstyle (hkeeps.key key htest.1.1)
        (isValue_writeAt hstyle hkeeps level v nesting htest.1.2 hregular.1
          (Nat.le_trans (Nat.le_max_left _ _) hmax)))
      (forall₂_writeMembers hstyle hkeeps level members nesting htest.2 hregular.2
        (Nat.le_trans (Nat.le_max_right _ _) hmax))

end

/-- Reading undoes writing. -/
theorem read?_write (hstyle : style.IsJson) (hkeeps : style.Keeps test) {v : Json}
    (htest : v.all test = true) (hregular : v.isRegular = true) (hdepth : v.depth ≤ maxNesting) :
    read? dialect (v.write style) = some v := by
  apply read?_eq_some
  refine ⟨[], v.write style, [], by simp, isBlank_nil, isBlank_nil, ?_⟩
  exact isValue_writeAt hstyle hkeeps 0 v maxNesting htest hregular hdepth

end

end Json

end Courier
