import Courier.Json.Writer
import Courier.Proofs.Number.Digits

/-!
# The code points of written values

Outside of strings a written value consists of *plain* code points, which are ASCII but for the pipe. What
holds of all plain code points and of all that written strings consist of therefore holds of every
code point of a written value. Three such properties are of use: that a text has no surrogates, that
it is ASCII, and that its pipes stand inside of strings.
-/

namespace Courier

namespace CodePoint

/-- A code point of ASCII other than the pipe. -/
def IsPlain (c : CodePoint) : Prop := c.toNat < 0x80 ∧ c.toNat ≠ 0x7C

instance (c : CodePoint) : Decidable c.IsPlain :=
  inferInstanceAs (Decidable (c.toNat < 0x80 ∧ c.toNat ≠ 0x7C))

/-- A printable code point of ASCII other than the space. -/
def IsGraphic (c : CodePoint) : Prop := 0x21 ≤ c.toNat ∧ c.toNat ≤ 0x7E

instance (c : CodePoint) : Decidable c.IsGraphic :=
  inferInstanceAs (Decidable (0x21 ≤ c.toNat ∧ c.toNat ≤ 0x7E))

lemma isGraphic_of_isDigit {c : CodePoint} (h : c.isDigit = true) : c.IsGraphic := by
  simp only [isDigit, Bool.and_eq_true, decide_eq_true_eq] at h
  exact ⟨by omega, by omega⟩

lemma isPlain_of_isDigit {c : CodePoint} (h : c.isDigit = true) : c.IsPlain := by
  simp only [isDigit, Bool.and_eq_true, decide_eq_true_eq] at h
  exact ⟨by omega, by omega⟩

lemma IsGraphic.isAscii {c : CodePoint} (h : c.IsGraphic) : c.isAscii = true :=
  decide_eq_true (Nat.lt_of_le_of_lt h.2 (by decide))

lemma IsGraphic.isPlain {c : CodePoint} (h : c.IsGraphic) (hpipe : c.toNat ≠ 0x7C) : c.IsPlain :=
  ⟨of_decide_eq_true h.isAscii, hpipe⟩

lemma IsPlain.isSurrogate {c : CodePoint} (h : c.IsPlain) : c.isSurrogate = false := by
  have hlt := h.1
  simp only [CodePoint.isSurrogate, Bool.and_eq_false_iff, decide_eq_false_iff_not]
  omega

end CodePoint

open CodePoint (IsPlain isPlain_of_isDigit)

namespace Text

/-- A text of plain code points. -/
def IsPlain (t : Text) : Prop := ∀ c ∈ t, c.IsPlain

instance (t : Text) : Decidable t.IsPlain :=
  inferInstanceAs (Decidable (∀ c ∈ t, CodePoint.IsPlain c))

/-- The code points of joined texts are those of the parts and of the separator. -/
lemma forall_mem_join {p : CodePoint → Prop} {separator : Text} (hseparator : ∀ c ∈ separator, p c)
    {parts : List Text} : (∀ c ∈ join separator parts, p c) ↔ ∀ part ∈ parts, ∀ c ∈ part, p c := by
  cases parts with
  | nil => simp
  | cons part parts =>
    simp only [join, List.forall_mem_append, List.forall_mem_flatMap, List.forall_mem_cons,
      and_iff_right hseparator]

@[simp] lemma isPlain_nil : IsPlain [] := by simp [IsPlain]

@[simp] lemma isPlain_cons {c : CodePoint} {t : Text} :
    IsPlain (c :: t) ↔ c.IsPlain ∧ IsPlain t := by
  simp [IsPlain]

@[simp] lemma isPlain_append {a b : Text} : IsPlain (a ++ b) ↔ IsPlain a ∧ IsPlain b := by
  simp [IsPlain, or_imp, forall_and]

lemma isPlain_of_digits {t : Text} (h : ∀ c ∈ t, c.isDigit = true) : IsPlain t :=
  fun c hc => isPlain_of_isDigit (h c hc)

lemma isPlain_ofNat (n : Nat) : IsPlain (ofNat n) :=
  isPlain_of_digits fun _ => isDigit_of_mem_ofNat

lemma isPlain_ofInt (n : Int) : IsPlain (ofInt n) := by
  unfold ofInt
  split
  · exact isPlain_cons.2 ⟨by decide, isPlain_ofNat _⟩
  · exact isPlain_ofNat _

lemma isPlain_replicate {c : CodePoint} (n : Nat) (h : c.IsPlain) :
    IsPlain (List.replicate n c) := fun d hd => by
  rw [List.eq_of_mem_replicate hd]
  exact h

end Text

namespace Binary64

open Text

lemma isPlain_writeExponent (e : Int) : IsPlain (writeExponent e) := by
  have hdigits := isPlain_ofNat e.natAbs
  unfold writeExponent
  refine isPlain_cons.2 ⟨by split <;> decide, ?_⟩
  split
  · exact isPlain_cons.2 ⟨by decide, hdigits⟩
  · exact hdigits

lemma isPlain_layOut (d : Decimal) : IsPlain (layOut d) := by
  have hdigits := isPlain_ofNat d.digits
  have hzeros : ∀ n, IsPlain (List.replicate n (CodePoint.ofChar '0')) := fun n =>
    isPlain_replicate n (by decide)
  unfold layOut
  dsimp only
  split
  · refine isPlain_append.2 ⟨?_, isPlain_cons.2 ⟨by decide, isPlain_writeExponent _⟩⟩
    split
    · exact isPlain_nil
    · next h => exact h ▸ hdigits
    · next h =>
      rw [h, isPlain_cons] at hdigits
      exact isPlain_cons.2 ⟨hdigits.1, isPlain_cons.2 ⟨by decide, hdigits.2⟩⟩
  · split
    · exact isPlain_append.2 ⟨isPlain_append.2 ⟨by decide, hzeros _⟩, hdigits⟩
    · split
      · exact isPlain_append.2 ⟨isPlain_append.2 ⟨hdigits, hzeros _⟩, by decide⟩
      · rw [List.splitAt_eq]
        refine isPlain_append.2 ⟨fun c hc => hdigits c (List.mem_of_mem_take hc), ?_⟩
        exact isPlain_cons.2 ⟨by decide, fun c hc => hdigits c (List.mem_of_mem_drop hc)⟩

lemma isPlain_write {words : Words} (hinf : IsPlain (Text.ofString words.infinite))
    (hnan : IsPlain (Text.ofString words.nan)) (x : Binary64) : IsPlain (x.write words) := by
  have hmagnitude : ∀ m, IsPlain (writeMagnitude m) := by
    intro m
    unfold writeMagnitude
    split
    · decide
    · exact isPlain_layOut _
  cases x with
  | finite negative magnitude =>
    rw [write]
    split
    · exact isPlain_cons.2 ⟨by decide, hmagnitude _⟩
    · exact hmagnitude _
  | infinite negative =>
    rw [write]
    split
    · exact isPlain_cons.2 ⟨by decide, hinf⟩
    · exact hinf
  | nan => exact hnan

end Binary64

namespace Json

/-! ## Tests -/

/-- Every value passes the test that asks for nothing. -/
lemma all_default (v : Json) : v.all {} = true := by
  induction v using Json.induction with
  | null | bool _ | int _ | float _ | string _ => rfl
  | array items ih => exact itemsAll_eq_true.mpr ih
  | object members ih =>
    exact membersAll_eq_true.mpr fun member hmember => ⟨rfl, ih member hmember⟩

section

variable {test test' test'' : Test}

/-- A value whose leaves pass two tests passes one that follows from them. -/
theorem all_of_all (hkey : ∀ k, test.key k = true → test'.key k = true → test''.key k = true)
    (hstring : ∀ s, test.string s = true → test'.string s = true → test''.string s = true)
    (hfloat : ∀ x, test.float x = true → test'.float x = true → test''.float x = true) {v : Json}
    (h : v.all test = true) (h' : v.all test' = true) : v.all test'' = true := by
  induction v using Json.induction with
  | null | bool _ | int _ => rfl
  | float x => exact hfloat x h h'
  | string s => exact hstring s h h'
  | array items ih =>
    rw [all, itemsAll_eq_true] at h h' ⊢
    exact fun v hv => ih v hv (h v hv) (h' v hv)
  | object members ih =>
    rw [all, membersAll_eq_true] at h h' ⊢
    intro member hmember
    obtain ⟨hk, hv⟩ := h member hmember
    obtain ⟨hk', hv'⟩ := h' member hmember
    exact ⟨hkey _ hk hk', ih member hmember hv hv'⟩

/-- A value whose leaves pass a test passes a weaker one. -/
lemma all_mono (hkey : ∀ k, test.key k = true → test'.key k = true)
    (hstring : ∀ s, test.string s = true → test'.string s = true)
    (hfloat : ∀ x, test.float x = true → test'.float x = true) {v : Json}
    (h : v.all test = true) : v.all test' = true :=
  all_of_all (fun k hk _ => hkey k hk) (fun s hs _ => hstring s hs) (fun x hx _ => hfloat x hx) h h

end

/-! ## Covered properties -/

/-- A style whose marks are plain. -/
structure Style.IsPlain (style : Style) : Prop where
  comma : Text.IsPlain (Text.ofString style.comma)
  colon : Text.IsPlain (Text.ofString style.colon)

lemma isPlain_compact : compact.IsPlain := ⟨by decide, by decide⟩

/-- A property of the code points that a style writes, for values whose keys and strings pass a
test. -/
structure Covers (p : CodePoint → Prop) (style : Style) (test : Text → Bool) : Prop where
  plain : ∀ c : CodePoint, c.IsPlain → p c
  marks : style.IsPlain
  string : ∀ s, test s = true → ∀ c ∈ writeString style s, p c

variable {p : CodePoint → Prop} {style : Style} {test : Text → Bool}

lemma Covers.of_isPlain (h : Covers p style test) {t : Text} (ht : t.IsPlain) : ∀ c ∈ t, p c :=
  fun c hc => h.plain c (ht c hc)

lemma isPlain_lineBreak (style : Style) (level : Nat) : Text.IsPlain (style.lineBreak level) := by
  unfold Style.lineBreak
  split
  · exact Text.isPlain_nil
  · exact Text.isPlain_cons.2 ⟨by decide, Text.isPlain_replicate _ (by decide)⟩

lemma Covers.bracket (h : Covers p style test) {opening closing : CodePoint}
    (hopening : opening.IsPlain) (hclosing : closing.IsPlain) (level : Nat) {items : List Text}
    (hitems : ∀ item ∈ items, ∀ c ∈ item, p c) :
    ∀ c ∈ bracket style level opening closing items, p c := by
  unfold Json.bracket
  split
  · exact h.of_isPlain (by simp [hopening, hclosing])
  · intro c hc
    rw [List.mem_append, List.mem_append, List.mem_append, List.mem_cons] at hc
    rcases hc with (((rfl | hc) | hc) | hc) | hc
    · exact h.plain _ hopening
    · exact h.of_isPlain (isPlain_lineBreak _ _) c hc
    · have hseparator := h.of_isPlain
        (Text.isPlain_append.2 ⟨h.marks.comma, isPlain_lineBreak style (level + 1)⟩)
      exact (Text.forall_mem_join hseparator).mpr hitems c hc
    · exact h.of_isPlain (isPlain_lineBreak _ _) c hc
    · exact h.of_isPlain (by simp [hclosing]) c hc

mutual

/-- A covered property holds of all code points of a written value. -/
theorem Covers.writeAt (h : Covers p style test) (level : Nat) : ∀ v : Json,
    v.all { key := test, string := test } = true → ∀ c ∈ writeAt style level v, p c
  | .null, _ => h.of_isPlain (by decide : Text.IsPlain (Text.ofString "null"))
  | .bool true, _ => h.of_isPlain (by decide : Text.IsPlain (Text.ofString "true"))
  | .bool false, _ => h.of_isPlain (by decide : Text.IsPlain (Text.ofString "false"))
  | .int n, _ => h.of_isPlain (Text.isPlain_ofInt n)
  | .float x, _ => h.of_isPlain
    (Binary64.isPlain_write (by decide) (by decide) x : Text.IsPlain (x.write Binary64.jsonWords))
  | .string s, hs => h.string s (by simpa [all] using hs)
  | .array items, hs => by
    rw [Json.writeAt]
    exact h.bracket (by decide) (by decide) level
      (h.writeItems (level + 1) items (by simpa [all] using hs))
  | .object members, hs => by
    rw [Json.writeAt]
    exact h.bracket (by decide) (by decide) level
      (h.writeMembers (level + 1) members (by simpa [all] using hs))

theorem Covers.writeItems (h : Covers p style test) (level : Nat) : ∀ items : List Json,
    itemsAll { key := test, string := test } items = true →
      ∀ item ∈ writeItems style level items, ∀ c ∈ item, p c
  | [], _ => by simp [Json.writeItems]
  | v :: items, hs => by
    simp only [itemsAll, Bool.and_eq_true] at hs
    rw [Json.writeItems]
    exact List.forall_mem_cons.2 ⟨h.writeAt level v hs.1, h.writeItems level items hs.2⟩

theorem Covers.writeMembers (h : Covers p style test) (level : Nat) :
    ∀ members : List (Text × Json), membersAll { key := test, string := test } members = true →
      ∀ item ∈ writeMembers style level members, ∀ c ∈ item, p c
  | [], _ => by simp [Json.writeMembers]
  | (key, v) :: members, hs => by
    simp only [membersAll, Bool.and_eq_true] at hs
    rw [Json.writeMembers]
    refine List.forall_mem_cons.2 ⟨fun c hc => ?_, h.writeMembers level members hs.2⟩
    rw [List.mem_append, List.mem_append] at hc
    rcases hc with (hc | hc) | hc
    · exact h.string key hs.1.1 c hc
    · exact h.plain c (h.marks.colon c hc)
    · exact h.writeAt level v hs.1.2 c hc

end

/-! ## Surrogates -/

lemma isPlain_unitEscape (unit : CodePoint) : Text.IsPlain (unitEscape unit) := by
  have hdigit : ∀ k < 16, (CodePoint.hexLower k).IsPlain := by decide
  refine Text.isPlain_append.2 ⟨by decide, fun c hc => ?_⟩
  obtain ⟨i, -, rfl⟩ := List.mem_map.1 hc
  exact hdigit _ (Nat.mod_lt _ (by decide))

/-- A code point is written in plain ones or as itself, if the style admits it. -/
lemma writeCodePoint_eq_or_isPlain (style : Style) (c : CodePoint) :
    writeCodePoint style c = [c] ∧ (style.ascii = true → c.toNat < 0x7F) ∨
      Text.IsPlain (writeCodePoint style c) := by
  have hescape := isPlain_unitEscape
  unfold writeCodePoint
  repeat' split
  all_goals first
    | exact .inr (hescape c)
    | exact .inr (Text.isPlain_append.2 ⟨hescape _, hescape _⟩)
    | exact .inr (by decide)
    | skip
  next hout =>
    refine .inl ⟨rfl, fun h => ?_⟩
    simpa [h] using hout

/-- An encodable value is written without surrogates. -/
lemma isSurrogate_of_mem_write (hstyle : style.IsPlain) {v : Json} (h : v.isEncodable = true) :
    ∀ c ∈ v.write style, c.isSurrogate = false := by
  have hcovers : Covers (fun c => c.isSurrogate = false) style (!Text.hasSurrogate ·) := by
    refine ⟨fun c hc => hc.isSurrogate, hstyle, fun s hs c hc => ?_⟩
    simp only [writeString, List.cons_append, List.mem_cons, List.mem_append, List.mem_flatMap,
      List.not_mem_nil, or_false] at hc
    -- What is written is a quote, a code point of the string as it is, or an escape.
    rcases hc with rfl | ⟨d, hd, hc⟩ | rfl
    · decide
    · rcases writeCodePoint_eq_or_isPlain style d with ⟨heq, -⟩ | hplain
      · rw [heq, List.mem_singleton] at hc
        subst hc
        simp only [Text.hasSurrogate, Bool.not_eq_true', List.any_eq_false] at hs
        simpa using hs c hd
      · exact (hplain c hc).isSurrogate
    · decide
  exact hcovers.writeAt 0 v h

/-! ## ASCII -/

/-- In the spaced style every value is written in ASCII. -/
theorem isAscii_of_mem_write (v : Json) : ∀ c ∈ v.write spacedAscii, c.isAscii = true := by
  have hcovers : Covers (fun c => c.isAscii = true) spacedAscii fun _ => true := by
    refine ⟨fun c hc => decide_eq_true hc.1, ⟨by decide, by decide⟩, fun s _ c hc => ?_⟩
    simp only [writeString, List.cons_append, List.mem_cons, List.mem_append, List.mem_flatMap,
      List.not_mem_nil, or_false] at hc
    rcases hc with rfl | ⟨d, -, hc⟩ | rfl
    · decide
    · rcases writeCodePoint_eq_or_isPlain spacedAscii d with ⟨heq, hlt⟩ | hplain
      · rw [heq, List.mem_singleton] at hc
        subst hc
        exact decide_eq_true (Nat.lt_trans (hlt rfl) (by decide))
      · exact decide_eq_true (hplain c hc).1
    · decide
  exact hcovers.writeAt 0 v (all_default v)

end Json

end Courier
