import Courier.Proofs.Http.Framing
import Courier.Proofs.Http.Message

/-!
# Heads that are written line by line

A head is written as its lines, each with an end of line, and an empty line after them. If none of the
lines is empty or holds a carriage return, the empty line makes the first terminator, whatever bytes
follow, and the lines before it are those that were written. This is so for the heads of requests and
for those of responses.
-/

namespace Courier

namespace Text

/-- That a text can stand in a line of a head: it is Latin-1 and no carriage return is in it. -/
def IsInline (t : Text) : Prop := ∀ c ∈ t, c.toNat < 0x100 ∧ c ≠ '\r'

instance (t : Text) : Decidable t.IsInline :=
  inferInstanceAs (Decidable (∀ c ∈ t, c.toNat < 0x100 ∧ c ≠ '\r'))

variable {s t : Text}

@[simp] lemma isInline_append : IsInline (s ++ t) ↔ IsInline s ∧ IsInline t :=
  List.forall_mem_append

@[simp] lemma isInline_cons {c : CodePoint} :
    IsInline (c :: t) ↔ (c.toNat < 0x100 ∧ c ≠ '\r') ∧ IsInline t :=
  List.forall_mem_cons

lemma isInline_iff : IsInline t ↔ IsLatin1 t ∧ CodePoint.ofChar '\r' ∉ t := by
  simp only [IsInline, IsLatin1, forall_and, List.forall_mem_ne']

lemma isInline_of_isDigit (h : ∀ c ∈ t, c.isDigit = true) : IsInline t := by
  refine isInline_iff.mpr ⟨(isPlain_of_digits h).isLatin1, fun hmem => ?_⟩
  exact absurd (h _ hmem) (by decide)

end Text

namespace Latin1

/-- The bytes of the numbers of code points below U+0100. -/
def bytes (t : Text) : List UInt8 := t.map fun c => UInt8.ofNat c.toNat

variable {s t : Text}

@[simp] lemma bytes_append : bytes (s ++ t) = bytes s ++ bytes t := List.map_append

@[simp] lemma length_bytes : (bytes t).length = t.length := List.length_map _

@[simp] lemma bytes_eq_nil_iff : bytes t = [] ↔ t = [] := List.map_eq_nil_iff

lemma encode?_eq_some (h : t.IsLatin1) : encode? t = some (bytes t) := by
  have hall : t.all (·.toNat < 0x100) = true := by simpa [Text.IsLatin1] using h
  rw [encode?, if_pos hall, bytes]

/-- Decoding undoes encoding. -/
lemma decode_bytes (h : t.IsLatin1) : decode (bytes t) = t := by
  induction t with
  | nil => rfl
  | cons c t ih =>
    rw [Text.isLatin1_cons] at h
    have hnat : (UInt8.ofNat c.toNat).toNat = c.toNat := UInt8.toNat_ofNat_of_lt' h.1
    have hc : CodePoint.ofByte (UInt8.ofNat c.toNat) = c := by simp [CodePoint.ofByte, hnat]
    exact congrArg₂ List.cons hc (ih h.2)

lemma notMem_bytes (h : t.IsLatin1) {b : UInt8} (hb : CodePoint.ofByte b ∉ t) : b ∉ bytes t := by
  intro hmem
  have hdecode : CodePoint.ofByte b ∈ decode (bytes t) := List.mem_map_of_mem hmem
  rw [decode_bytes h] at hdecode
  exact hb hdecode

end Latin1

namespace Http

namespace Head

/-! ## The bytes of lines -/

section

variable {raw line head : List UInt8} {ls : List (List UInt8)} {n : Nat}

lemma not_lineEnd_infix (h : 13 ∉ line) : ¬lineEnd <:+: line :=
  fun hline => h (hline.mem List.mem_cons_self)

lemma EndsAt.append_line (h : 13 ∉ line) (hraw : EndsAt raw n) :
    EndsAt (line ++ raw) (line.length + n) := by
  induction line with
  | nil => simpa using hraw
  | cons b line ih =>
    rw [List.mem_cons, not_or] at h
    rw [List.cons_append, List.length_cons, Nat.add_right_comm]
    refine endsAt_cons_succ_iff.mpr ⟨?_, ih h.2⟩
    intro hstarts
    exact h.1 (List.cons_prefix_cons.mp hstarts).1

/-- The end of a line starts no terminator if another line follows that is not empty. -/
lemma EndsAt.append_lineEnd (h : raw.head? ≠ some 13) (hraw : EndsAt raw n) :
    EndsAt (lineEnd ++ raw) (lineEnd.length + n) := by
  have hshift : lineEnd.length + n = n + 1 + 1 := Nat.add_comm _ _
  rw [hshift]
  refine endsAt_cons_succ_iff.mpr ⟨?_, endsAt_cons_succ_iff.mpr ⟨?_, hraw⟩⟩
  · intro hstarts
    obtain ⟨after, hafter⟩ := hstarts
    have hraw : 13 :: 10 :: after = raw := by simpa [terminator, lineEnd] using hafter
    exact h (by rw [← hraw]; rfl)
  · intro hstarts
    exact absurd (List.cons_prefix_cons.mp hstarts).1 (by decide)

lemma IsLines.head?_ne (h : IsLines raw ls) (hls : ∀ line ∈ ls, line ≠ [] ∧ 13 ∉ line) :
    ∃ b rest, raw = b :: rest ∧ b ≠ 13 := by
  have hfirst : ∀ line rest : List UInt8, line ≠ [] ∧ 13 ∉ line →
      ∃ b rest', line ++ rest = b :: rest' ∧ b ≠ 13 := by
    rintro (_ | ⟨b, line⟩) rest ⟨hne, hline⟩
    · exact absurd rfl hne
    · rw [List.mem_cons, not_or] at hline
      exact ⟨b, line ++ rest, rfl, fun hb => hline.1 hb.symm⟩
  cases h with
  | @last line _ =>
    have hline := hfirst raw [] (hls raw List.mem_cons_self)
    rwa [List.append_nil] at hline
  | cons _ _ => exact hfirst _ _ (hls _ List.mem_cons_self)

/-- Lines that are not empty and hold no carriage return end at the first terminator. -/
theorem IsLines.cuts (h : IsLines head ls) (hls : ∀ line ∈ ls, line ≠ [] ∧ 13 ∉ line)
    (rest : List UInt8) : Cuts (head ++ (terminator ++ rest)) head rest := by
  refine ⟨rfl, ?_⟩
  induction h with
  | last _ =>
    have hzero : EndsAt (terminator ++ rest) 0 := endsAt_zero_iff.mpr (List.prefix_append _ _)
    simpa using hzero.append_line (hls _ List.mem_cons_self).2
  | @cons line others ls _ hothers ih =>
    rw [List.forall_mem_cons] at hls
    obtain ⟨b, tail, rfl, hb⟩ := hothers.head?_ne hls.2
    have hend := (ih hls.2).append_lineEnd (by simpa using hb)
    simpa using hend.append_line hls.1.2

end

/-! ## The lines of a text -/

/-- The text of a head: its lines, each with its end, and an empty line. -/
def ofLines (ls : List Text) : Text := ls.flatMap (· ++ Message.lineEnd) ++ Message.lineEnd

/-- That a text can be written as a line of a head, without being taken for the end of it. -/
structure IsLine (line : Text) : Prop where
  ne_nil : line ≠ []
  isInline : line.IsInline

section

variable {line : Text} {ls : List Text}

lemma bytes_lineEnd : Latin1.bytes Message.lineEnd = lineEnd := by decide

lemma IsLine.isLatin1 (h : IsLine line) : line.IsLatin1 := (Text.isInline_iff.mp h.isInline).1

lemma IsLine.bytes (h : IsLine line) : Latin1.bytes line ≠ [] ∧ 13 ∉ Latin1.bytes line := by
  obtain ⟨hlatin1, hreturn⟩ := Text.isInline_iff.mp h.isInline
  exact ⟨by simpa using h.ne_nil, Latin1.notMem_bytes hlatin1 hreturn⟩

lemma map_decode_bytes (h : ∀ line ∈ ls, IsLine line) :
    (ls.map Latin1.bytes).map Latin1.decode = ls := by
  rw [List.map_map]
  exact (List.map_congr_left fun line hline => Latin1.decode_bytes (h line hline).isLatin1).trans
    (List.map_id ls)

lemma isLines_bytes_join (hne : ls ≠ []) (h : ∀ line ∈ ls, IsLine line) :
    IsLines (Latin1.bytes (Text.join Message.lineEnd ls)) (ls.map Latin1.bytes) := by
  induction ls with
  | nil => exact absurd rfl hne
  | cons line ls ih =>
    rw [List.forall_mem_cons] at h
    have hline := not_lineEnd_infix h.1.bytes.2
    cases ls with
    | nil =>
      rw [Text.join_singleton]
      exact .last hline
    | cons next ls =>
      rw [Text.join_cons_cons, Latin1.bytes_append, Latin1.bytes_append, bytes_lineEnd,
        List.append_assoc]
      exact .cons hline (ih (List.cons_ne_nil _ _) h.2)

lemma ofLines_eq (hne : ls ≠ []) :
    ofLines ls = Text.join Message.lineEnd ls ++ (Message.lineEnd ++ Message.lineEnd) := by
  induction ls with
  | nil => exact absurd rfl hne
  | cons line ls ih =>
    cases ls with
    | nil => simp [ofLines]
    | cons next ls =>
      have hnext := ih (List.cons_ne_nil _ _)
      rw [ofLines] at hnext ⊢
      rw [List.flatMap_cons, List.append_assoc, hnext, Text.join_cons_cons]
      simp

lemma isLatin1_ofLines (h : ∀ line ∈ ls, IsLine line) : (ofLines ls).IsLatin1 := by
  have hend : Text.IsLatin1 Message.lineEnd := by decide
  simp only [ofLines, Text.isLatin1_append, Text.isLatin1_flatMap]
  exact ⟨fun line hline => ⟨(h line hline).isLatin1, hend⟩, hend⟩

/-- **A head that is written is found again**: its bytes end with the first terminator, and the lines
before that are those of the head. -/
theorem exists_head_ofLines (hne : ls ≠ []) (h : ∀ line ∈ ls, IsLine line) :
    ∃ head, Latin1.encode? (ofLines ls) = some (head ++ terminator) ∧
      head.length + 4 = (ofLines ls).length ∧ IsLines head (ls.map Latin1.bytes) ∧
      ∀ rest, Cuts (head ++ (terminator ++ rest)) head rest := by
  have hlines := isLines_bytes_join hne h
  refine ⟨_, ?_, ?_, hlines, hlines.cuts ?_⟩
  · rw [Latin1.encode?_eq_some (isLatin1_ofLines h), ofLines_eq hne]
    simp only [Latin1.bytes_append, bytes_lineEnd]
    rfl
  · rw [ofLines_eq hne, List.length_append, Latin1.length_bytes]
    rfl
  · intro bytes hbytes
    obtain ⟨line, hline, rfl⟩ := List.mem_map.mp hbytes
    exact (h line hline).bytes

end

end Head

end Http

end Courier
