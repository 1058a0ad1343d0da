import Courier.Http.Message
import Courier.Proofs.Json.Written

/-!
# Messages that can be sent

A message is sent as the bytes of its head in Latin-1 and of its body in ASCII. The body always has
such bytes, and so has all of the head that does not come from outside: a message can be sent if the
name of the server, the date and the headers of the answer itself are Latin-1.
-/

namespace Courier

namespace Text

/-- A text of code points below U+0100. -/
def IsLatin1 (t : Text) : Prop := ∀ c ∈ t, c.toNat < 0x100

instance (t : Text) : Decidable t.IsLatin1 :=
  inferInstanceAs (Decidable (∀ c ∈ t, c.toNat < 0x100))

section

variable {s t : Text}

@[simp] lemma isLatin1_append : IsLatin1 (s ++ t) ↔ IsLatin1 s ∧ IsLatin1 t := by
  simp [IsLatin1, or_imp, forall_and]

@[simp] lemma isLatin1_cons {c : CodePoint} : IsLatin1 (c :: t) ↔ c.toNat < 0x100 ∧ IsLatin1 t := by
  simp [IsLatin1]

@[simp] lemma isLatin1_flatMap {α : Type} {items : List α} {f : α → Text} :
    IsLatin1 (items.flatMap f) ↔ ∀ item ∈ items, IsLatin1 (f item) := List.forall_mem_flatMap

lemma IsPlain.isLatin1 (h : IsPlain t) : IsLatin1 t := fun c hc => Nat.lt_trans (h c hc).1 (by decide)

/-- Texts are joined within Latin-1. -/
lemma isLatin1_join {separator : Text} (hseparator : IsLatin1 separator) {parts : List Text} :
    IsLatin1 (join separator parts) ↔ ∀ part ∈ parts, IsLatin1 part := forall_mem_join hseparator

end

end Text

open Text (IsLatin1 IsPlain)

namespace Latin1

lemma encode?_eq_none_iff {t : Text} : encode? t = none ↔ ¬t.IsLatin1 := by
  rw [encode?, ite_eq_right_iff]
  simp [IsLatin1]

end Latin1

namespace Http

/-- Reason phrases are plain, and no control character is in them. -/
lemma isPlain_of_mem_reason (status : Int) : ∀ c ∈ reason status, c.IsPlain ∧ 0x20 ≤ c.toNat := by
  have hreasons : ∀ entry ∈ reasons, ∀ c ∈ Text.ofString entry.2, c.IsPlain ∧ 0x20 ≤ c.toNat := by
    decide +kernel
  unfold reason
  split
  · next hfind => exact hreasons _ (List.mem_of_find?_eq_some hfind)
  · decide

lemma isPlain_reason (status : Int) : IsPlain (reason status) :=
  fun c hc => (isPlain_of_mem_reason status c hc).1

namespace Message

/-- That a server with a name and a date can send an answer with headers of its own. -/
structure IsSendable (server date : Text) (headers : List (Text × Text)) : Prop where
  server : IsLatin1 server
  date : IsLatin1 date
  headers : ∀ field ∈ headers, IsLatin1 field.1 ∧ IsLatin1 field.2

section

variable {server date : Text} {answer : Answer} {headers : List (Text × Text)}

lemma isLatin1_head_iff : IsLatin1 (ofAnswer server date answer headers).head ↔
    IsSendable server date headers := by
  have hstatus : IsLatin1 (Text.ofInt answer.status) := (Text.isPlain_ofInt _).isLatin1
  have hreason : IsLatin1 (reason answer.status) := (isPlain_reason _).isLatin1
  have hlength (n : Nat) : IsLatin1 (Text.ofNat n) := (Text.isPlain_ofNat n).isLatin1
  have hwords : ∀ word ∈ ["HTTP/1.1 ", "\r\n", ": ", "Content-Type", "Content-Length", "Date",
      "Server", "Connection", "application/json; charset=utf-8", "close"],
      IsLatin1 (Text.ofString word) := by decide
  have hspace : (CodePoint.ofChar ' ').toNat < 0x100 := by decide
  simp only [List.forall_mem_cons] at hwords
  simp only [ofAnswer, head, lineEnd, Text.isLatin1_append, Text.isLatin1_cons,
    Text.isLatin1_flatMap, List.forall_mem_append, List.forall_mem_cons, hwords, hstatus, hreason,
    hlength, hspace, and_true, true_and]
  constructor
  · rintro ⟨hheaders, hdate, hserver, -⟩
    exact ⟨hserver, hdate, hheaders⟩
  · rintro ⟨hserver, hdate, hheaders⟩
    exact ⟨hheaders, hdate, hserver, by simp⟩

/-- Only the head of a message can keep it from being sent. -/
theorem bytes?_eq_none_iff :
    (ofAnswer server date answer headers).bytes? = none ↔ ¬IsSendable server date headers := by
  have hbody : ∃ body, Ascii.encode? (ofAnswer server date answer headers).body = some body := by
    have hall := List.all_eq_true.mpr (Json.isAscii_of_mem_write answer.data)
    exact ⟨_, if_pos hall⟩
  obtain ⟨body, hbody⟩ := hbody
  rw [← isLatin1_head_iff, ← Latin1.encode?_eq_none_iff, bytes?, hbody]
  cases Latin1.encode? (ofAnswer server date answer headers).head with
  | none => simp
  | some bytes => simp

end

end Message

end Http

end Courier
