import Courier.Proofs.Text.Words
import Courier.Proofs.Url.Query

/-!
# The pairs of a query string

A query string loses nothing of the keys of an object and of the texts of its values. Neither the
ampersand between two pairs nor the equals sign within a pair can come from a key or a value, where both
would be encoded, so that the string is split at the same places again, and each half is decoded to what
it was.
-/

namespace Courier

namespace Query

/-- The key and the value of a pair: both sides of its only equals sign, decoded. -/
def readPair? (pair : Text) : Option (Text × Text) :=
  match Text.splitOn '=' pair with
  | [key, value] => do
    let key ← Percent.decode? key
    let value ← Percent.decode? value
    return (key, value)
  | _ => none

/-- The keys and the values of a query string, between its ampersands. -/
def pairs? (encoded : Text) : Option (List (Text × Text)) :=
  (Text.splitOn '&' encoded).mapM readPair?

/-- That a text consists of code points that stand for themselves, of bytes with digits in capital
letters, and of the two code points that stand between keys and values. -/
inductive IsSpelled : Text → Prop
  | nil : IsSpelled []
  | unreserved {c : CodePoint} {t : Text} (hc : Percent.isUnreserved c = true) (h : IsSpelled t) :
      IsSpelled (c :: t)
  | byte {high low : CodePoint} {t : Text} (hhigh : high.isHexUpper = true)
      (hlow : low.isHexUpper = true) (h : IsSpelled t) :
      IsSpelled (CodePoint.ofChar '%' :: high :: low :: t)
  | equals {t : Text} (h : IsSpelled t) : IsSpelled (CodePoint.ofChar '=' :: t)
  | ampersand {t : Text} (h : IsSpelled t) : IsSpelled (CodePoint.ofChar '&' :: t)

/-! ## How query strings are spelled -/

section

variable {s t : Text}

lemma IsSpelled.append (hs : IsSpelled s) (ht : IsSpelled t) : IsSpelled (s ++ t) := by
  induction hs with
  | nil => exact ht
  | unreserved hc _ ih => exact .unreserved hc ih
  | byte hhigh hlow _ ih => exact .byte hhigh hlow ih
  | equals _ ih => exact .equals ih
  | ampersand _ ih => exact .ampersand ih

lemma isSpelled_flatMap {α : Type} {items : List α} {f : α → Text}
    (h : ∀ item ∈ items, IsSpelled (f item)) : IsSpelled (items.flatMap f) := by
  induction items with
  | nil => exact .nil
  | cons item items ih =>
    obtain ⟨hitem, hitems⟩ := List.forall_mem_cons.1 h
    exact hitem.append (ih hitems)

lemma isSpelled_encodeByte (b : UInt8) : IsSpelled (Percent.encodeByte b) := by
  have hb := b.toNat_lt
  exact .byte (CodePoint.isHexUpper_hexUpper _ (by omega))
    (CodePoint.isHexUpper_hexUpper _ (by omega)) .nil

lemma isSpelled_encoded (t : Text) : IsSpelled (t.flatMap Percent.encodeCodePoint) := by
  refine isSpelled_flatMap fun c _ => ?_
  unfold Percent.encodeCodePoint
  split
  · next hc => exact .unreserved hc .nil
  · exact isSpelled_flatMap fun b _ => isSpelled_encodeByte b

lemma isSpelled_pairText (member : Text × Json) : IsSpelled (pairText member) :=
  (isSpelled_encoded _).append (.equals (isSpelled_encoded _))

lemma isSpelled_join {pairs : List Text} (h : ∀ pair ∈ pairs, IsSpelled pair) :
    IsSpelled (Text.join [CodePoint.ofChar '&'] pairs) := by
  cases pairs with
  | nil => exact .nil
  | cons pair pairs =>
    obtain ⟨hpair, hpairs⟩ := List.forall_mem_cons.1 h
    exact hpair.append (isSpelled_flatMap fun next hnext => .ampersand (hpairs next hnext))

end

/-! ## Reading query strings -/

lemma ampersand_notMem_pairText (member : Text × Json) :
    CodePoint.ofChar '&' ∉ pairText member := by
  rw [pairText, List.mem_append, List.mem_cons, not_or, not_or]
  exact ⟨Percent.notMem_encoded (by decide) _, by decide, Percent.notMem_encoded (by decide) _⟩

/-- A pair is read for the key and for the text of the value. -/
lemma readPair?_pairText {member : Text × Json} (hkey : Text.hasSurrogate member.1 = false)
    (hvalue : member.2.isEncodable = true) :
    readPair? (pairText member) = some (member.1, member.2.toText) := by
  have htext : Text.hasSurrogate member.2.toText = false := by
    rw [Json.hasSurrogate_toText, hvalue, Bool.not_true]
  have hsplit : Text.splitOn '=' (pairText member) =
      [member.1.flatMap Percent.encodeCodePoint,
        member.2.toText.flatMap Percent.encodeCodePoint] := by
    rw [pairText, Text.splitOn_append_cons (Percent.notMem_encoded (by decide) _),
      Text.splitOn_of_notMem (Percent.notMem_encoded (by decide) _)]
  rw [readPair?, hsplit]
  dsimp only
  rw [Percent.decode?_encoded hkey, Percent.decode?_encoded htext]
  rfl

lemma mapM_readPair?_pairText {query : Json.Object} (h : (Json.object query).isEncodable = true) :
    (query.map pairText).mapM readPair? =
      some (query.map fun member => (member.1, member.2.toText)) := by
  rw [Json.isEncodable_object] at h
  induction query with
  | nil => rfl
  | cons member query ih =>
    obtain ⟨⟨hkey, hvalue⟩, hquery⟩ := List.forall_mem_cons.1 h
    rw [List.map_cons, List.mapM_cons, readPair?_pairText hkey hvalue, ih hquery]
    rfl

/-- The pairs of a query string are found again. -/
lemma pairs?_join {query : Json.Object} (hne : query ≠ [])
    (h : (Json.object query).isEncodable = true) :
    pairs? (Text.join [CodePoint.ofChar '&'] (query.map pairText)) =
      some (query.map fun member => (member.1, member.2.toText)) := by
  have hnotMem : ∀ pair ∈ query.map pairText, CodePoint.ofChar '&' ∉ pair :=
    List.forall_mem_map.2 fun member _ => ampersand_notMem_pairText member
  have hpairs : query.map pairText ≠ [] := by simpa using hne
  rw [pairs?, Text.splitOn_join hpairs hnotMem, mapM_readPair?_pairText h]

/-- **A query string loses nothing.** Every encodable object has one, which is empty only if the object
is and in which only few code points occur, and reading it gives the keys and the texts of the values in
their order. -/
theorem pairs?_encode {query : Json.Object} (h : (Json.object query).isEncodable = true) :
    ∃ encoded, encode query = .ok encoded ∧ (encoded = [] ↔ query = []) ∧ IsSpelled encoded ∧
      (query ≠ [] →
        pairs? encoded = some (query.map fun member => (member.1, member.2.toText))) := by
  have hencode := encode_of_isEncodable h
  refine ⟨_, hencode, ⟨?_, ?_⟩, ?_, fun hne => pairs?_join hne h⟩
  · intro hnil
    by_contra hne
    exact encode_ne_nil hne (hnil ▸ hencode)
  · rintro rfl
    rfl
  · exact isSpelled_join (List.forall_mem_map.2 fun member _ => isSpelled_pairText member)

/-- Separators, a percent sign and an empty key are among what is found again. -/
theorem pairs?_encode_separators :
    let query : Json.Object := [("", .string "&=%+?# "), ("é€😀&", .array [.int 1, .string "="])]
    (Json.object query).isEncodable = true ∧ query ≠ [] ∧
      ∃ encoded, encode query = .ok encoded ∧ IsSpelled encoded ∧
        pairs? encoded = some [(Text.ofString "", Text.ofString "&=%+?# "),
          (Text.ofString "é€😀&", Text.ofString "[1,\"=\"]")] := by
  intro query
  have hencodable : (Json.object query).isEncodable = true := by decide
  have hne : query ≠ [] := List.cons_ne_nil _ _
  obtain ⟨encoded, hencoded, -, hspelled, hpairs⟩ := pairs?_encode hencodable
  refine ⟨hencodable, hne, encoded, hencoded, hspelled, ?_⟩
  rw [hpairs hne]
  decide +kernel

end Query

end Courier
