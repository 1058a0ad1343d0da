import Courier.Proofs.Http.Lines
import Courier.Proofs.Http.Request
import Mathlib.Data.List.TakeWhile

/-!
# Reading what was written

A client writes a request down as its first line, its headers, the length of its body, an empty line
and the body. If the head is not too long, the reader takes exactly this request off the beginning of
the bytes, whatever follows: it finds the head again, which has no terminator inside, and a body of the
length that is written there. What terminators the body and the bytes behind it hold does not matter.
-/

namespace Courier

namespace CodePoint

lemma IsGraphic.isBlank {c : CodePoint} (h : c.IsGraphic) : c.isBlank = false := by
  obtain ⟨hlow, hhigh⟩ := h
  simp [CodePoint.isBlank, CodePoint.isIn, CodePoint.wideBlanks]
  omega

end CodePoint

namespace Http

/-- A request as a client writes it. -/
structure Written where
  method : Text
  target : Text
  version : Text
  headers : List (Text × Text)
  body : List UInt8

namespace Written

/-- The headers that are written: those of the request and the length of its body. -/
def fields (r : Written) : List (Text × Text) :=
  r.headers ++
    [(Text.ofString "Content-Length", CodePoint.ofChar ' ' :: Text.ofNat r.body.length)]

def requestLine (r : Written) : Text :=
  r.method ++ CodePoint.ofChar ' ' :: (r.target ++ CodePoint.ofChar ' ' :: r.version)

def headerLine (field : Text × Text) : Text := field.1 ++ CodePoint.ofChar ':' :: field.2

def lines (r : Written) : List Text := r.requestLine :: r.fields.map headerLine

/-- The text of the head, with the empty line at its end. -/
def head (r : Written) : Text := Head.ofLines r.lines

/-- What is meant by a header: the name in small letters and the value, without the blanks around
them. -/
def normalized (field : Text × Text) : Text × Text :=
  (Text.lowerLatin1 (Text.strip CodePoint.isBlank field.1), Text.strip CodePoint.isBlank field.2)

/-- A word of a first line. -/
structure IsWord (t : Text) : Prop where
  ne_nil : t ≠ []
  isLatin1 : t.IsLatin1
  isBlank : ∀ c ∈ t, c.isBlank = false

/-- A header that neither ends its line nor has a say in the length of the body. -/
structure IsHeader (field : Text × Text) : Prop where
  name : field.1.IsLatin1
  value : field.2.IsLatin1
  noColon : CodePoint.ofChar ':' ∉ field.1
  noReturn : CodePoint.ofChar '\r' ∉ field.1 ∧ CodePoint.ofChar '\r' ∉ field.2
  transferEncoding : (normalized field).1 ≠ Text.ofString "transfer-encoding"
  contentLength : (normalized field).1 ≠ Text.ofString "content-length"

/-- That a request can be written and is of the protocol. -/
structure IsProper (r : Written) : Prop where
  method : IsWord r.method
  target : IsWord r.target
  version : IsWord r.version
  protocol : Text.ofString "HTTP/" <+: r.version
  headers : ∀ field ∈ r.headers, IsHeader field

/-- What stands before the first question mark of a target, if there is one. -/
inductive IsPath : Text → Text → Prop
  | whole {path : Text} (h : CodePoint.ofChar '?' ∉ path) : IsPath path path
  | before {path query : Text} (h : CodePoint.ofChar '?' ∉ path) :
      IsPath (path ++ CodePoint.ofChar '?' :: query) path

/-- That a request says what was written. -/
structure IsReadAs (r : Written) (request : Request) : Prop where
  method : request.head.method = r.method
  target : request.head.target = r.target
  version : request.head.version = r.version
  path : ∃ path, IsPath r.target path ∧ request.head.path = Percent.decode path
  length : request.head.headers.get? (Text.ofString "content-length") =
    some (Text.ofNat r.body.length)
  headers : ∀ key, key ≠ Text.ofString "content-length" →
    request.head.headers.get? key = Fields.lastValue? (r.headers.map normalized) key
  body : request.body = r.body

end Written

/-- The bytes behind the request that was read from a byte sequence: the reader takes the head with its
terminator and the body. -/
def unread (raw : List UInt8) (request : Request) : List UInt8 :=
  match Head.cut? raw with
  | some (_, rest) => rest.drop request.body.length
  | none => raw

namespace Written

/-! ## The lines of the head -/

section

variable {r : Written} {t : Text} {field : Text × Text}

lemma IsWord.isInline (h : IsWord t) : t.IsInline := by
  refine Text.isInline_iff.mpr ⟨h.isLatin1, fun hmem => ?_⟩
  exact absurd (h.isBlank _ hmem) (by decide)

lemma IsHeader.isLine (h : IsHeader field) : Head.IsLine (headerLine field) := by
  refine ⟨by simp [headerLine], ?_⟩
  simp only [headerLine, Text.isInline_append, Text.isInline_cons]
  exact ⟨Text.isInline_iff.mpr ⟨h.name, h.noReturn.1⟩, by decide,
    Text.isInline_iff.mpr ⟨h.value, h.noReturn.2⟩⟩

lemma IsProper.isLine_requestLine (h : r.IsProper) : Head.IsLine r.requestLine := by
  refine ⟨by simp [requestLine], ?_⟩
  simp only [requestLine, Text.isInline_append, Text.isInline_cons]
  exact ⟨h.method.isInline, by decide, h.target.isInline, by decide, h.version.isInline⟩

/-- The line with the length is like that of any other header. -/
lemma isLine_length {digits : Text} (h : ∀ c ∈ digits, c.isDigit = true) : Head.IsLine
    (headerLine (Text.ofString "Content-Length", CodePoint.ofChar ' ' :: digits)) := by
  refine ⟨by simp [headerLine], ?_⟩
  simp only [headerLine, Text.isInline_append, Text.isInline_cons]
  exact ⟨by decide, by decide, by decide, Text.isInline_of_isDigit h⟩

lemma IsProper.isLine (h : r.IsProper) : ∀ line ∈ r.lines, Head.IsLine line := by
  simp only [lines, fields, List.map_append, List.map_cons, List.map_nil, List.forall_mem_cons,
    List.forall_mem_append, List.forall_mem_map]
  exact ⟨h.isLine_requestLine, fun field hfield => (h.headers field hfield).isLine,
    isLine_length fun _ => Text.isDigit_of_mem_ofNat, by simp⟩

/-! ## What the head says -/

lemma isWords_requestLine (h : r.IsProper) :
    Text.IsWords CodePoint.isBlank r.requestLine [r.method, r.target, r.version] := by
  have hspace : ∀ c ∈ [CodePoint.ofChar ' '], c.isBlank = true := by decide
  have hstop : ∀ t : Text, ∀ c ∈ (CodePoint.ofChar ' ' :: t).head?, c.isBlank = true := by
    rintro t c ⟨⟩
    decide
  have hnil : Text.IsWords CodePoint.isBlank [] [] := .nil (by simp)
  have hversion := Text.IsWords.cons hspace h.version.ne_nil h.version.isBlank (by simp) hnil
  have htarget := Text.IsWords.cons hspace h.target.ne_nil h.target.isBlank (hstop _) hversion
  have hmethod := Text.IsWords.cons_word h.method.ne_nil h.method.isBlank (hstop _) htarget
  simpa [requestLine] using hmethod

lemma isField_headerLine (hline : Head.IsLine (headerLine field))
    (hcolon : CodePoint.ofChar ':' ∉ field.1) :
    Head.IsField (Latin1.bytes (headerLine field)) (normalized field) :=
  .mk (Latin1.decode_bytes hline.isLatin1) hcolon

lemma normalized_length {digits : Text} (h : ∀ c ∈ digits, c.isDigit = true) :
    normalized (Text.ofString "Content-Length", CodePoint.ofChar ' ' :: digits) =
      (Text.ofString "content-length", digits) := by
  have hname : Text.lowerLatin1 (Text.strip CodePoint.isBlank (Text.ofString "Content-Length")) =
      Text.ofString "content-length" := by decide
  have hdigits : ∀ c ∈ digits, c.isBlank = false :=
    fun c hc => (CodePoint.isGraphic_of_isDigit (h c hc)).isBlank
  have hspace : ∀ c ∈ [CodePoint.ofChar ' '], c.isBlank = true := by decide
  exact Prod.ext hname (Text.strip_append_of_neg hspace hdigits)

lemma normalized_bodyLength (r : Written) :
    normalized (Text.ofString "Content-Length", CodePoint.ofChar ' ' :: Text.ofNat r.body.length) =
      (Text.ofString "content-length", Text.ofNat r.body.length) :=
  normalized_length fun _ => Text.isDigit_of_mem_ofNat

lemma lastValue?_fields (r : Written) (key : Text) :
    Fields.lastValue? (r.fields.map normalized) key =
      if Text.ofString "content-length" = key then some (Text.ofNat r.body.length)
      else Fields.lastValue? (r.headers.map normalized) key := by
  rw [fields, List.map_append, List.map_singleton, normalized_bodyLength,
    Fields.lastValue?_append_singleton]

lemma lengthText_fields (r : Written) :
    Head.lengthText (r.fields.map normalized) = Text.ofNat r.body.length := by
  rw [Head.lengthText, lastValue?_fields, if_pos rfl, Option.getD_some]

lemma IsProper.forall₂_isField (h : r.IsProper) :
    List.Forall₂ Head.IsField ((r.fields.map headerLine).map Latin1.bytes)
      (r.fields.map normalized) := by
  rw [List.map_map, List.forall₂_map_left_iff, List.forall₂_map_right_iff, List.forall₂_same]
  simp only [fields, List.forall_mem_append, List.forall_mem_singleton]
  have hcolon : CodePoint.ofChar ':' ∉ Text.ofString "Content-Length" := by decide
  refine ⟨fun field hfield => ?_, isField_headerLine (isLine_length fun _ => Text.isDigit_of_mem_ofNat) hcolon⟩
  exact isField_headerLine (h.headers field hfield).isLine (h.headers field hfield).noColon

/-- The lines that were written say what the request says. -/
lemma IsProper.says (h : r.IsProper) {head : List UInt8}
    (hlines : Head.IsLines head (r.lines.map Latin1.bytes)) :
    Head.Says head r.method r.target r.version (r.fields.map normalized) := by
  rw [lines, List.map_cons] at hlines
  refine .mk hlines ?_ h.protocol ?_
  · rw [Latin1.decode_bytes h.isLine_requestLine.isLatin1]
    exact isWords_requestLine h
  · have hne : ∀ line ∈ (r.fields.map headerLine).map Latin1.bytes, line ≠ [] := by
      intro bytes hbytes
      obtain ⟨line, hline, rfl⟩ := List.mem_map.mp hbytes
      exact (h.isLine line (List.mem_cons_of_mem _ hline)).bytes.1
    rw [List.filter_eq_self.mpr (by simpa using hne)]
    exact h.forall₂_isField

lemma IsProper.transferEncoding_notMem (h : r.IsProper) :
    Text.ofString "transfer-encoding" ∉ (r.fields.map normalized).map (·.1) := by
  rw [List.map_map, List.mem_map]
  rintro ⟨field, hfield, hname⟩
  rw [fields, List.mem_append, List.mem_singleton] at hfield
  rcases hfield with hfield | rfl
  · exact (h.headers field hfield).transferEncoding hname
  · rw [Function.comp_apply, normalized_bodyLength, Text.ofString_inj] at hname
    exact absurd hname (by decide)

/-- The head declares the length of the body, if it has not too many digits. -/
lemma IsProper.declares (h : r.IsProper)
    (hdigits : (Text.ofNat r.body.length).length ≤ maxLengthDigits) :
    Head.Declares (r.fields.map normalized) r.body.length := by
  have hlength : Head.IsLength (Head.lengthText (r.fields.map normalized)) := by
    rw [lengthText_fields]
    exact ⟨Text.ofNat_ne_nil _, hdigits, fun _ => Text.isDigit_of_mem_ofNat⟩
  have hdeclares := Head.Declares.mk h.transferEncoding_notMem hlength
  rwa [lengthText_fields, Text.digitsValue_ofNat] at hdeclares

/-! ## What is read -/

lemma IsPath.takeWhile_eq {target path : Text} (h : IsPath target path) :
    (target.takeWhile fun c => !(c = CodePoint.ofChar '?')) = path := by
  have hkeep : CodePoint.ofChar '?' ∉ path →
      ∀ c ∈ path, (!decide (c = CodePoint.ofChar '?')) = true := by
    intro hpath c hc
    rw [Bool.not_eq_true', decide_eq_false_iff_not]
    rintro rfl
    exact hpath hc
  cases h with
  | whole h => exact List.takeWhile_eq_self_iff.mpr (hkeep h)
  | before h =>
    rw [List.takeWhile_append_of_pos (hkeep h), List.takeWhile_cons_of_neg (by simp),
      List.append_nil]

lemma isPath_takeWhile (target : Text) :
    IsPath target (target.takeWhile fun c => !(c = CodePoint.ofChar '?')) := by
  cases hcut : Text.cut? '?' target with
  | none =>
    have hpath := IsPath.whole (Text.cut?_eq_none_iff.mp hcut)
    rwa [hpath.takeWhile_eq]
  | some parts =>
    obtain ⟨rfl, hbefore⟩ := Text.cut?_eq_some_iff.mp hcut
    have hpath : IsPath (parts.1 ++ CodePoint.ofChar '?' :: parts.2) parts.1 := .before hbefore
    rwa [hpath.takeWhile_eq]

/-- The request that is read says what was written. -/
lemma isReadAs (r : Written) : r.IsReadAs
    ⟨⟨r.method, r.target, r.version, Fields.ofEntries (r.fields.map normalized)⟩, r.body⟩ where
  method := rfl
  target := rfl
  version := rfl
  path := ⟨_, isPath_takeWhile r.target, rfl⟩
  length := by rw [Fields.get?_ofEntries, lastValue?_fields, if_pos rfl]
  headers := by
    intro key hkey
    rw [Fields.get?_ofEntries, lastValue?_fields, if_neg (Ne.symm hkey)]
  body := rfl

lemma unread_of_cuts {raw head rest : List UInt8} {request : Request}
    (h : Head.Cuts raw head (request.body ++ rest)) : unread raw request = rest := by
  rw [unread, Head.cut?_eq_some_iff.mpr h]
  exact List.drop_left

/-- **Reading undoes writing**: the bytes of a request that can be written, with a head that is not too
long and a body that is accepted, are read as this request, whatever follows them, and what follows is
left. Only a body of so many bytes that their number has too many digits is refused. -/
theorem readRequest_written (hproper : r.IsProper) (hhead : r.head.length ≤ maxHead + 4)
    {maxBody : Nat} (hbody : r.body.length ≤ maxBody) :
    ∃ bytes, Latin1.encode? r.head = some bytes ∧ ∀ extra,
      ((Text.ofNat r.body.length).length ≤ maxLengthDigits → ∃ request,
        readRequest maxBody (bytes ++ (r.body ++ extra)) = .ok request ∧ r.IsReadAs request ∧
          unread (bytes ++ (r.body ++ extra)) request = extra) ∧
      (maxLengthDigits < (Text.ofNat r.body.length).length →
        readRequest maxBody (bytes ++ (r.body ++ extra)) = .error .malformed) := by
  obtain ⟨head, hencode, hlength, hlines, hcuts⟩ :=
    Head.exists_head_ofLines (List.cons_ne_nil r.requestLine (r.fields.map headerLine)) hproper.isLine
  have hshort : head.length ≤ maxHead := by
    rw [Written.head, lines, ← hlength] at hhead
    exact Nat.le_of_add_le_add_right hhead
  have hsays := hproper.says hlines
  refine ⟨_, hencode, fun extra => ?_⟩
  rw [List.append_assoc]
  have hcuts := hcuts (r.body ++ extra)
  constructor
  · intro hdigits
    have hreads := Reads.request hcuts hshort hsays (hproper.declares hdigits) hbody
    exact ⟨_, hreads.readRequest_eq, isReadAs r, unread_of_cuts hcuts⟩
  · intro hdigits
    obtain ⟨hraw, -, -, hfields⟩ := hsays
    refine (Reads.malformed hcuts hshort (.length hraw hfields ?_)).readRequest_eq
    intro h
    rw [lengthText_fields] at h
    exact absurd h.length_le (Nat.not_le.mpr hdigits)

/-- A header that is repeated, and terminators in the body. -/
theorem readRequest_written_repeated :
    let r : Written := {
      method := "POST"
      target := "/caf%C3%A9?x=?"
      version := "HTTP/1.1"
      headers := [("X-Tag ", " 1"), ("Accept", ""), ("x-tag", "\t2 ")]
      body := "\r\n\r\n7".toUTF8.toList }
    r.IsProper ∧ r.head.length ≤ maxHead + 4 ∧ r.body.length ≤ 5 ∧
      (Text.ofNat r.body.length).length ≤ maxLengthDigits ∧
      ∃ bytes, Latin1.encode? r.head = some bytes ∧ ∀ extra, ∃ request,
        readRequest 5 (bytes ++ (r.body ++ extra)) = .ok request ∧ r.IsReadAs request ∧
          unread (bytes ++ (r.body ++ extra)) request = extra := by
  intro r
  have hmethod : IsWord r.method := ⟨by decide, by decide, by decide⟩
  have htarget : IsWord r.target := ⟨by decide, by decide, by decide⟩
  have hversion : IsWord r.version := ⟨by decide, by decide, by decide⟩
  have hheaders : ∀ field ∈ r.headers, IsHeader field := by
    simp only [r, List.forall_mem_cons]
    exact ⟨⟨by decide, by decide, by decide, by decide, by decide, by decide⟩,
      ⟨by decide, by decide, by decide, by decide, by decide, by decide⟩,
      ⟨by decide, by decide, by decide, by decide, by decide, by decide⟩, by simp⟩
  have hproper : r.IsProper := ⟨hmethod, htarget, hversion, by decide, hheaders⟩
  have hhead : r.head.length ≤ maxHead + 4 := by decide +kernel
  have hbody : r.body.length ≤ 5 := by decide +kernel
  have hdigits : (Text.ofNat r.body.length).length ≤ maxLengthDigits := by decide +kernel
  obtain ⟨bytes, hencode, hread⟩ := readRequest_written hproper hhead hbody
  exact ⟨hproper, hhead, hbody, hdigits, bytes, hencode, fun extra => (hread extra).1 hdigits⟩

end

end Written

end Http

end Courier
