import Courier.Proofs.Http.Connection
import Courier.Proofs.Http.Writing
import Mathlib

/-!
# The length of a body

A head may declare the length of the body by a run of digits of any length. As long as the run is not
longer than the digits of an integer may be, only the number that it denotes counts: it is compared with
the limit, then with the bytes that are there, and if it passes, so many bytes go to the handler. A run
that is too long is refused as malformed instead, though it may denote a small number, which further zeros
in front have not changed, or one beyond the limit.
-/

namespace Courier

namespace Http

/-- That a byte sequence begins with a head for a method and a target, which is not too long and says
nothing about the length of the body but a run of digits, and which bytes follow it. -/
inductive Measures (raw : List UInt8) (method target digits : Text) (rest : List UInt8) : Prop
  | mk {head : List UInt8} {version : Text} {fields : List (Text × Text)}
      (hcuts : Head.Cuts raw head rest) (hlength : head.length ≤ maxHead)
      (hheld : Head.Says head method target version fields)
      (htransfer : Text.ofString "transfer-encoding" ∉ fields.map (·.1))
      (honly : (fields.filter fun field => field.1 = Text.ofString "content-length") =
        [(Text.ofString "content-length", digits)])
      (hne : digits ≠ []) (hdigit : ∀ c ∈ digits, c.isDigit = true) :
      Measures raw method target digits rest

/-- What is answered on account of the number of bytes that a body should have, and what becomes of the
world. -/
inductive NumberDecides (server : Server) (w : World) (method target : Text) (n : Nat)
    (rest : List UInt8) : Option (Answer × List (Text × Text)) → World → Prop
  | tooLong (hlong : server.maxBody < n) :
      NumberDecides server w method target n rest
        (some (errorAnswer 413 (Text.ofString "Payload Too Large"), [])) w
  /-- There are not so many bytes, and nobody is left to read an answer. -/
  | unfinished (hn : n ≤ server.maxBody) (hshort : rest.length < n) :
      NumberDecides server w method target n rest none w
  /-- So many bytes are the body of a request. -/
  | answered {request : Request} {body extra : List UInt8} {answer : Answer × List (Text × Text)}
      {w' : World} (hn : n ≤ server.maxBody) (hrest : rest = body ++ extra)
      (hlength : body.length = n) (hmethod : request.head.method = method)
      (htarget : request.head.target = target) (hbody : request.body = body)
      (hanswers : Answers server.router w request answer w') :
      NumberDecides server w method target n rest (some answer) w'

section

variable {server : Server} {w w' : World} {method target digits : Text} {raw rest : List UInt8}
  {n : Nat} {answer : Option (Answer × List (Text × Text))}

/-! ## What the number decides -/

/-- Of a request only the method, the target and the body are looked at. -/
lemma dispatch_congr {request request' : Request}
    (hmethod : request.head.method = request'.head.method)
    (htarget : request.head.target = request'.head.target) (hbody : request.body = request'.body) :
    dispatch server.router w request = dispatch server.router w request' := by
  have hpath : request.head.path = request'.head.path := by
    rw [Head.path, Head.path, htarget]
  unfold dispatch crashLine
  rw [hmethod, hpath, hbody]

lemma exists_numberDecides (server : Server) (w : World) (method target : Text) (n : Nat)
    (rest : List UInt8) : ∃ answer w', NumberDecides server w method target n rest answer w' := by
  rcases Nat.lt_or_ge server.maxBody n with hlong | hn
  · exact ⟨_, _, .tooLong hlong⟩
  · rcases Nat.lt_or_ge rest.length n with hshort | hrest
    · exact ⟨_, _, .unfinished hn hshort⟩
    · obtain ⟨answer, w', hanswers⟩ :=
        exists_answers server.router w ⟨⟨method, target, [], []⟩, rest.take n⟩
      exact ⟨_, _, .answered hn (List.take_append_drop n rest).symm (List.length_take_of_le hrest)
        rfl rfl rfl hanswers⟩

/-! ## Runs of digits -/

lemma lengthText_of_only {fields : List (Text × Text)}
    (honly : (fields.filter fun field => field.1 = Text.ofString "content-length") =
      [(Text.ofString "content-length", digits)]) : Head.lengthText fields = digits := by
  rw [Head.lengthText, Fields.lastValue?, honly]
  rfl

/-- A run that is not too long declares its number. -/
lemma Measures.declares (h : Measures raw method target digits rest)
    (hdigits : digits.length ≤ maxLengthDigits) : ∃ head version fields, Head.Cuts raw head rest ∧
      head.length ≤ maxHead ∧ Head.Says head method target version fields ∧
        Head.Declares fields (Text.digitsValue digits) := by
  obtain ⟨hcuts, hlength, hheld, htransfer, honly, hne, hdigit⟩ := h
  have hrun : Head.IsLength digits := ⟨hne, hdigits, hdigit⟩
  rw [← lengthText_of_only honly] at hrun ⊢
  exact ⟨_, _, _, hcuts, hlength, hheld, .mk htransfer hrun⟩

/-- A run that is too long declares nothing. -/
lemma Measures.reads_malformed (h : Measures raw method target digits rest)
    (hdigits : maxLengthDigits < digits.length) (maxBody : Nat) :
    Reads maxBody raw (.error .malformed) := by
  obtain ⟨hcuts, hlength, ⟨hlines, -, -, hfields⟩, -, honly, -, -⟩ := h
  refine .malformed hcuts hlength (.length hlines hfields ?_)
  rw [lengthText_of_only honly]
  exact fun hrun => absurd hrun.length_le (Nat.not_le.mpr hdigits)

lemma Measures.readRequest_ne (h : Measures raw method target digits rest)
    (hdigits : digits.length ≤ maxLengthDigits) (maxBody : Nat) :
    readRequest maxBody raw ≠ .error .malformed := by
  obtain ⟨head, version, fields, hcuts, hlength, hheld, hdeclares⟩ := h.declares hdigits
  rw [readRequest_of_declares hcuts hlength hheld hdeclares]
  split
  · simp
  · split <;> simp

/-- What the number decides is what the server decides. -/
lemma NumberDecides.decides
    (hnumber : NumberDecides server w method target (Text.digitsValue digits) rest answer w')
    (h : Measures raw method target digits rest) (hdigits : digits.length ≤ maxLengthDigits) :
    Decides server w raw answer w' := by
  obtain ⟨head, version, fields, hcuts, hlength, hheld, hdeclares⟩ := h.declares hdigits
  cases hnumber with
  | tooLong hlong => exact .bodyTooLong (.bodyTooLong hcuts hlength hheld hdeclares hlong)
  | unfinished hn hshort =>
    exact .incomplete (.bodyUnfinished hcuts hlength hheld hdeclares hn hshort)
  | @answered request body extra answer _ hn hrest hbodyLength hmethod htarget hbody hanswers =>
    subst hrest
    rw [← hbodyLength] at hdeclares hn
    refine .answered (.request hcuts hlength hheld hdeclares hn) ?_
    rw [← dispatch_eq_iff] at hanswers ⊢
    rw [← hanswers]
    exact dispatch_congr hmethod.symm htarget.symm hbody.symm

/-- The line that declares a length by a run of digits. -/
def lengthLine (digits : Text) : Text :=
  Written.headerLine (Text.ofString "Content-Length", CodePoint.ofChar ' ' :: digits)

/-- A head of a first line and a line with the length. -/
def sizedHead (first digits : Text) : Text := Head.ofLines [first, lengthLine digits]

/-- Any run of digits can be sent, as far as the head does not become too long. -/
lemma measures_sizedHead {first version : Text} (hfirst : Head.IsLine first)
    (hwords : Text.IsWords CodePoint.isBlank first [method, target, version])
    (hversion : Text.ofString "HTTP/" <+: version) (hne : digits ≠ [])
    (hdigit : ∀ c ∈ digits, c.isDigit = true)
    (hlength : (sizedHead first digits).length ≤ maxHead + 4) (rest : List UInt8) :
    Measures (Latin1.bytes (sizedHead first digits) ++ rest) method target digits rest := by
  have hsized : Head.IsLine (lengthLine digits) := Written.isLine_length hdigit
  have hlines : ∀ line ∈ [first, lengthLine digits], Head.IsLine line := by
    simpa using ⟨hfirst, hsized⟩
  obtain ⟨head, hencode, hhead, hraw, hcuts⟩ :=
    Head.exists_head_ofLines (List.cons_ne_nil _ _) hlines
  rw [Latin1.encode?_eq_some (Head.isLatin1_ofLines hlines), Option.some_inj] at hencode
  have hcolon : CodePoint.ofChar ':' ∉ Text.ofString "Content-Length" := by decide
  have hfield := Written.isField_headerLine hsized hcolon
  rw [Written.normalized_length hdigit] at hfield
  have hheld : Head.Says head method target version [(Text.ofString "content-length", digits)] := by
    refine .mk hraw ?_ hversion ?_
    · rwa [Latin1.decode_bytes hfirst.isLatin1]
    · have hkeep : ∀ line ∈ [Latin1.bytes (lengthLine digits)], decide (line ≠ []) = true := by
        simpa using hsized.ne_nil
      rw [List.map_singleton, List.filter_eq_self.mpr hkeep]
      exact .cons hfield .nil
  rw [sizedHead, hencode, List.append_assoc]
  refine .mk (hcuts rest) ?_ hheld ?_ ?_ hne hdigit
  · rw [sizedHead, ← hhead] at hlength
    exact Nat.le_of_add_le_add_right hlength
  · rw [List.map_singleton, List.mem_singleton, Text.ofString_inj]
    decide
  · simp

/-! ## What a connection comes to -/

lemma Measures.serve_eq_iff_number (h : Measures raw method target digits rest)
    (hdigits : digits.length ≤ maxLengthDigits) {outcome : Outcome} :
    server.serve w raw {} = (outcome, w') ↔ ∃ answer,
      NumberDecides server w method target (Text.digitsValue digits) rest answer w' ∧
        Delivers server answer outcome := by
  constructor
  · intro hserve
    obtain ⟨answer, after, hnumber⟩ :=
      exists_numberDecides server w method target (Text.digitsValue digits) rest
    obtain ⟨rfl, hdelivers⟩ := (hnumber.decides h hdigits).serve_iff.mp hserve
    exact ⟨answer, hnumber, hdelivers⟩
  · rintro ⟨answer, hnumber, hdelivers⟩
    exact (hnumber.decides h hdigits).serve_iff.mpr ⟨rfl, hdelivers⟩

lemma Measures.serve_eq_iff_malformed (h : Measures raw method target digits rest)
    (hdigits : maxLengthDigits < digits.length) {outcome : Outcome} :
    server.serve w raw {} = (outcome, w') ↔ w' = w ∧
      Delivers server (some (errorAnswer 400 (Text.ofString "Bad Request"), [])) outcome :=
  (Decides.malformed (h.reads_malformed hdigits _)).serve_iff

/-- **The number alone decides about a body whose length is declared with at most 4300 digits**: beyond
the limit it is refused as too long, whatever follows; otherwise so many bytes are the body of the
request, or nothing is answered if they are not there. All runs of digits for one number have the same
outcome then, and none of them is malformed. A longer run is, whichever number it denotes. -/
theorem serve_measured (h : Measures raw method target digits rest) (server : Server) (w : World) :
    (digits.length ≤ maxLengthDigits →
      (∀ outcome w', server.serve w raw {} = (outcome, w') ↔ ∃ answer,
        NumberDecides server w method target (Text.digitsValue digits) rest answer w' ∧
          Delivers server answer outcome) ∧
      (∀ raw' digits', Measures raw' method target digits' rest →
        digits'.length ≤ maxLengthDigits → Text.digitsValue digits' = Text.digitsValue digits →
          server.serve w raw' {} = server.serve w raw {}) ∧
      readRequest server.maxBody raw ≠ .error .malformed) ∧
    (maxLengthDigits < digits.length →
      (∀ outcome w', server.serve w raw {} = (outcome, w') ↔ w' = w ∧
        Delivers server (some (errorAnswer 400 (Text.ofString "Bad Request"), [])) outcome) ∧
      readRequest server.maxBody raw = .error .malformed) := by
  constructor
  · intro hdigits
    refine ⟨fun _ _ => h.serve_eq_iff_number hdigits, ?_, h.readRequest_ne hdigits _⟩
    intro raw' digits' h' hdigits' hvalue
    cases hserve : server.serve w raw {} with
    | mk outcome after =>
      obtain ⟨answer, hnumber, hdelivers⟩ := (h.serve_eq_iff_number hdigits).mp hserve
      rw [← hvalue] at hnumber
      exact (h'.serve_eq_iff_number hdigits').mpr ⟨answer, hnumber, hdelivers⟩
  · intro hdigits
    exact ⟨fun _ _ => h.serve_eq_iff_malformed hdigits, (h.reads_malformed hdigits _).readRequest_eq⟩

/-- Zeros in front do not matter, until there are too many of them. -/
theorem serve_measured_zeros :
    let server : Server := {
      router := { routes := [⟨"POST", "/", fun w payload => (.ok ⟨200, payload⟩, w)⟩] }
      maxBody := 10
      name := "echo"
      date := "today" }
    let digits (zeros : Nat) : Text := List.replicate zeros Text.zeroDigit ++ Text.ofNat 2
    let rest := "[] 7".toUTF8.toList
    let raw (zeros : Nat) := Latin1.bytes (sizedHead "POST / HTTP/1.1" (digits zeros)) ++ rest
    (Measures (raw 0) "POST" "/" (digits 0) rest ∧
      Measures (raw 4299) "POST" "/" (digits 4299) rest ∧
        Measures (raw 4300) "POST" "/" (digits 4300) rest) ∧
      server.serve {} (raw 4299) {} = server.serve {} (raw 0) {} ∧
        (server.serve {} (raw 4300) {}).1.response =
          some (Message.ofAnswer "echo" "today" (errorAnswer 400 "Bad Request") []) := by
  intro server digits rest raw
  have hlength : ∀ zeros, (digits zeros).length = zeros + 1 := by
    intro zeros
    rw [List.length_append, List.length_replicate]
    rfl
  have hvalue : ∀ zeros, Text.digitsValue (digits zeros) = 2 := by
    intro zeros
    rw [Text.digitsValue_append, Text.digitsValue_replicate_zero, Text.digitsValue_ofNat]
    simp
  have hmeasures : ∀ zeros ≤ 4300, Measures (raw zeros) "POST" "/" (digits zeros) rest := by
    intro zeros hzeros
    have hfirst : Head.IsLine "POST / HTTP/1.1" := ⟨by decide, by decide⟩
    have hwords : Text.IsWords CodePoint.isBlank "POST / HTTP/1.1" ["POST", "/", "HTTP/1.1"] :=
      Text.words_eq_iff.mp (by decide)
    have hdigit : ∀ c ∈ digits zeros, c.isDigit = true := by
      intro c hc
      rcases List.mem_append.mp hc with hc | hc
      · rw [List.eq_of_mem_replicate hc]
        decide
      · exact Text.isDigit_of_mem_ofNat hc
    refine measures_sizedHead hfirst hwords (by decide) (by simp [digits]) hdigit ?_ rest
    have hdigits := hlength zeros
    simp only [sizedHead, lengthLine, Head.ofLines, Written.headerLine]
    simp [Text.ofString, Message.lineEnd, maxHead, hdigits]
    omega
  have hzero := hmeasures 0 (Nat.zero_le _)
  have hshort := hmeasures 4299 (by decide)
  have hlong := hmeasures 4300 (Nat.le_refl _)
  refine ⟨⟨hzero, hshort, hlong⟩, ?_, ?_⟩
  · obtain ⟨-, hsame, -⟩ := (serve_measured hzero server {}).1 (by rw [hlength]; decide)
    exact hsame _ _ hshort (by rw [hlength]; decide) (by rw [hvalue, hvalue])
  · obtain ⟨hrefused, -⟩ := (serve_measured hlong server {}).2 (by rw [hlength]; decide)
    have hsendable : Message.IsSendable server.name server.date [] := ⟨by decide, by decide, by simp⟩
    rw [(hrefused _ {}).mpr ⟨rfl, .written hsendable⟩]
    rfl

end

end Http

end Courier
