import Courier.Proofs.Http.Registry
import Courier.Proofs.Http.Writing
import Courier.Proofs.Url.Percent

/-!
# Paths in targets

A path of any code points but surrogates can stand in the target of a request in its encoded form, with
a query behind it or without one. There are neither blanks nor question marks in encoded text, so that
the words of the first line and the end of the path are found again, and decoding gives the path back: a
request for it is resolved to the handler that is registered for it.
-/

namespace Courier

namespace Http

/-! ## Heads of one line -/

namespace Head

variable {raw : List UInt8}

lemma parse_append_terminator (raw : List UInt8) : parse (raw ++ terminator) = read raw := by
  have hsuffix : terminator.isSuffixOf (raw ++ terminator) = true :=
    List.isSuffixOf_iff_suffix.mpr (List.suffix_append _ _)
  have hlength : (raw ++ terminator).length - 4 = raw.length := by
    simp [terminator, lineEnd]
  rw [parse, withoutTerminator, if_pos hsuffix, hlength, List.take_left]

lemma parse_of_notMem (h : 13 ∉ raw) : parse raw = read raw := by
  have hsuffix : ¬terminator.isSuffixOf raw = true := by
    rw [List.isSuffixOf_iff_suffix]
    intro hsuffix
    exact h (hsuffix.mem List.mem_cons_self)
  rw [parse, withoutTerminator, if_neg hsuffix]

end Head

namespace Written

variable {r : Written} {t : Text}

/-- A request line is the head of a request without headers. -/
lemma IsProper.read_requestLine (h : r.IsProper) : Head.read (Latin1.bytes r.requestLine) =
    .ok ⟨r.method, r.target, r.version, []⟩ := by
  have hline := h.isLine_requestLine
  have hwords := isWords_requestLine h
  rw [← Latin1.decode_bytes hline.isLatin1] at hwords
  have hlines := Head.IsLines.last (Head.not_lineEnd_infix hline.bytes.2)
  exact Head.read_eq_ok_iff.mpr ⟨[], .mk hlines hwords h.protocol .nil, rfl⟩

/-- The end of a head may stand behind its line or not. -/
lemma IsProper.parse_requestLine (h : r.IsProper) {raw : List UInt8}
    (hraw : raw ∈
      [Latin1.bytes r.requestLine, Latin1.bytes r.requestLine ++ Head.terminator]) :
    Head.parse raw = .ok ⟨r.method, r.target, r.version, []⟩ := by
  rw [List.mem_pair] at hraw
  rcases hraw with rfl | rfl
  · rw [Head.parse_of_notMem h.isLine_requestLine.bytes.2, h.read_requestLine]
  · rw [Head.parse_append_terminator, h.read_requestLine]

lemma isWord_of_isGraphic (hne : t ≠ []) (h : ∀ c ∈ t, c.IsGraphic) : IsWord t where
  ne_nil := hne
  isLatin1 c hc := Nat.lt_of_le_of_lt (h c hc).2 (by decide)
  isBlank c hc := (h c hc).isBlank

end Written

/-! ## Encoded paths -/

section

variable {α : Type} {rs : List (Registration α)} {r : Registration α}
  {method path query encoded target : Text}

/-- The target of an encoded path is a word, and what stands before its first question mark is the
encoded path. -/
lemma isPath_encoded (h : Percent.encode? path = some encoded) (hne : path ≠ [])
    (hquery : ∀ c ∈ query, c.IsGraphic)
    (htarget : target ∈ [encoded, encoded ++ CodePoint.ofChar '?' :: query]) :
    Written.IsWord target ∧ Written.IsPath target encoded := by
  have hdecode := Percent.decode_of_encode? h
  have hencoded : encoded ≠ [] := by
    rintro rfl
    exact hne hdecode.symm
  obtain ⟨-, rfl⟩ := Percent.encode?_eq_some_iff.1 h
  have hgraphic : ∀ c ∈ path.flatMap Percent.encodeCodePoint, c.IsGraphic :=
    fun c => Percent.isGraphic_of_mem_encoded
  have hmark : CodePoint.ofChar '?' ∉ path.flatMap Percent.encodeCodePoint :=
    Percent.notMem_encoded (by decide) path
  rw [List.mem_pair] at htarget
  rcases htarget with rfl | rfl
  · exact ⟨Written.isWord_of_isGraphic hencoded hgraphic, .whole hmark⟩
  · have hall : ∀ c ∈ path.flatMap Percent.encodeCodePoint ++ CodePoint.ofChar '?' :: query, c.IsGraphic := by
      rw [List.forall_mem_append, List.forall_mem_cons]
      exact ⟨hgraphic, by decide, hquery⟩
    exact ⟨Written.isWord_of_isGraphic (by simp) hall, .before hmark⟩

/-- **Decoding the path of a target undoes encoding**: a request for a path that is not empty and holds
no surrogate, with a visible query behind it or without one, is read as one for this path, and is
resolved to the handler that is registered for it. Different paths have different encoded forms. -/
theorem resolve_encodedPath (hr : r ∈ Registry.made rs) (hfor : r.isFor method path = true)
    (hmethod : Written.IsWord method) (hne : path ≠ []) (hpath : Text.hasSurrogate path = false)
    (hquery : ∀ c ∈ query, c.IsGraphic) :
    ∃ encoded, Percent.encode? path = some encoded ∧
      (∀ target ∈ [encoded, encoded ++ CodePoint.ofChar '?' :: query], ∃ raw,
        Latin1.encode? (method ++ CodePoint.ofChar ' ' ::
          (target ++ Text.ofString " HTTP/1.1")) = some raw ∧
        ∀ bytes ∈ [raw, raw ++ Head.terminator], ∃ head, Head.parse bytes = .ok head ∧
          head.method = method ∧ head.target = target ∧ head.path = path ∧
          (Registry.after rs).resolve head.method head.path = .ok r.handler) ∧
      ∀ other, Percent.encode? other = some encoded → other = path := by
  have hencoded := Percent.encode?_eq_some hpath
  refine ⟨_, hencoded, fun target htarget => ?_, fun other hother => ?_⟩
  · obtain ⟨hword, hcut⟩ := isPath_encoded hencoded hne hquery htarget
    let request : Written :=
      { method, target, version := Text.ofString "HTTP/1.1", headers := [], body := [] }
    have hversion : Written.IsWord (Text.ofString "HTTP/1.1") := ⟨by decide, by decide, by decide⟩
    have hprotocol : Text.ofString "HTTP/" <+: Text.ofString "HTTP/1.1" := by decide
    have hproper : request.IsProper := ⟨hmethod, hword, hversion, hprotocol, by simp [request]⟩
    refine ⟨_, Latin1.encode?_eq_some hproper.isLine_requestLine.isLatin1, fun bytes hbytes => ?_⟩
    have hfound : Head.path ⟨method, target, Text.ofString "HTTP/1.1", []⟩ = path := by
      rw [Head.path, hcut.takeWhile_eq]
      exact Percent.decode_of_encode? hencoded
    refine ⟨_, hproper.parse_requestLine hbytes, rfl, rfl, hfound, ?_⟩
    rw [hfound]
    exact (Registry.tracks_run rs).resolve_eq hr hfor
  · rw [← Percent.decode_of_encode? hother]
    exact Percent.decode_of_encode? hencoded

/-- A path with a percent sign, a question mark and blanks of three kinds, which is registered in small
letters and once more in capital ones. -/
theorem resolve_encodedPath_blanks :
    let path := Text.ofString "/5%3F caf\u00e9?\u0085\u00a0\u20ac"
    let query := Text.ofString "a=1?%2F"
    let r : Registration Nat := ⟨Text.ofString "get", path, 7⟩
    let rs := [r, ⟨Text.ofString "GET", path, 8⟩]
    r ∈ Registry.made rs ∧ r.isFor (Text.ofString "Get") path = true ∧
      Written.IsWord (Text.ofString "Get") ∧ path ≠ [] ∧ Text.hasSurrogate path = false ∧
      (∀ c ∈ query, c.IsGraphic) ∧
      ∃ encoded, Percent.encode? path = some encoded ∧
        (∀ target ∈ [encoded, encoded ++ CodePoint.ofChar '?' :: query], ∃ raw,
          Latin1.encode? (Text.ofString "Get" ++ CodePoint.ofChar ' ' ::
            (target ++ Text.ofString " HTTP/1.1")) = some raw ∧
          ∀ bytes ∈ [raw, raw ++ Head.terminator], ∃ head, Head.parse bytes = .ok head ∧
            head.method = Text.ofString "Get" ∧ head.target = target ∧ head.path = path ∧
            (Registry.after rs).resolve head.method head.path = .ok 7) ∧
        ∀ other, Percent.encode? other = some encoded → other = path := by
  intro path query r rs
  have hmade : Registry.made rs = [r] := by rfl
  have hr : r ∈ Registry.made rs := by
    rw [hmade]
    exact List.mem_singleton_self r
  have hfor : r.isFor (Text.ofString "Get") path = true := by decide
  have hmethod : Written.IsWord (Text.ofString "Get") := ⟨by decide, by decide, by decide⟩
  have hne : path ≠ [] := by decide
  have hpath : Text.hasSurrogate path = false := Text.hasSurrogate_ofString _
  have hquery : ∀ c ∈ query, c.IsGraphic := by decide
  exact ⟨hr, hfor, hmethod, hne, hpath, hquery,
    resolve_encodedPath hr hfor hmethod hne hpath hquery⟩

end

end Http

end Courier
