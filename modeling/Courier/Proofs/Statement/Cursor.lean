import Courier.Proofs.Statement.Segments
import Mathlib.Tactic.Common

/-!
# The positions of the cursor

The split computes with positions: of the code points around a pipe, of the beginning of a segment and of
its end. Nothing would stop a wrong one, as a look outside of the text finds nothing, and a cut at a
position below zero or with its ends crossed gives some part of the text all the same. Here the positions
are integers, so that they could be wrong, and it is shown that they never are: at every pipe that the
cursor passes, all places that it looks at are inside the text, and so are both ends of the segment, which
are crossed only at a pipe right behind the delimiter before. The next segment always has a beginning.
-/

namespace Courier

namespace Segment

/-! ## Positions -/

/-- The code point at a position, if that is inside the text. -/
def peek? (text : Text) (i : Int) : Option CodePoint := if i < 0 then none else text[i.toNat]?

/-- The number of code points in front of a position; one below zero counts from the end of the text. -/
def place (text : Text) (i : Int) : Nat := (if i < 0 then i + text.length else i).toNat

/-- The part of a text between two positions, and nothing if they are crossed. -/
def slice (text : Text) (start stop : Int) : Text :=
  (text.take (place text stop)).drop (place text start)

/-- That there is a pipe at a position, with a space on each side. -/
def IsDelimiter (text : Text) (i : Int) : Prop :=
  peek? text (i - 1) = some space ∧ peek? text i = some pipe ∧ peek? text (i + 1) = some space

/-- The cursor, the beginning of the segment that it is in, and the segments before, latest first. -/
structure Cursor where
  pos : Int := 0
  start : Int := 0
  found : List Text := []
deriving DecidableEq

namespace Cursor

/-- Whether the pipe at the cursor has one space on each side and no second one. -/
def isSpaced (text : Text) (c : Cursor) : Bool :=
  peek? text (c.pos - 1) = some space && peek? text (c.pos + 1) = some space &&
    peek? text (c.pos - 2) != some space && peek? text (c.pos + 2) != some space

/-- The cursor one code point further. -/
def advance (text : Text) (c : Cursor) : Except Fault Cursor :=
  if peek? text c.pos = some pipe then
    if c.isSpaced text then
      let segment := slice text c.start (c.pos - 1)
      if segment = [] then .error .pipeSpacing
      else .ok { pos := c.pos + 1, start := c.pos + 2, found := segment :: c.found }
    else .error .pipeSpacing
  else .ok { c with pos := c.pos + 1 }

/-- The segments when the cursor has passed the text: the rest of it is the last one. -/
def finish (text : Text) (c : Cursor) : Except Fault (List Text) :=
  let segment := slice text c.start text.length
  if segment = [] then .error .pipeSpacing else .ok (segment :: c.found).reverse

section

variable {text : Text} {c c' : Cursor}

lemma advance_of_ne (h : peek? text c.pos ≠ some pipe) :
    c.advance text = .ok { c with pos := c.pos + 1 } := if_neg h

lemma advance_of_not_isSpaced (hpipe : peek? text c.pos = some pipe)
    (h : ¬ c.isSpaced text = true) : c.advance text = .error .pipeSpacing := by
  rw [advance, if_pos hpipe, if_neg h]

lemma advance_of_isSpaced (hpipe : peek? text c.pos = some pipe) (h : c.isSpaced text = true) :
    c.advance text =
      if slice text c.start (c.pos - 1) = [] then .error .pipeSpacing
      else .ok ⟨c.pos + 1, c.pos + 2, slice text c.start (c.pos - 1) :: c.found⟩ := by
  rw [advance, if_pos hpipe, if_pos h]

/-- What a turn of the cursor can be. -/
lemma advance_eq_ok (h : c.advance text = .ok c') :
    (peek? text c.pos ≠ some pipe ∧ c' = { c with pos := c.pos + 1 }) ∨
      (peek? text c.pos = some pipe ∧ c.isSpaced text = true ∧
        c' = ⟨c.pos + 1, c.pos + 2, slice text c.start (c.pos - 1) :: c.found⟩) := by
  by_cases hpipe : peek? text c.pos = some pipe
  · by_cases hspaced : c.isSpaced text = true
    · rw [advance_of_isSpaced hpipe hspaced] at h
      split at h
      · cases h
      · exact .inr ⟨hpipe, hspaced, (Except.ok.inj h).symm⟩
    · rw [advance_of_not_isSpaced hpipe hspaced] at h
      cases h
  · rw [advance_of_ne hpipe] at h
    exact .inl ⟨hpipe, (Except.ok.inj h).symm⟩

lemma pos_of_advance_eq_ok (h : c.advance text = .ok c') : c'.pos = c.pos + 1 := by
  rcases advance_eq_ok h with ⟨-, rfl⟩ | ⟨-, -, rfl⟩ <;> rfl

end

/-- The segments of a text, from the cursor on. -/
def run (text : Text) (c : Cursor) : Except Fault (List Text) :=
  if c.pos < text.length then
    match _ : c.advance text with
    | .ok c' => run text c'
    | .error fault => .error fault
  else c.finish text
termination_by (text.length - c.pos).toNat
decreasing_by
  have := pos_of_advance_eq_ok ‹c.advance text = .ok c'›
  omega

/-- The cursors of a run, from the beginning of the text on. -/
inductive Visits (text : Text) : Cursor → Prop
  | first : Visits text {}
  | turn {c c' : Cursor} (h : Visits text c) (hmore : c.pos < text.length)
      (hadvance : c.advance text = .ok c') : Visits text c'

/-- What holds of every cursor of a run. -/
structure IsSound (text : Text) (c : Cursor) : Prop where
  pos_nonneg : 0 ≤ c.pos
  start_nonneg : 0 ≤ c.start
  start_lt : c.start < text.length
  start_ne : peek? text c.start ≠ some space
  /-- The cursor is in the segment, or at the space in front of it. -/
  ahead : c.pos < c.start → c.start = c.pos + 1 ∧ peek? text c.pos = some space
  noPipe : ∀ i, c.start ≤ i → i < c.pos → peek? text i ≠ some pipe
  /-- The segment is the first one, or it begins right behind a delimiter. -/
  origin : c.start = 0 ∨ IsDelimiter text (c.start - 2)

/-- That the positions at a pipe are right. -/
structure IsSafe (text : Text) (c : Cursor) : Prop where
  lookaheads : ∀ offset ∈ ([-2, -1, 1, 2] : List Int), (peek? text (c.pos + offset)).isSome = true
  start_nonneg : 0 ≤ c.start
  start_le : c.start ≤ c.pos
  stop_nonneg : 0 ≤ c.pos - 1
  crossed_iff : c.pos - 1 < c.start ↔ IsDelimiter text (c.pos - 2)
  empty_iff : slice text c.start (c.pos - 1) = [] ↔ c.pos - 1 < c.start
  next_lt : c.pos + 2 < text.length

end Cursor

section

variable {text : Text} {i : Int} {c c' : Cursor}

lemma peek?_natCast (text : Text) (n : Nat) : peek? text n = text[n]? := by
  rw [peek?, if_neg (by omega), Int.toNat_natCast]

lemma isSome_peek?_iff : (peek? text i).isSome = true ↔ 0 ≤ i ∧ i < text.length := by
  unfold peek?
  split
  · next h => simp; omega
  · next h =>
    rw [isSome_getElem?]
    omega

lemma inside_of_peek?_eq_some {point : CodePoint} (h : peek? text i = some point) :
    0 ≤ i ∧ i < text.length := isSome_peek?_iff.mp (Option.isSome_of_eq_some h)

lemma slice_natCast (text : Text) (start stop : Nat) :
    slice text start stop = (text.take stop).drop start := by
  have hplace : ∀ n : Nat, place text n = n := by
    intro n
    rw [place, if_neg (by omega), Int.toNat_natCast]
  rw [slice, hplace, hplace]

/-! ## Positions within the text -/

namespace Cursor

lemma isSpaced_iff : c.isSpaced text = true ↔
    (peek? text (c.pos - 1) = some space ∧ peek? text (c.pos + 1) = some space) ∧
      peek? text (c.pos - 2) ≠ some space ∧ peek? text (c.pos + 2) ≠ some space := by
  simp only [isSpaced, Bool.and_eq_true, decide_eq_true_eq, bne_iff_ne]
  tauto

/-- A pipe with its spaces stands clear of both ends of the text, as there are no spaces. -/
lemma lookaheads_of_isSpaced (hhead : peek? text 0 ≠ some space)
    (hlast : peek? text (text.length - 1) ≠ some space) (h : c.isSpaced text = true) :
    2 ≤ c.pos ∧ c.pos + 2 < text.length := by
  obtain ⟨⟨hbefore, hafter⟩, -⟩ := isSpaced_iff.mp h
  have hbefore' := inside_of_peek?_eq_some hbefore
  have hafter' := inside_of_peek?_eq_some hafter
  have hpos : c.pos ≠ 1 := by
    intro hone
    rw [hone] at hbefore
    exact hhead hbefore
  have hend : c.pos + 1 ≠ text.length - 1 := by
    intro hlength
    rw [hlength] at hafter
    exact hlast hafter
  omega

/-! ## Every turn keeps the positions sound -/

lemma isSound_first (hne : text ≠ []) (hhead : peek? text 0 ≠ some space) : IsSound text {} where
  pos_nonneg := Int.le_refl 0
  start_nonneg := Int.le_refl 0
  start_lt := by simpa using List.length_pos_iff.mpr hne
  start_ne := hhead
  ahead := fun h => absurd h (Int.lt_irrefl 0)
  noPipe := fun i hge hlt => absurd hlt (Int.not_lt.mpr hge)
  origin := .inl rfl

lemma IsSound.turn (h : c.IsSound text) (hhead : peek? text 0 ≠ some space)
    (hlast : peek? text (text.length - 1) ≠ some space) (hadvance : c.advance text = .ok c') :
    c'.IsSound text := by
  obtain ⟨hpos, hstart, hlt, hne, hahead, hpipe, horigin⟩ := h
  rcases advance_eq_ok hadvance with ⟨hother, rfl⟩ | ⟨hcut, hspaced, rfl⟩
  · -- The cursor passes a code point of the segment, or the space in front of it.
    refine ⟨Int.le_add_one hpos, hstart, hlt, hne, ?_, ?_, horigin⟩
    · intro hbefore
      dsimp only at hbefore
      obtain ⟨hbegin, -⟩ := hahead (by omega)
      omega
    · intro i hge hi
      dsimp only at hge hi
      rcases Int.lt_or_eq_of_le (Int.le_of_lt_add_one hi) with hi | rfl
      · exact hpipe i hge hi
      · exact hother
  · -- The next segment begins behind the space that follows the pipe.
    obtain ⟨hlow, hhigh⟩ := lookaheads_of_isSpaced hhead hlast hspaced
    obtain ⟨⟨hbefore, hafter⟩, -, hafter'⟩ := isSpaced_iff.mp hspaced
    refine ⟨Int.le_add_one hpos, Int.add_nonneg hpos (by decide), hhigh, hafter', ?_, ?_, .inr ?_⟩
    · intro _
      exact ⟨(Int.add_assoc c.pos 1 1).symm, hafter⟩
    · intro i hge hi
      dsimp only at hge hi
      omega
    · have hback : c.pos + 2 - 2 = c.pos := by omega
      rw [hback]
      exact ⟨hbefore, hcut, hafter⟩

lemma Visits.isSound (h : Visits text c) (hne : text ≠ []) (hhead : peek? text 0 ≠ some space)
    (hlast : peek? text (text.length - 1) ≠ some space) : c.IsSound text := by
  induction h with
  | first => exact isSound_first hne hhead
  | turn _ _ hadvance ih => exact ih.turn hhead hlast hadvance

/-! ## What follows for a pipe and for the end -/

lemma IsSound.start_le (h : c.IsSound text) (hpipe : peek? text c.pos = some pipe) :
    c.start ≤ c.pos := by
  by_contra hlt
  have hspace := (h.ahead (Int.not_le.mp hlt)).2
  rw [hpipe] at hspace
  exact absurd (Option.some.inj hspace) space_ne_pipe.symm

lemma slice_eq_nil_iff {start stop : Int} (hstart : 0 ≤ start) (hlt : start < text.length)
    (hstop : 0 ≤ stop) : slice text start stop = [] ↔ stop ≤ start := by
  obtain ⟨m, rfl⟩ := Int.eq_ofNat_of_zero_le hstart
  obtain ⟨n, rfl⟩ := Int.eq_ofNat_of_zero_le hstop
  rw [slice_natCast, List.drop_eq_nil_iff, List.length_take]
  omega

/-- The ends of the segment are crossed at a pipe right behind a delimiter, and only there. -/
lemma IsSound.crossed_iff (h : c.IsSound text) (hpipe : peek? text c.pos = some pipe)
    (hspaced : c.isSpaced text = true) :
    c.pos - 1 < c.start ↔ IsDelimiter text (c.pos - 2) := by
  have hle := h.start_le hpipe
  obtain ⟨⟨hbefore, -⟩, -⟩ := isSpaced_iff.mp hspaced
  constructor
  · intro hcrossed
    obtain hstart : c.start = c.pos := by omega
    rcases h.origin with hzero | hdelimiter
    · have := (inside_of_peek?_eq_some hbefore).1
      omega
    · rwa [hstart] at hdelimiter
  · rintro ⟨-, hpipe', -⟩
    by_contra hcrossed
    by_cases hstart : c.start = c.pos - 1
    · exact h.start_ne (by rw [hstart]; exact hbefore)
    · exact h.noPipe (c.pos - 2) (by omega) (by omega) hpipe'

lemma IsSound.isSafe (h : c.IsSound text) (hhead : peek? text 0 ≠ some space)
    (hlast : peek? text (text.length - 1) ≠ some space) (hpipe : peek? text c.pos = some pipe)
    (hspaced : c.isSpaced text = true) : c.IsSafe text := by
  obtain ⟨hlow, hhigh⟩ := lookaheads_of_isSpaced hhead hlast hspaced
  have hcrossed := h.crossed_iff hpipe hspaced
  refine ⟨?_, h.start_nonneg, h.start_le hpipe, by omega, hcrossed, ?_, hhigh⟩
  · intro offset hoffset
    rw [isSome_peek?_iff]
    simp only [List.mem_cons, List.not_mem_nil, or_false] at hoffset
    omega
  · rw [slice_eq_nil_iff h.start_nonneg h.start_lt (by omega)]
    -- A segment does not begin with the space in front of the pipe.
    have hne : c.start ≠ c.pos - 1 := by
      intro hstart
      exact h.start_ne (by rw [hstart]; exact (isSpaced_iff.mp hspaced).1.1)
    omega

lemma IsSound.slice_ne_nil (h : c.IsSound text) : slice text c.start text.length ≠ [] := by
  rw [ne_eq, slice_eq_nil_iff h.start_nonneg h.start_lt (by omega)]
  have := h.start_lt
  omega

end Cursor

/-! ## The run is the scan -/

lemma before?_toArray (text : Text) (pos places : Nat) :
    before? text.toArray pos places = peek? text (pos - places) := by
  unfold before? peek?
  by_cases h : places ≤ pos
  · have hback : ((pos : Int) - places).toNat = pos - places := by omega
    rw [if_pos h, if_neg (by omega), hback, List.getElem?_toArray]
  · rw [if_neg h, if_pos (by omega)]

lemma after?_toArray (text : Text) (pos places : Nat) :
    after? text.toArray pos places = peek? text (pos + places) := by
  rw [after?, ← Int.natCast_add, peek?_natCast, List.getElem?_toArray]

lemma isSpaced_toArray (text : Text) (pos : Nat) (start : Int) (found : List Text) :
    isSpaced text.toArray pos = Cursor.isSpaced text ⟨pos, start, found⟩ := by
  simp only [isSpaced, Cursor.isSpaced, before?_toArray, after?_toArray]
  rfl

lemma between_toArray (text : Text) (start stop : Nat) :
    between text.toArray start stop =
      if slice text start stop = [] then .error .pipeSpacing else .ok (slice text start stop) := by
  have hslice : (text.toArray.extract start stop).toList = slice text start stop := by
    rw [slice_natCast, List.extract_toArray, List.extract_eq_take_drop, List.drop_take]
  unfold between
  rw [hslice]
  cases slice text start stop <;> rfl

namespace Cursor

lemma run_of_lt (hmore : c.pos < text.length) : c.run text = c.advance text >>= run text := by
  rw [run, if_pos hmore]
  split
  · next hadvance =>
    rw [hadvance]
    rfl
  · next hadvance =>
    rw [hadvance]
    rfl

lemma run_of_le (h : text.length ≤ c.pos) : c.run text = c.finish text := by
  rw [run, if_neg (Int.not_lt.mpr h)]

/-- The code point that the scan has still to pass first is the one at the cursor. -/
lemma peek?_of_drop_eq_cons {point : CodePoint} {rest : Text} {pos : Nat}
    (h : text.drop pos = point :: rest) :
    peek? text pos = some point ∧ (pos : Int) < text.length ∧ text.drop (pos + 1) = rest := by
  have hpoint : peek? text pos = some point := by
    rw [peek?_natCast, ← List.head?_drop, h, List.head?_cons]
  refine ⟨hpoint, (inside_of_peek?_eq_some hpoint).2, ?_⟩
  rw [← List.tail_drop, h, List.tail_cons]

lemma scan_eq_run (text : Text) {rest : Text} {pos start : Nat} {found : List Text}
    (hrest : text.drop pos = rest) :
    scan text.toArray pos start found rest = run text ⟨pos, start, found⟩ := by
  induction rest generalizing pos start found with
  | nil =>
    have hle : text.length ≤ pos := List.drop_eq_nil_iff.mp hrest
    rw [scan, run_of_le (Int.ofNat_le.mpr hle), List.size_toArray, between_toArray, finish]
    by_cases hempty : slice text start text.length = []
    · simp only [if_pos hempty]
      rfl
    · simp only [if_neg hempty]
      rfl
  | cons point rest ih =>
    obtain ⟨hpoint, hmore, hrest'⟩ := peek?_of_drop_eq_cons hrest
    rw [scan, isSpaced_toArray text pos start found, run_of_lt hmore]
    split
    · next hpipe =>
      subst hpipe
      split
      · next hspaced =>
        -- There is a code point in front of the pipe, so that its position is no less than zero.
        have hstop : ((pos - 1 : Nat) : Int) = pos - 1 := by
          have hback := (inside_of_peek?_eq_some (isSpaced_iff.mp hspaced).1.1).1
          dsimp only at hback
          omega
        rw [advance_of_isSpaced hpoint hspaced, between_toArray, hstop]
        by_cases hempty : slice text start (pos - 1) = []
        · simp only [if_pos hempty]
          rfl
        · simp only [if_neg hempty]
          exact ih hrest'
      · next hspaced =>
        rw [advance_of_not_isSpaced hpoint hspaced]
        rfl
    · next hpipe =>
      have hother : peek? text pos ≠ some pipe := by
        rw [hpoint]
        exact fun h => hpipe (Option.some.inj h)
      rw [advance_of_ne hother]
      exact ih hrest'

lemma Visits.run_eq (h : Visits text c) : c.run text = run text {} := by
  induction h with
  | first => rfl
  | turn _ hmore hadvance ih =>
    rw [← ih, run_of_lt hmore, hadvance]
    rfl

end Cursor

/-- **The positions of the cursor are right**: in a statement without spaces at its ends, the code points
that are looked at around a pipe with its spaces are all there, the segment in front of it lies within
the text and has its ends crossed only right behind a delimiter, where it is refused as empty, and the
next segment begins within the text. So there is always something left for the last segment. -/
theorem split_visits {statement : Text} (hne : statement ≠ [])
    (hhead : statement.head? ≠ some space) (hlast : statement.getLast? ≠ some space) {c : Cursor}
    (h : c.Visits statement) :
    split statement = c.run statement ∧
      (peek? statement c.pos = some pipe → c.isSpaced statement = true → c.IsSafe statement) ∧
        slice statement c.start statement.length ≠ [] := by
  have hfirst : peek? statement 0 ≠ some space := by
    have hzero := peek?_natCast statement 0
    rw [Int.natCast_zero] at hzero
    rwa [hzero, ← List.head?_eq_getElem?]
  have hend : peek? statement (statement.length - 1) ≠ some space := by
    have hpos := List.length_pos_iff.mpr hne
    have hcast : (statement.length : Int) - 1 = (statement.length - 1 : Nat) := by omega
    rwa [hcast, peek?_natCast, ← List.getLast?_eq_getElem?]
  have hsound := h.isSound hne hfirst hend
  refine ⟨?_, hsound.isSafe hfirst hend, hsound.slice_ne_nil⟩
  obtain ⟨first, rest, rfl⟩ := List.exists_cons_of_ne_nil hne
  have hends : ¬(first = space ∨ (first :: rest).getLast? = some space) := by
    rw [not_or]
    exact ⟨by simpa using hhead, hlast⟩
  rw [h.run_eq, split, if_neg hends]
  exact Cursor.scan_eq_run (first :: rest) rfl

/-- A pipe right behind a delimiter. -/
theorem split_visits_crossed :
    let statement := Text.ofString "a | | b"
    let c : Cursor := ⟨4, 4, [Text.ofString "a"]⟩
    (statement ≠ [] ∧ statement.head? ≠ some space ∧ statement.getLast? ≠ some space ∧
      c.Visits statement) ∧
      split statement = c.run statement ∧ c.IsSafe statement ∧ c.pos - 1 < c.start ∧
        slice statement c.start statement.length ≠ [] := by
  intro statement c
  have hne : statement ≠ [] := by decide
  have hhead : statement.head? ≠ some space := by decide
  have hlast : statement.getLast? ≠ some space := by decide
  have hspace : Cursor.Visits statement ⟨2, 0, []⟩ :=
    .turn (.turn .first (by decide) (by decide) : Cursor.Visits statement ⟨1, 0, []⟩) (by decide)
      (by decide)
  have hcut : Cursor.Visits statement ⟨3, 4, [Text.ofString "a"]⟩ :=
    .turn hspace (by decide) (by decide)
  have hvisits : c.Visits statement := .turn hcut (by decide) (by decide)
  obtain ⟨hrun, hsafe, hrest⟩ := split_visits hne hhead hlast hvisits
  exact ⟨⟨hne, hhead, hlast, hvisits⟩, hrun, hsafe (by decide) (by decide), by decide, hrest⟩

end

end Segment

end Courier
