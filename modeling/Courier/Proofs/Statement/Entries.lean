import Courier.Proofs.Statement.Segments
import Courier.Statement

/-!
# Entries of a statement

A segment that is in order is an *entry*: the name of a keyword, a space and a value. A draft takes
up the segments of a statement one after another. This file says what one segment does to a draft,
when it is refused and why, and derives by induction what a draft holds after a whole list of
segments: exactly what the entries say, each keyword at most once.
-/

namespace Courier

namespace Segment

/-- The segment of a keyword and a value. -/
def entry (e : Keyword × Text) : Text := e.1.name ++ space :: e.2

lemma space_notMem_name (k : Keyword) : space ∉ k.name := by
  rcases k with _ | _ | _ | _ | _ <;> decide

lemma pipe_notMem_name (k : Keyword) : pipe ∉ k.name := by
  rcases k with _ | _ | _ | _ | _ <;> decide

lemma cut?_entry (k : Keyword) (value : Text) :
    Text.cut? space (entry (k, value)) = some (k.name, value) :=
  Text.cut?_eq_some_iff.2 ⟨rfl, space_notMem_name k⟩

lemma entry_injective : Function.Injective entry := by
  rintro ⟨k, v⟩ ⟨k', v'⟩ h
  have hcut : some (k.name, v) = some (k'.name, v') := by
    rw [← cut?_entry, ← cut?_entry, h]
  obtain ⟨hname, rfl⟩ := Prod.mk.inj (Option.some.inj hcut)
  have hk : some k = some k' := by
    rw [← Keyword.ofName?_name k, ← Keyword.ofName?_name k', hname]
  rw [Option.some.inj hk]

/-- That a segment opens with a keyword and a space. -/
def Opens (k : Keyword) (segment : Text) : Prop := k.name ++ [space] <+: segment

instance (k : Keyword) (segment : Text) : Decidable (Opens k segment) :=
  inferInstanceAs (Decidable (k.name ++ [space] <+: segment))

lemma opens_entry_iff {k : Keyword} {e : Keyword × Text} : Opens k (entry e) ↔ e.1 = k := by
  constructor
  · rintro ⟨value, hvalue⟩
    have heq : entry (k, value) = entry e := by simpa [entry] using hvalue
    rw [← entry_injective heq]
  · rintro rfl
    exact ⟨e.2, by simp [entry]⟩

/-- A keyword with a proper value is a proper segment, and the other way round. -/
lemma isProper_entry_iff {k : Keyword} {value : Text} :
    IsProper (entry (k, value)) ∧ value.head? ≠ some space ↔ IsProper value := by
  obtain ⟨c, name, hname⟩ : ∃ c name, k.name = c :: name ∧ c ≠ space := by
    rcases k with _ | _ | _ | _ | _ <;> exact ⟨_, _, rfl, by decide⟩
  constructor
  · rintro ⟨h, hhead⟩
    have hne : value ≠ [] := by
      rintro rfl
      exact h.getLast?_ne (by simp [entry])
    refine ⟨hne, fun hmem => h.pipe_notMem (by simp [entry, hmem]), hhead, fun hlast => ?_⟩
    exact h.getLast?_ne (by simp [entry, List.getLast?_cons, hlast])
  · intro h
    refine ⟨⟨by simp [entry], ?_, by simp [entry, hname], ?_⟩, h.head?_ne⟩
    · simp [entry, pipe_notMem_name, h.pipe_notMem, space_ne_pipe.symm]
    · have hlast := h.getLast?_ne
      rw [List.getLast?_eq_some_getLast h.ne_nil] at hlast
      simpa [entry, List.getLast?_cons, List.getLast?_eq_some_getLast h.ne_nil] using hlast

/-- A segment is taken apart if and only if it is an entry with exactly one space. -/
lemma extract_eq_ok_iff {segment : Text} {e : Keyword × Text} :
    extract segment = .ok e ↔ segment = entry e ∧ e.2 ≠ [] ∧ e.2.head? ≠ some space := by
  obtain ⟨k, v⟩ := e
  constructor
  · intro h
    unfold extract at h
    split at h
    · simp at h
    · next token value hcut =>
      obtain ⟨rfl, -⟩ := Text.cut?_eq_some_iff.1 hcut
      split at h
      · simp at h
      · next keyword hname =>
        obtain rfl := Keyword.ofName?_eq_some_iff.1 hname
        split at h
        · simp at h
        · next c rest =>
          split at h
          · simp at h
          · next hc =>
            obtain ⟨rfl, rfl⟩ := Prod.mk.inj (Except.ok.inj h)
            exact ⟨rfl, by simp, by simpa using hc⟩
  · rintro ⟨rfl, hne, hhead⟩
    obtain ⟨c, rest, rfl⟩ := List.exists_cons_of_ne_nil hne
    have hc : c ≠ space := by simpa using hhead
    simp [extract, cut?_entry, hc]

/-- Why a segment is not an entry with one space and a value. -/
inductive Malformed : Text → Fault → Prop
  | noSpace {segment : Text} (h : space ∉ segment) : Malformed segment .missingSpaceAfterKeyword
  | noKeyword {token value : Text} (hspace : space ∉ token) (h : ∀ k : Keyword, token ≠ k.name) :
    Malformed (token ++ space :: value) .nonUppercaseKeyword
  | noValue (k : Keyword) : Malformed (entry (k, [])) .missingSpaceAfterKeyword
  | secondSpace (k : Keyword) (value : Text) : Malformed (entry (k, space :: value)) .multipleSpaces

lemma extract_eq_error_iff {segment : Text} {fault : Fault} :
    extract segment = .error fault ↔ Malformed segment fault := by
  constructor
  · intro h
    unfold extract at h
    split at h
    · next hcut =>
      obtain rfl := Except.error.inj h
      exact .noSpace (Text.cut?_eq_none_iff.1 hcut)
    · next token value hcut =>
      obtain ⟨rfl, hspace⟩ := Text.cut?_eq_some_iff.1 hcut
      split at h
      · next hname =>
        obtain rfl := Except.error.inj h
        refine .noKeyword hspace fun k hk => ?_
        rw [hk, Keyword.ofName?_name] at hname
        simp at hname
      · next keyword hname =>
        obtain rfl := Keyword.ofName?_eq_some_iff.1 hname
        split at h
        · obtain rfl := Except.error.inj h
          exact .noValue keyword
        · next c rest =>
          split at h
          · next hc =>
            obtain rfl := Except.error.inj h
            subst hc
            exact .secondSpace keyword rest
          · simp at h
  · rintro (h | ⟨hspace, h⟩ | k | ⟨k, value⟩)
    · simp [extract, Text.cut?_eq_none_iff.2 h]
    · next token value =>
      have hname : Keyword.ofName? token = none := by
        rw [Option.eq_none_iff_forall_ne_some]
        exact fun k hk => h k (Keyword.ofName?_eq_some_iff.1 hk)
      simp [extract, Text.cut?_eq_some_iff.2 ⟨rfl, hspace⟩, hname]
    · simp [extract, cut?_entry]
    · simp [extract, cut?_entry]

end Segment

namespace Statement

open Segment

/-- A method is read from its name and from nothing else. -/
lemma readMethod_eq_ok_iff {value : Text} {m : Method} :
    readMethod value = .ok m ↔ value = m.name := by
  unfold readMethod
  constructor
  · intro h
    split at h
    · simp at h
    · split at h
      · next method hname =>
        obtain rfl := Except.ok.inj h
        exact Method.ofName?_eq_some_iff.1 hname
      · simp at h
  · rintro rfl
    have hupper : m.name = Text.upper m.name := by cases m <;> decide
    rw [if_neg (not_not_intro hupper), Method.ofName?_name]

lemma readMethod_eq_error_iff {value : Text} {fault : Fault} :
    readMethod value = .error fault ↔
      (value ≠ Text.upper value ∧ fault = .nonUppercaseMethod) ∨
      (value = Text.upper value ∧ (∀ m : Method, value ≠ m.name) ∧ fault = .unsupportedMethod) := by
  unfold readMethod
  by_cases hupper : value = Text.upper value
  · rw [if_neg (not_not_intro hupper)]
    cases hname : Method.ofName? value with
    | none =>
      have hnot : ∀ m : Method, value ≠ m.name := by
        intro m hm
        rw [hm, Method.ofName?_name] at hname
        simp at hname
      simp [← hupper, hnot, eq_comm]
    | some m =>
      have hm := Method.ofName?_eq_some_iff.1 hname
      simp only [reduceCtorEq, false_iff, not_or, not_and]
      exact ⟨fun h => absurd hupper h, fun _ h => absurd hm (h m)⟩
  · rw [if_pos hupper]
    simp [hupper, eq_comm]

/-- Whether a value may follow a keyword. -/
def Accepts : Keyword → Text → Prop
  | .http, value => ∃ m : Method, value = m.name
  | .url, _ => True
  | .json sec, value => ∃ object, sec.decode value = .ok object

/-- Why a value may not follow a keyword. -/
inductive Unaccepted : Keyword → Text → Fault → Prop
  | notUpper {value : Text} (h : value ≠ Text.upper value) :
    Unaccepted .http value .nonUppercaseMethod
  | noMethod {value : Text} (hupper : value = Text.upper value)
    (h : ∀ m : Method, value ≠ m.name) : Unaccepted .http value .unsupportedMethod
  | noJson {sec : Section} {value : Text}
    (h : sec.decode value = .error (.invalidSectionJson sec)) :
    Unaccepted (.json sec) value (.invalidSectionJson sec)
  | noObject {sec : Section} {value : Text}
    (h : sec.decode value = .error (.sectionNotObject sec)) :
    Unaccepted (.json sec) value (.sectionNotObject sec)

/-- A fault of a section names the section. -/
lemma decode_eq_error_iff {sec : Section} {value : Text} {fault : Fault} :
    sec.decode value = .error fault ↔ Unaccepted (.json sec) value fault := by
  constructor
  · intro h
    have hfault : fault = .invalidSectionJson sec ∨ fault = .sectionNotObject sec := by
      unfold Section.decode at h
      split at h
      · exact .inl (Except.error.inj h).symm
      · split at h
        · simp at h
        · exact .inl (Except.error.inj h).symm
      · exact .inr (Except.error.inj h).symm
    rcases hfault with rfl | rfl
    · exact .noJson h
    · exact .noObject h
  · rintro (_ | _ | h | h) <;> exact h

namespace Draft

/-- The object of a section. -/
def object (draft : Draft) : Section → Json.Object
  | .headers => draft.headers
  | .query => draft.query
  | .body => draft.body

@[simp] lemma object_setSection (draft : Draft) (sec other : Section) (object : Json.Object) :
    (draft.setSection sec object).object other = if sec = other then object else draft.object other := by
  cases sec <;> cases other <;> rfl

@[simp] lemma seen_setSection (draft : Draft) (sec : Section) (object : Json.Object) :
    (draft.setSection sec object).seen = draft.seen := by
  cases sec <;> rfl

@[simp] lemma method_setSection (draft : Draft) (sec : Section) (object : Json.Object) :
    (draft.setSection sec object).method = draft.method := by
  cases sec <;> rfl

@[simp] lemma url_setSection (draft : Draft) (sec : Section) (object : Json.Object) :
    (draft.setSection sec object).url = draft.url := by
  cases sec <;> rfl

/-- A value is refused for the reason why it may not follow its keyword. -/
lemma set_eq_error_iff {draft : Draft} {k : Keyword} {value : Text} {fault : Fault} :
    draft.set k value = .error fault ↔ Unaccepted k value fault := by
  cases k with
  | http =>
    have hmap : draft.set .http value = .error fault ↔ readMethod value = .error fault := by
      simp only [set]
      cases readMethod value <;> simp [Except.map]
    rw [hmap, readMethod_eq_error_iff]
    constructor
    · rintro (⟨h, rfl⟩ | ⟨hupper, h, rfl⟩)
      · exact .notUpper h
      · exact .noMethod hupper h
    · rintro (h | ⟨hupper, h⟩)
      · exact .inl ⟨h, rfl⟩
      · exact .inr ⟨hupper, h, rfl⟩
  | url =>
    simp only [set, reduceCtorEq, false_iff]
    rintro ⟨⟩
  | json sec =>
    have hmap : draft.set (.json sec) value = .error fault ↔ sec.decode value = .error fault := by
      simp only [set]
      cases sec.decode value <;> simp [Except.map]
    rw [hmap, decode_eq_error_iff]

/-- Whether a draft has taken over the value of a keyword. -/
def Reads (draft : Draft) : Keyword → Text → Prop
  | .http, value => ∃ m : Method, draft.method = some m ∧ value = m.name
  | .url, value => draft.url = value
  | .json sec, value => sec.decode value = .ok (draft.object sec)

/-- Whether a draft is as it was at first with respect to a keyword. -/
def Lacks (draft : Draft) : Keyword → Prop
  | .http => draft.method = none
  | .url => draft.url = []
  | .json sec => draft.object sec = []

/-- What a draft holds after a list of entries. -/
structure Holds (draft : Draft) (entries : List (Keyword × Text)) : Prop where
  seen : ∀ k, k ∈ draft.seen ↔ k ∈ entries.map (·.1)
  nodup : (entries.map (·.1)).Nodup
  reads : ∀ e ∈ entries, draft.Reads e.1 e.2
  lacks : ∀ k, k ∉ entries.map (·.1) → draft.Lacks k

lemma holds_nil : Holds {} [] where
  seen := by simp
  nodup := by simp
  reads := by simp
  lacks := by
    rintro (_ | _ | _ | _ | _) - <;> rfl

variable {draft draft' : Draft} {entries : List (Keyword × Text)} {k : Keyword} {value : Text}

/-- What a value does to a draft: it is taken over, and nothing else changes. -/
lemma set_eq_ok (h : draft.set k value = .ok draft') :
    draft'.seen = draft.seen ∧ draft'.Reads k value ∧
      ∀ other, other ≠ k → (∀ v, draft.Reads other v → draft'.Reads other v) ∧
        (draft.Lacks other → draft'.Lacks other) := by
  cases k with
  | http =>
    simp only [set] at h
    cases hm : readMethod value with
    | error fault => simp [hm, Except.map] at h
    | ok m =>
      simp only [hm, Except.map, Except.ok.injEq] at h
      subst h
      refine ⟨rfl, ⟨m, rfl, readMethod_eq_ok_iff.1 hm⟩, ?_⟩
      rintro (_ | _ | _ | _ | _) hne
      · exact absurd rfl hne
      all_goals exact ⟨fun _ h => h, fun h => h⟩
  | url =>
    obtain rfl := Except.ok.inj h
    refine ⟨rfl, rfl, ?_⟩
    rintro (_ | _ | _ | _ | _) hne
    · exact ⟨fun _ h => h, fun h => h⟩
    · exact absurd rfl hne
    all_goals exact ⟨fun _ h => h, fun h => h⟩
  | json sec =>
    simp only [set] at h
    cases hobject : sec.decode value with
    | error fault => simp [hobject, Except.map] at h
    | ok object =>
      simp only [hobject, Except.map, Except.ok.injEq] at h
      subst h
      refine ⟨by simp, by simp [Reads, hobject], ?_⟩
      rintro (_ | _ | other) hne
      · simp [Reads, Lacks]
      · simp [Reads, Lacks]
      · have hne : sec ≠ other := fun h => hne (by rw [h])
        simp [Reads, Lacks, hne]

/-- An entry with a keyword that is new, taken over by a draft. -/
lemma Holds.set (h : draft.Holds entries) (hk : k ∉ draft.seen)
    (hset : { draft with seen := k :: draft.seen }.set k value = .ok draft') :
    draft'.Holds (entries ++ [(k, value)]) := by
  obtain ⟨hseen, hreads, hframe⟩ := set_eq_ok hset
  have hnew : k ∉ entries.map (·.1) := fun hmem => hk ((h.seen k).2 hmem)
  have hother : ∀ {other}, other ∈ entries.map (·.1) → other ≠ k := by
    rintro other hmem rfl
    exact hnew hmem
  -- What the draft held for other keywords is framed by `hframe`.
  refine ⟨fun other => ?_, ?_, fun e he => ?_, fun other hnot => ?_⟩
  · simp [hseen, h.seen other, or_comm]
  · rw [List.map_append, List.nodup_append]
    exact ⟨h.nodup, by simp, fun a ha b hb => by simpa [List.mem_singleton.1 hb] using hother ha⟩
  · rcases List.mem_append.1 he with he | he
    · exact (hframe e.1 (hother (List.mem_map_of_mem he))).1 _ (h.reads e he)
    · rw [List.mem_singleton.1 he]
      exact hreads
  · simp only [List.map_append, List.mem_append, not_or] at hnot
    exact (hframe other (by simpa using hnot.2)).2 (h.lacks other hnot.1)

/-! ## One segment -/

/-- Why a segment is refused after segments with the given keywords. -/
inductive Faulty (used : Keyword → Prop) : Text → Fault → Prop
  | malformed {segment : Text} {fault : Fault} (h : Malformed segment fault) :
    Faulty used segment fault
  | repeated {k : Keyword} {value : Text} (hvalue : value ≠ []) (hhead : value.head? ≠ some space)
    (h : used k) : Faulty used (entry (k, value)) (.duplicateSection k)
  | unaccepted {k : Keyword} {value : Text} {fault : Fault} (hvalue : value ≠ [])
    (hhead : value.head? ≠ some space) (hnew : ¬ used k) (h : Unaccepted k value fault) :
    Faulty used (entry (k, value)) fault

lemma add_of_extract_eq_ok {segment : Text} {e : Keyword × Text}
    (h : extract segment = .ok e) :
    draft.add segment = if e.1 ∈ draft.seen then .error (.duplicateSection e.1)
      else { draft with seen := e.1 :: draft.seen }.set e.1 e.2 := by
  simp only [add, h, bind, Except.bind]
  split <;> rfl

lemma add_of_extract_eq_error {segment : Text} {fault : Fault}
    (h : extract segment = .error fault) : draft.add segment = .error fault := by
  simp [add, h, bind, Except.bind]

/-- A segment that a draft takes up is an entry, and the draft holds it afterwards. -/
lemma Holds.add (h : draft.Holds entries) {segment : Text} (hadd : draft.add segment = .ok draft') :
    ∃ e, segment = entry e ∧ e.2 ≠ [] ∧ e.2.head? ≠ some space ∧ draft'.Holds (entries ++ [e]) := by
  cases hextract : extract segment with
  | error fault => simp [add_of_extract_eq_error hextract] at hadd
  | ok e =>
    obtain ⟨rfl, hvalue, hhead⟩ := extract_eq_ok_iff.1 hextract
    rw [add_of_extract_eq_ok hextract] at hadd
    split at hadd
    · simp at hadd
    · next hk => exact ⟨e, rfl, hvalue, hhead, h.set hk hadd⟩

/-- A draft refuses a segment if and only if it is faulty after the segments taken up before. -/
lemma Holds.add_eq_error_iff (h : draft.Holds entries) {segment : Text} {fault : Fault} :
    draft.add segment = .error fault ↔ Faulty (· ∈ entries.map (·.1)) segment fault := by
  constructor
  · intro hadd
    cases hextract : extract segment with
    | error other =>
      rw [add_of_extract_eq_error hextract] at hadd
      obtain rfl := Except.error.inj hadd
      exact .malformed (extract_eq_error_iff.1 hextract)
    | ok e =>
      obtain ⟨rfl, hvalue, hhead⟩ := extract_eq_ok_iff.1 hextract
      rw [add_of_extract_eq_ok hextract] at hadd
      split at hadd
      · next hk =>
        obtain rfl := Except.error.inj hadd
        exact .repeated hvalue hhead ((h.seen e.1).1 hk)
      · next hk =>
        exact .unaccepted hvalue hhead (fun hmem => hk ((h.seen e.1).2 hmem))
          (set_eq_error_iff.1 hadd)
  · rintro (hmalformed | ⟨hvalue, hhead, hused⟩ | ⟨hvalue, hhead, hnew, hunaccepted⟩)
    · exact add_of_extract_eq_error (extract_eq_error_iff.2 hmalformed)
    · rw [add_of_extract_eq_ok (extract_eq_ok_iff.2 ⟨rfl, hvalue, hhead⟩),
        if_pos ((h.seen _).2 hused)]
    · rw [add_of_extract_eq_ok (extract_eq_ok_iff.2 ⟨rfl, hvalue, hhead⟩),
        if_neg fun hmem => hnew ((h.seen _).1 hmem)]
      exact set_eq_error_iff.2 hunaccepted

/-! ## A list of segments -/

/-- What a draft holds after a list of segments. -/
lemma Holds.addAll (h : draft.Holds entries) {segments : List Text}
    (hadd : draft.addAll segments = .ok draft') :
    ∃ more, segments = more.map entry ∧ (∀ e ∈ more, e.2 ≠ [] ∧ e.2.head? ≠ some space) ∧
      draft'.Holds (entries ++ more) := by
  -- The invariant is that the draft holds the entries taken up so far, whatever these are.
  induction segments generalizing draft entries with
  | nil =>
    obtain rfl := Except.ok.inj hadd
    exact ⟨[], rfl, by simp, by simpa using h⟩
  | cons segment segments ih =>
    cases hfirst : draft.add segment with
    | error fault => simp [Draft.addAll, hfirst, bind, Except.bind] at hadd
    | ok next =>
      simp only [Draft.addAll, hfirst, bind, Except.bind] at hadd
      obtain ⟨e, rfl, hvalue, hhead, hnext⟩ := h.add hfirst
      obtain ⟨more, rfl, hmore, hholds⟩ := ih hnext hadd
      exact ⟨e :: more, rfl, List.forall_mem_cons.2 ⟨⟨hvalue, hhead⟩, hmore⟩,
        by simpa using hholds⟩

lemma addAll_append (draft : Draft) (earlier later : List Text) :
    draft.addAll (earlier ++ later) = (draft.addAll earlier).bind (·.addAll later) := by
  induction earlier generalizing draft with
  | nil => rfl
  | cons segment earlier ih =>
    simp only [List.cons_append, Draft.addAll, bind]
    cases draft.add segment with
    | error fault => rfl
    | ok next => exact ih next

/-- A draft stops at the first segment that it refuses. -/
lemma addAll_eq_error_iff {segments : List Text} {fault : Fault} :
    draft.addAll segments = .error fault ↔
      ∃ earlier segment later draft', segments = earlier ++ segment :: later ∧
        draft.addAll earlier = .ok draft' ∧ draft'.add segment = .error fault := by
  constructor
  · intro h
    induction segments generalizing draft with
    | nil => simp [Draft.addAll] at h
    | cons segment segments ih =>
      cases hfirst : draft.add segment with
      | error other =>
        obtain rfl : other = fault := by simpa [Draft.addAll, hfirst, bind, Except.bind] using h
        exact ⟨[], segment, segments, draft, rfl, rfl, hfirst⟩
      | ok next =>
        simp only [Draft.addAll, hfirst, bind, Except.bind] at h
        obtain ⟨earlier, second, later, draft', rfl, hearlier, hsecond⟩ := ih h
        refine ⟨segment :: earlier, second, later, draft', rfl, ?_, hsecond⟩
        simpa [Draft.addAll, hfirst, bind, Except.bind] using hearlier
  · rintro ⟨earlier, segment, later, draft', rfl, hearlier, hsegment⟩
    simp [addAll_append, hearlier, Except.bind, Draft.addAll, hsegment, bind]

end Draft

end Statement

end Courier
