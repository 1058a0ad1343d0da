import Courier.Number.Binary64
import Courier.Text.CodePoint

/-!
JSON values.

The members of an object keep the order in which their keys were first given, and integers are
kept apart from the numbers that were written with a fraction or an exponent.
-/

namespace Courier

/-- A JSON value. -/
inductive Json
  | null
  | bool (b : Bool)
  | int (n : Int)
  | float (x : Binary64)
  | string (s : Text)
  | array (items : List Json)
  | object (members : List (Text × Json))

instance : Inhabited Json := ⟨.null⟩

/-- A list of keys with values, in the order of the keys' first appearance. -/
abbrev Fields (α : Type) := List (Text × α)

namespace Fields

variable {α : Type}

/-- Sets the value of a key: a new key goes to the end, a known one keeps its place. -/
def insert (fields : Fields α) (key : Text) (value : α) : Fields α :=
  match fields with
  | [] => [(key, value)]
  | (k, v) :: rest => if k = key then (k, value) :: rest else (k, v) :: insert rest key value

/-- The fields of a list of entries in which keys may be repeated. -/
def ofEntries (entries : List (Text × α)) : Fields α :=
  entries.foldl (fun fields entry => insert fields entry.1 entry.2) []

/-- The value of a key. -/
def get? (fields : Fields α) (key : Text) : Option α :=
  (fields.find? fun field => field.1 = key).map (·.2)

/-- Setting a key changes the value of that key and of no other. -/
theorem get?_insert (fields : Fields α) (key other : Text) (value : α) :
    (fields.insert key value).get? other =
      if key = other then some value else fields.get? other := by
  induction fields with
  | nil => by_cases h : key = other <;> simp [insert, get?, h]
  | cons field fields ih =>
    obtain ⟨k, v⟩ := field
    by_cases hk : k = key
    · subst hk
      by_cases h : k = other <;> simp [insert, get?, h]
    · simp only [insert, hk, if_false]
      simp only [get?] at ih ⊢
      by_cases h : k = other
      · subst h; simp [Ne.symm hk]
      · simp [h, ih]

/-- A new key goes to the end. -/
theorem insert_of_notMem {fields : Fields α} {key : Text} (h : key ∉ fields.map (·.1))
    (value : α) : fields.insert key value = fields ++ [(key, value)] := by
  induction fields with
  | nil => rfl
  | cons field fields ih =>
    obtain ⟨k, v⟩ := field
    rw [List.map_cons, List.mem_cons, not_or] at h
    rw [insert, if_neg (Ne.symm h.1), ih h.2]
    rfl

/-- The keys after a key was set: the same ones, and the key itself at the end if it is new. -/
theorem keys_insert (fields : Fields α) (key : Text) (value : α) :
    (fields.insert key value).map (·.1) =
      if key ∈ fields.map (·.1) then fields.map (·.1) else fields.map (·.1) ++ [key] := by
  induction fields with
  | nil => simp [insert]
  | cons field fields ih =>
    obtain ⟨k, v⟩ := field
    by_cases hk : k = key
    · simp [insert, hk]
    · simp only [insert, hk, if_false, List.map_cons, ih]
      by_cases h : key ∈ fields.map (·.1) <;> simp_all [Ne.symm hk]

/-- Setting a key keeps the keys distinct. -/
theorem nodup_keys_insert {fields : Fields α} (h : (fields.map (·.1)).Nodup) (key : Text)
    (value : α) : ((fields.insert key value).map (·.1)).Nodup := by
  rw [keys_insert]
  split
  · exact h
  · next hkey =>
    refine List.nodup_append.mpr ⟨h, by simp, ?_⟩
    rintro a ha b hb rfl
    exact hkey (List.mem_singleton.mp hb ▸ ha)

/-- Fields that are made from entries have distinct keys. -/
theorem nodup_keys_ofEntries (entries : List (Text × α)) :
    ((ofEntries entries).map (·.1)).Nodup :=
  List.foldlRecOn (motive := fun fields : Fields α => (fields.map (·.1)).Nodup) entries _
    (by simp) fun _ h entry _ => nodup_keys_insert h entry.1 entry.2

end Fields

namespace Json

/-- The members of an object. -/
abbrev Object := Fields Json

/-- Induction over values: a property of all items passes to the array and one of the values of all
members to the object. -/
@[elab_as_elim]
theorem induction {motive : Json → Prop} (null : motive .null) (bool : ∀ b, motive (.bool b))
    (int : ∀ n, motive (.int n)) (float : ∀ x, motive (.float x)) (string : ∀ s, motive (.string s))
    (array : ∀ items : List Json, (∀ v ∈ items, motive v) → motive (.array items))
    (object : ∀ members : List (Text × Json), (∀ member ∈ members, motive member.2) →
      motive (.object members)) (v : Json) : motive v := by
  refine @Json.rec motive (fun items => ∀ v ∈ items, motive v)
    (fun members => ∀ member ∈ members, motive member.2) (fun member => motive member.2)
    null bool int float string array object ?_ ?_ ?_ ?_ ?_ v
  · intro _ h
    cases h
  · intro _ _ hv hitems
    exact List.forall_mem_cons.mpr ⟨hv, hitems⟩
  · intro _ h
    cases h
  · intro _ _ hmember hmembers
    exact List.forall_mem_cons.mpr ⟨hmember, hmembers⟩
  · intro _ _ hv
    exact hv

/-- Tests of the leaves of a value: its keys, its strings and its inexact numbers. -/
structure Test where
  key : Text → Bool := fun _ => true
  string : Text → Bool := fun _ => true
  float : Binary64 → Bool := fun _ => true

mutual

/-- Whether all leaves at every depth pass. -/
def all (test : Test) : Json → Bool
  | .string s => test.string s
  | .float x => test.float x
  | .array items => itemsAll test items
  | .object members => membersAll test members
  | _ => true

/-- Whether all leaves of the items of an array pass. -/
def itemsAll (test : Test) : List Json → Bool
  | [] => true
  | v :: items => all test v && itemsAll test items

/-- Whether all leaves of the members of an object pass. -/
def membersAll (test : Test) : List (Text × Json) → Bool
  | [] => true
  | (k, v) :: members => test.key k && all test v && membersAll test members

end

theorem itemsAll_eq_true {test : Test} {items : List Json} :
    itemsAll test items = true ↔ ∀ v ∈ items, all test v = true := by
  induction items with
  | nil => simp [itemsAll]
  | cons v items ih => simp [itemsAll, ih]

theorem membersAll_eq_true {test : Test} {members : List (Text × Json)} :
    membersAll test members = true ↔
      ∀ member ∈ members, test.key member.1 = true ∧ all test member.2 = true := by
  induction members with
  | nil => simp [membersAll]
  | cons member members ih => simp [membersAll, ih, and_assoc]

/-- Whether no key and no string at any depth holds a surrogate. -/
def isEncodable : Json → Bool :=
  all { key := (!Text.hasSurrogate ·), string := (!Text.hasSurrogate ·) }

/-- Whether no key at any depth holds a surrogate. -/
def hasEncodableKeys : Json → Bool := all { key := (!Text.hasSurrogate ·) }

/-- Whether all numbers at every depth are finite. -/
def isFinite : Json → Bool := all { float := Binary64.isFinite }

mutual

/-- The greatest number of arrays and objects around a value inside this one, itself included. -/
def depth : Json → Nat
  | .array items => itemsDepth items + 1
  | .object members => membersDepth members + 1
  | _ => 0

/-- The greatest depth of the items of an array. -/
def itemsDepth : List Json → Nat
  | [] => 0
  | v :: items => Nat.max (depth v) (itemsDepth items)

/-- The greatest depth of the members of an object. -/
def membersDepth : List (Text × Json) → Nat
  | [] => 0
  | (_, v) :: members => Nat.max (depth v) (membersDepth members)

end

mutual

/-- The value with null in place of every number that is not finite. -/
def withoutInfinities : Json → Json
  | .float x => if x.isFinite then .float x else .null
  | .array items => .array (itemsWithoutInfinities items)
  | .object members => .object (membersWithoutInfinities members)
  | v => v

/-- The items with null in place of every number that is not finite. -/
def itemsWithoutInfinities : List Json → List Json
  | [] => []
  | v :: items => withoutInfinities v :: itemsWithoutInfinities items

/-- The members with null in place of every number that is not finite. -/
def membersWithoutInfinities : List (Text × Json) → List (Text × Json)
  | [] => []
  | (k, v) :: members => (k, withoutInfinities v) :: membersWithoutInfinities members

end

end Json

end Courier
