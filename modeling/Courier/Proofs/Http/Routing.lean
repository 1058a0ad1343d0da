import Courier.Http.Server
import Mathlib.Tactic.Common

/-!
# The handler of a request

A request is given to the first handler that is registered for its path and for its method in capital
letters. Without one it is answered that the path is unknown, or which methods it has: these are
listed in dictionary order, which leaves no choice. What a server answers to a request, and what becomes
of the world, is then up to the handler, which is called once with the payload.
-/

namespace Courier

namespace Text

/-! ## Dictionary order -/

lemma le_cons_cons {a b : CodePoint} {s t : Text} :
    le (a :: s) (b :: t) = true ↔ a.toNat < b.toNat ∨ a = b ∧ le s t = true := by
  rw [le, Bool.or_eq_true, Bool.and_eq_true, decide_eq_true_eq, decide_eq_true_eq]

lemma le_trans : ∀ r s t : Text, le r s = true → le s t = true → le r t = true
  | [], _, _, _, _ => by rw [le]
  | _ :: _, _ :: _, _ :: _, h, h' => by
    rw [le_cons_cons] at h h' ⊢
    rcases h with h | ⟨rfl, h⟩ <;> rcases h' with h' | ⟨rfl, h'⟩
    · exact .inl (Nat.lt_trans h h')
    · exact .inl h
    · exact .inl h'
    · exact .inr ⟨rfl, le_trans _ _ _ h h'⟩

lemma le_total : ∀ s t : Text, (le s t || le t s) = true
  | [], _ => by rw [le, Bool.true_or]
  | _ :: _, [] => by rw [le, le, Bool.or_true]
  | a :: s, b :: t => by
    rw [Bool.or_eq_true, le_cons_cons, le_cons_cons]
    rcases Nat.lt_trichotomy a.toNat b.toNat with h | h | h
    · exact .inl (.inl h)
    · obtain rfl : a = b := by
        cases a
        cases b
        cases h
        rfl
      rcases Bool.or_eq_true _ _ ▸ le_total s t with h | h
      · exact .inl (.inr ⟨rfl, h⟩)
      · exact .inr (.inr ⟨rfl, h⟩)
    · exact .inr (.inl h)

lemma le_antisymm : ∀ {s t : Text}, le s t = true → le t s = true → s = t
  | [], [], _, _ => rfl
  | _ :: _, _ :: _, h, h' => by
    rw [le_cons_cons] at h h'
    rcases h with h | ⟨rfl, h⟩ <;> rcases h' with h' | ⟨heq, h'⟩
    · exact absurd h' (Nat.lt_asymm h)
    · exact absurd h (by rw [heq]; exact Nat.lt_irrefl _)
    · exact absurd h' (Nat.lt_irrefl _)
    · rw [le_antisymm h h']

end Text

namespace Router

variable {α : Type} {router : Router α} {method path : Text}

/-! ## Looking a handler up -/

/-- What looking up the handler for a method and a path comes to. -/
inductive Resolves (router : Router α) (method path : Text) : Except Miss α → Prop
  | noRoute (hnone : ∀ route ∈ router.routes, route.path ≠ path) :
      Resolves router method path (.error (.noRoute path))
  /-- There are routes for the path, but all have other methods: these are in order. -/
  | notAllowed {allowed : List Text} (hsome : ∃ route ∈ router.routes, route.path = path)
      (hother : ∀ route ∈ router.routes, route.path = path → route.method ≠ Text.upper method)
      (hallowed : allowed.Perm ((router.routes.filter (·.path = path)).map (·.method)))
      (hsorted : allowed.Pairwise fun s t => Text.le s t = true) :
      Resolves router method path (.error (.notAllowed allowed))
  | found {before after : List (Route α)} {route : Route α}
      (hroutes : router.routes = before ++ route :: after) (hpath : route.path = path)
      (hmethod : route.method = Text.upper method)
      (hfirst : ∀ other ∈ before, other.path = path → other.method ≠ Text.upper method) :
      Resolves router method path (.ok route.handler)

lemma methods_sorted (routes : List (Route α)) :
    (methods routes).Pairwise fun s t => Text.le s t = true :=
  List.pairwise_mergeSort Text.le_trans Text.le_total _

/-- There is one way only to list texts in order. -/
lemma eq_methods {routes : List (Route α)} {allowed : List Text}
    (hallowed : allowed.Perm (routes.map (·.method)))
    (hsorted : allowed.Pairwise fun s t => Text.le s t = true) : allowed = methods routes :=
  List.Perm.eq_of_pairwise (fun _ _ _ _ => Text.le_antisymm) hsorted (methods_sorted routes)
    (hallowed.trans (List.mergeSort_perm _ _).symm)

lemma onPath_eq_nil_iff :
    router.onPath path = [] ↔ ∀ route ∈ router.routes, route.path ≠ path := by
  rw [onPath, List.filter_eq_nil_iff]
  simp

lemma find?_onPath_eq_none_iff : (router.onPath path).find? (·.method = Text.upper method) = none ↔
    ∀ route ∈ router.routes, route.path = path → route.method ≠ Text.upper method := by
  rw [onPath, List.find?_filter, List.find?_eq_none]
  simp

lemma find?_onPath_eq_some_iff {route : Route α} :
    (router.onPath path).find? (·.method = Text.upper method) = some route ↔
      (route.path = path ∧ route.method = Text.upper method) ∧ ∃ before after,
        router.routes = before ++ route :: after ∧
          ∀ other ∈ before, other.path = path → other.method ≠ Text.upper method := by
  rw [onPath, List.find?_filter, List.find?_eq_some_iff_append]
  simp [imp_iff_not_or]

lemma resolve_of_find?_eq_some {route : Route α}
    (h : (router.onPath path).find? (·.method = Text.upper method) = some route) :
    router.resolve method path = .ok route.handler := by
  unfold resolve
  cases hroutes : router.onPath path with
  | nil =>
    rw [hroutes, List.find?_nil] at h
    cases h
  | cons first others =>
    rw [hroutes] at h
    dsimp only
    rw [h]

lemma resolve_of_find?_eq_none (hne : router.onPath path ≠ [])
    (h : (router.onPath path).find? (·.method = Text.upper method) = none) :
    router.resolve method path = .error (.notAllowed (methods (router.onPath path))) := by
  unfold resolve
  cases hroutes : router.onPath path with
  | nil => exact absurd hroutes hne
  | cons first others =>
    rw [hroutes] at h
    dsimp only
    rw [h]

lemma Resolves.resolve_eq {found : Except Miss α} (h : router.Resolves method path found) :
    router.resolve method path = found := by
  cases h with
  | noRoute hnone => rw [resolve, onPath_eq_nil_iff.mpr hnone]
  | notAllowed hsome hother hallowed hsorted =>
    obtain ⟨route, hroute, hpath⟩ := hsome
    have hne : router.onPath path ≠ [] := fun h => onPath_eq_nil_iff.mp h route hroute hpath
    rw [resolve_of_find?_eq_none hne (find?_onPath_eq_none_iff.mpr hother),
      eq_methods hallowed hsorted, onPath]
  | @found before after route hroutes hpath hmethod hfirst =>
    exact resolve_of_find?_eq_some
      (find?_onPath_eq_some_iff.mpr ⟨⟨hpath, hmethod⟩, before, after, hroutes, hfirst⟩)

/-- The methods that are allowed are those of routes. -/
lemma Resolves.exists_route {allowed : List Text}
    (h : router.Resolves method path (.error (.notAllowed allowed))) {other : Text}
    (hother : other ∈ allowed) : ∃ route ∈ router.routes, route.method = other := by
  cases h with
  | notAllowed _ _ hallowed _ =>
    obtain ⟨route, hroute, hmethod⟩ := List.mem_map.mp (hallowed.mem_iff.mp hother)
    exact ⟨route, (List.mem_filter.mp hroute).1, hmethod⟩

/-- The handler that is found is that of a route. -/
lemma Resolves.exists_route_of_ok {handler : α} (h : router.Resolves method path (.ok handler)) :
    ∃ route ∈ router.routes, (route.path = path ∧ route.method = Text.upper method) ∧
      route.handler = handler := by
  cases h with
  | @found before after route hroutes hpath hmethod _ =>
    exact ⟨route, by simp [hroutes], ⟨hpath, hmethod⟩, rfl⟩

lemma exists_resolves (router : Router α) (method path : Text) :
    ∃ found, router.Resolves method path found := by
  by_cases hnone : ∀ route ∈ router.routes, route.path ≠ path
  · exact ⟨_, .noRoute hnone⟩
  · cases hfind : (router.onPath path).find? (·.method = Text.upper method) with
    | none =>
      push Not at hnone
      exact ⟨_, .notAllowed hnone (find?_onPath_eq_none_iff.mp hfind) (List.mergeSort_perm _ _)
        (methods_sorted _)⟩
    | some route =>
      obtain ⟨⟨hpath, hmethod⟩, before, after, hroutes, hfirst⟩ := find?_onPath_eq_some_iff.mp hfind
      exact ⟨_, .found hroutes hpath hmethod hfirst⟩

/-- A router finds what looking a handler up comes to. -/
theorem resolve_eq_iff {found : Except Miss α} :
    router.resolve method path = found ↔ router.Resolves method path found := by
  constructor
  · rintro rfl
    obtain ⟨found, hfound⟩ := exists_resolves router method path
    rw [hfound.resolve_eq]
    exact hfound
  · exact Resolves.resolve_eq

/-! ## Registering -/

lemma any_onPath_iff : (router.onPath path).any (·.method = Text.upper method) = true ↔
    ∃ route ∈ router.routes, route.path = path ∧ route.method = Text.upper method := by
  simp [onPath]

lemma onPath_append (routes : List (Route α)) (route : Route α) (path : Text) :
    onPath ⟨routes ++ [route]⟩ path =
      onPath ⟨routes⟩ path ++ if route.path = path then [route] else [] := by
  by_cases h : route.path = path <;> simp [onPath, h]

/-- A registration fails if and only if the route has a handler. -/
lemma register_eq_error_iff {handler : α} {message : Text} :
    router.register method path handler = .error message ↔
      (∃ route ∈ router.routes, route.path = path ∧ route.method = Text.upper method) ∧
        message = Text.ofString "route already registered: " ++ Text.upper method ++
          (CodePoint.ofChar ' ' :: path) := by
  rw [← any_onPath_iff, register]
  by_cases h : (router.onPath path).any (·.method = Text.upper method) = true
  · simp [h, @eq_comm _ message]
  · simp [h]

/-- If it has none, then it is added behind the others. -/
lemma register_eq_ok_iff {handler : α} {next : Router α} :
    router.register method path handler = .ok next ↔
      (¬∃ route ∈ router.routes, route.path = path ∧ route.method = Text.upper method) ∧
        next = ⟨router.routes ++ [⟨Text.upper method, path, handler⟩]⟩ := by
  rw [← any_onPath_iff, register]
  by_cases h : (router.onPath path).any (·.method = Text.upper method) = true
  · simp [h]
  · simp [h, @eq_comm _ next]

end Router

namespace Http

/-! ## The answer to a request -/

/-- That a body carries a payload. -/
inductive Carries (body : List UInt8) : Json → Prop
  | json {value : Json} (hne : body ≠ []) (hvalue : Json.ofBytes? body = some value) :
      Carries body value
  /-- Nothing counts as null, and so does what is not JSON. -/
  | nothing (h : body = [] ∨ Json.ofBytes? body = none) : Carries body .null

/-- What a request is answered, with the headers that belong to the answer, and what becomes of the
world. -/
inductive Answers (router : Router Handler) (w : World) (request : Request) :
    Answer × List (Text × Text) → World → Prop
  | noRoute {path : Text} (h : router.Resolves request.head.method request.head.path
        (.error (.noRoute path))) :
      Answers router w request (errorAnswer 404 (Text.ofString "Not Found"), []) w
  | notAllowed {allowed : List Text} (h : router.Resolves request.head.method request.head.path
        (.error (.notAllowed allowed))) :
      Answers router w request (errorAnswer 405 (Text.ofString "Method Not Allowed"),
        [(Text.ofString "Allow", Text.join (Text.ofString ", ") allowed)]) w
  /-- The handler is called once, and it answers. -/
  | handled {handler : Handler} {payload : Json} {answer : Answer} {w' : World}
      (h : router.Resolves request.head.method request.head.path (.ok handler))
      (hpayload : Carries request.body payload) (hanswer : handler w payload = (.ok answer, w')) :
      Answers router w request (answer, []) w'
  /-- The handler is called once, and it crashes, which goes to the log only. -/
  | crashed {handler : Handler} {payload : Json} {crash : Crash} {w' : World}
      (h : router.Resolves request.head.method request.head.path (.ok handler))
      (hpayload : Carries request.body payload) (hcrash : handler w payload = (.error crash, w')) :
      Answers router w request (errorAnswer 500 (Text.ofString "Internal server error"), [])
        (w'.write (crashLine request.head))

lemma payload_eq_iff {body : List UInt8} {value : Json} :
    payload body = value ↔ Carries body value := by
  constructor
  · rintro rfl
    cases body with
    | nil => exact .nothing (.inl rfl)
    | cons b body =>
      cases hvalue : Json.ofBytes? (b :: body) with
      | none =>
        rw [payload, hvalue]
        exact .nothing (.inr hvalue)
      | some value =>
        rw [payload, hvalue]
        exact .json (List.cons_ne_nil b body) hvalue
  · rintro (⟨hne, hvalue⟩ | ⟨rfl | hvalue⟩)
    · rw [payload, hvalue, if_neg (by simpa using hne)]
      rfl
    · rfl
    · rw [payload, hvalue]
      split <;> rfl

section

variable {router : Router Handler} {w w' : World} {request : Request}
  {answer : Answer × List (Text × Text)}

lemma Answers.dispatch_eq (h : Answers router w request answer w') :
    dispatch router w request = (answer, w') := by
  cases h with
  | noRoute h => rw [dispatch, h.resolve_eq]
  | notAllowed h =>
    rw [dispatch, h.resolve_eq]
    rfl
  | handled h hpayload hanswer =>
    rw [dispatch, h.resolve_eq]
    dsimp only
    rw [payload_eq_iff.mpr hpayload, hanswer]
  | crashed h hpayload hcrash =>
    rw [dispatch, h.resolve_eq]
    dsimp only
    rw [payload_eq_iff.mpr hpayload, hcrash]

lemma exists_answers (router : Router Handler) (w : World) (request : Request) :
    ∃ answer w', Answers router w request answer w' := by
  obtain ⟨found, hfound⟩ := router.exists_resolves request.head.method request.head.path
  match found with
  | .error (.noRoute path) => exact ⟨_, _, .noRoute hfound⟩
  | .error (.notAllowed allowed) => exact ⟨_, _, .notAllowed hfound⟩
  | .ok handler =>
    have hpayload : Carries request.body (payload request.body) := payload_eq_iff.mp rfl
    cases hcall : handler w (payload request.body) with
    | mk result after =>
      cases result with
      | ok answer => exact ⟨_, _, .handled hfound hpayload hcall⟩
      | error crash => exact ⟨_, _, .crashed hfound hpayload hcall⟩

/-- A request is dispatched to what it is answered. -/
theorem dispatch_eq_iff :
    dispatch router w request = (answer, w') ↔ Answers router w request answer w' := by
  constructor
  · intro h
    obtain ⟨answer', after, hanswers⟩ := exists_answers router w request
    obtain ⟨rfl, rfl⟩ := Prod.mk.inj (hanswers.dispatch_eq.symm.trans h)
    exact hanswers
  · exact Answers.dispatch_eq

end

end Http

end Courier
