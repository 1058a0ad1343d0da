import Courier.Http.Registry
import Courier.Proofs.Http.Routing
import Mathlib.Data.List.Basic
import Mathlib.Data.List.Induction

/-!
# A registry as a map

A registry keeps in its tables what a router has as a list: the routes of each path in the order of their
registration, and no table for a path without routes. Registering and resolving come to the same in both.
So after any sequence of registrations, of which some may have failed, a method and a path lead to the
handler of the one registration for them that succeeded. A registration fails only if there is one before
it, and leaves everything as it was.
-/

namespace Courier

namespace CodePoint

/-- An ASCII code point that is no small letter is its own capital form. -/
lemma upper_eq_self {c : CodePoint} (h : c.isAscii = true) (hc : ¬(0x61 ≤ c.toNat ∧ c.toNat ≤ 0x7A)) :
    c.upper = [c] := by
  rw [upper, if_pos h, if_neg hc]

lemma upper_of_mem_upper {c d : CodePoint} (h : c.isAscii = true) (hd : d ∈ c.upper) :
    d.upper = [d] := by
  have hlt : c.toNat < 0x80 := of_decide_eq_true h
  by_cases hc : 0x61 ≤ c.toNat ∧ c.toNat ≤ 0x7A
  · rw [upper, if_pos h, if_pos hc, List.mem_singleton] at hd
    have hnat : d.toNat = c.toNat - 0x20 := by
      rw [hd]
      exact toNat_ofNat (by omega)
    exact upper_eq_self (decide_eq_true (by omega)) (by omega)
  · rw [upper_eq_self h hc, List.mem_singleton] at hd
    rw [hd, upper_eq_self h hc]

end CodePoint

namespace Text

/-- A text in capital ASCII letters is its own capital form. -/
lemma upper_upper {t : Text} (h : ∀ c ∈ t, c.isAscii = true) : upper (upper t) = upper t := by
  have hpoint : ∀ d ∈ upper t, d.upper = [d] := by
    intro d hd
    obtain ⟨c, hc, hd⟩ := List.mem_flatMap.1 hd
    exact CodePoint.upper_of_mem_upper (h c hc) hd
  calc upper (upper t) = (upper t).flatMap fun d => [d] := List.flatMap_congr hpoint
    _ = upper t := List.flatMap_singleton' _

end Text

namespace Registration

variable {α : Type}

/-- The route that a registration is for. -/
def route (r : Registration α) : Route α := ⟨Text.upper r.method, r.path, r.handler⟩

/-- Whether a registration is for a path and a method, in whatever letters. -/
def isFor (method path : Text) (r : Registration α) : Bool :=
  r.path = path && Text.upper r.method = Text.upper method

lemma isFor_iff {method path : Text} {r : Registration α} : r.isFor method path = true ↔
    r.path = path ∧ Text.upper r.method = Text.upper method := by
  rw [isFor, Bool.and_eq_true, decide_eq_true_eq, decide_eq_true_eq]

/-- Two registrations for a method and a path are for one route. -/
lemma isFor_of_isFor {method path : Text} {r s : Registration α} (hr : r.isFor method path = true)
    (hs : s.isFor method path = true) : s.isFor r.method r.path = true := by
  rw [isFor_iff] at hr hs ⊢
  exact ⟨hs.1.trans hr.1.symm, hs.2.trans hr.2.symm⟩

lemma isFor_comm {r s : Registration α} :
    r.isFor s.method s.path = true ↔ s.isFor r.method r.path = true := by
  rw [isFor_iff, isFor_iff, @eq_comm _ r.path, @eq_comm _ (Text.upper r.method)]

end Registration

namespace Registry

variable {α : Type} {registry : Registry α} {router : Router α} {r : Registration α}
  {method path : Text}

/-! ## Tables and routes -/

/-- The table of a path in a registry with the routes of a router. -/
def entries (router : Router α) (path : Text) : Fields α :=
  (router.onPath path).map fun route => (route.method, route.handler)

/-- That the tables hold the routes of a router, and that none of them is empty. -/
def Holds (registry : Registry α) (router : Router α) : Prop :=
  ∀ path, registry.tables.get? path =
    if router.onPath path = [] then none else some (entries router path)

lemma get?_entries (router : Router α) (path method : Text) :
    (entries router path).get? method =
      ((router.onPath path).find? (·.method = method)).map (·.handler) := by
  rw [entries, Fields.get?, List.find?_map, Option.map_map]
  rfl

lemma entries_append (routes : List (Route α)) (route : Route α) (path : Text) :
    entries ⟨routes ++ [route]⟩ path =
      entries ⟨routes⟩ path ++ if route.path = path then [(route.method, route.handler)] else [] := by
  rw [entries, Router.onPath_append]
  by_cases h : route.path = path <;> simp [entries, h]

lemma Holds.table_eq (h : registry.Holds router) (path : Text) :
    registry.table path = entries router path := by
  rw [table, h path]
  split
  · next hnil => rw [entries, hnil]; rfl
  · rfl

/-- A path leads to the same in the tables as in the list of routes. -/
lemma Holds.resolve_eq (h : registry.Holds router) (method path : Text) :
    registry.resolve method path = router.resolve method path := by
  by_cases hnil : router.onPath path = []
  · rw [resolve, h path, if_pos hnil, Router.resolve, hnil]
  · rw [resolve, h path, if_neg hnil]
    dsimp only
    rw [get?_entries]
    cases hfind : (router.onPath path).find? (·.method = Text.upper method) with
    | some route => rw [Router.resolve_of_find?_eq_some hfind]; rfl
    | none =>
      rw [Router.resolve_of_find?_eq_none hnil hfind, Router.methods, entries, List.map_map]
      rfl

/-! ## One registration -/

/-- An empty table holds what no table holds. -/
lemma table_openTable (registry : Registry α) (path : Text) :
    (registry.openTable path).table path = registry.table path := by
  unfold openTable
  split
  · rfl
  · next hnone => rw [table, table, Fields.get?_insert, if_pos rfl, hnone]; rfl

lemma get?_openTable_of_ne {other : Text} (h : path ≠ other) :
    (registry.openTable path).tables.get? other = registry.tables.get? other := by
  unfold openTable
  split
  · rfl
  · rw [Fields.get?_insert, if_neg h]

/-- A path that has a route has a table already, so that none is opened. -/
lemma Holds.register_of_error (h : registry.Holds router) {message : Text}
    (hrouter : router.register r.method r.path r.handler = .error message) :
    registry.register r = (.error message, registry) := by
  obtain ⟨⟨route, hroute, hpath, hmethod⟩, rfl⟩ := Router.register_eq_error_iff.1 hrouter
  have honPath : route ∈ router.onPath r.path := List.mem_filter.2 ⟨hroute, decide_eq_true hpath⟩
  have hopen : registry.openTable r.path = registry := by
    rw [openTable, h r.path, if_neg (List.ne_nil_of_mem honPath)]
  have hget : ((entries router r.path).get? (Text.upper r.method)).isSome = true := by
    rw [get?_entries, Option.isSome_map, List.find?_isSome]
    exact ⟨route, honPath, decide_eq_true hmethod⟩
  obtain ⟨handler, hhandler⟩ := Option.isSome_iff_exists.1 hget
  unfold register
  simp only [hopen, h.table_eq, hhandler]

/-- A new route goes to the end of its table, as it goes to the end of the list. -/
lemma Holds.register_of_ok (h : registry.Holds router) {router' : Router α}
    (hrouter : router.register r.method r.path r.handler = .ok router') :
    ∃ next, registry.register r = (.ok (), next) ∧ next.Holds router' := by
  obtain ⟨hfree, rfl⟩ := Router.register_eq_ok_iff.1 hrouter
  have hget : (entries router r.path).get? (Text.upper r.method) = none := by
    rw [get?_entries, Router.find?_onPath_eq_none_iff.2 fun route hmem hpath hmethod =>
      hfree ⟨route, hmem, hpath, hmethod⟩, Option.map_none]
  have hkey : Text.upper r.method ∉ (entries router r.path).map (·.1) := by
    rw [entries, List.map_map, List.mem_map]
    rintro ⟨route, hroute, hmethod⟩
    obtain ⟨hmem, hpath⟩ := List.mem_filter.1 hroute
    exact hfree ⟨route, hmem, of_decide_eq_true hpath, hmethod⟩
  refine ⟨⟨(registry.openTable r.path).tables.insert r.path
    (entries router r.path ++ [(Text.upper r.method, r.handler)])⟩, ?_, fun path => ?_⟩
  · unfold register
    simp only [table_openTable, h.table_eq, hget, Fields.insert_of_notMem hkey]
  · rw [Fields.get?_insert, Router.onPath_append, entries_append]
    by_cases hpath : r.path = path
    · subst hpath
      simp
    · rw [if_neg hpath, if_neg hpath, if_neg hpath, List.append_nil, List.append_nil,
        get?_openTable_of_ne hpath]
      exact h path

/-! ## Registrations one after the other -/

/-- One more registration, after those that succeeded and in the registry that all of them left. -/
def add (state : List (Registration α) × Registry α) (r : Registration α) :
    List (Registration α) × Registry α :=
  match state.2.register r with
  | (.ok (), next) => (state.1 ++ [r], next)
  | (.error _, next) => (state.1, next)

/-- What comes of registrations that are made one after the other, beginning with a new registry. -/
def run (rs : List (Registration α)) : List (Registration α) × Registry α := rs.foldl add ([], {})

/-- The registrations that succeed. -/
def made (rs : List (Registration α)) : List (Registration α) := (run rs).1

/-- The registry after all registrations, whether they succeeded or not. -/
def after (rs : List (Registration α)) : Registry α := (run rs).2

/-- What holds of registrations, of those that succeeded and of the registry after them. -/
structure Tracks (rs made : List (Registration α)) (registry : Registry α) : Prop where
  holds : registry.Holds ⟨made.map Registration.route⟩
  /-- No two registrations for one route have succeeded. -/
  distinct : made.Pairwise fun r s => s.isFor r.method r.path = false
  subset : ∀ r ∈ made, r ∈ rs
  covers : ∀ r ∈ rs, ∃ other ∈ made, other.isFor r.method r.path = true

variable {rs made' : List (Registration α)}

lemma exists_route_iff : (∃ route ∈ made'.map Registration.route, route.path = path ∧
    route.method = Text.upper method) ↔ ∃ r ∈ made', r.isFor method path = true := by
  simp [Registration.isFor_iff, Registration.route]

lemma tracks_nil : Tracks ([] : List (Registration α)) [] {} where
  holds _ := rfl
  distinct := .nil
  subset := by simp
  covers := by simp

lemma Tracks.add (h : Tracks rs made' registry) (r : Registration α) :
    Tracks (rs ++ [r]) (add (made', registry) r).1 (add (made', registry) r).2 := by
  cases hrouter : Router.register ⟨made'.map Registration.route⟩ r.method r.path r.handler with
  | error message =>
    obtain ⟨htaken, -⟩ := Router.register_eq_error_iff.1 hrouter
    rw [Registry.add, h.holds.register_of_error hrouter]
    refine ⟨h.holds, h.distinct, fun s hs => List.mem_append_left _ (h.subset s hs), ?_⟩
    rw [List.forall_mem_append, List.forall_mem_singleton]
    exact ⟨h.covers, exists_route_iff.1 htaken⟩
  | ok router' =>
    obtain ⟨hfree, hrouter'⟩ := Router.register_eq_ok_iff.1 hrouter
    obtain ⟨next, hregister, hnext⟩ := h.holds.register_of_ok hrouter
    rw [exists_route_iff] at hfree
    rw [Registry.add, hregister]
    refine ⟨?_, ?_, ?_, ?_⟩
    · rw [List.map_append]
      exact hrouter' ▸ hnext
    · rw [List.pairwise_append]
      refine ⟨h.distinct, List.pairwise_singleton _ _, fun other hother s hs => ?_⟩
      obtain rfl := List.mem_singleton.1 hs
      rw [Bool.eq_false_iff]
      intro hfor
      exact hfree ⟨other, hother, Registration.isFor_comm.1 hfor⟩
    · rw [List.forall_mem_append, List.forall_mem_singleton]
      exact ⟨fun s hs => List.mem_append_left _ (h.subset s hs), by simp⟩
    · rw [List.forall_mem_append, List.forall_mem_singleton]
      refine ⟨fun s hs => ?_, r, by simp, Registration.isFor_iff.2 ⟨rfl, rfl⟩⟩
      obtain ⟨other, hother, hfor⟩ := h.covers s hs
      exact ⟨other, List.mem_append_left _ hother, hfor⟩

/-- Every registration keeps track, so all of them do. -/
lemma tracks_run (rs : List (Registration α)) : Tracks rs (made rs) (after rs) := by
  induction rs using List.reverseRecOn with
  | nil => exact tracks_nil
  | append_singleton rs r ih =>
    have hrun : run (rs ++ [r]) = add (made rs, after rs) r := List.foldl_append
    rw [made, after, hrun]
    exact ih.add r

/-! ## What a registry is asked -/

/-- The registration that succeeded for a method and a path is the only one. -/
lemma Tracks.filter_isFor_eq (h : Tracks rs made' registry) (hr : r ∈ made')
    (hfor : r.isFor method path = true) : made'.filter (·.isFor method path) = [r] := by
  obtain ⟨before, later, rfl⟩ := List.append_of_mem hr
  obtain ⟨-, hlater, hbefore⟩ := List.pairwise_append.1 h.distinct
  have hnone : ∀ s ∈ before ++ later, ¬s.isFor method path = true := by
    intro s hs hsfor
    rcases List.mem_append.1 hs with hs | hs
    · have hne := hbefore s hs r List.mem_cons_self
      rw [Registration.isFor_of_isFor hsfor hfor] at hne
      cases hne
    · have hne := (List.pairwise_cons.1 hlater).1 s hs
      rw [Registration.isFor_of_isFor hfor hsfor] at hne
      cases hne
  rw [List.forall_mem_append] at hnone
  rw [List.filter_append, List.filter_cons_of_pos hfor, List.filter_eq_nil_iff.2 hnone.1,
    List.filter_eq_nil_iff.2 hnone.2, List.nil_append]

lemma exists_isFor_of_resolves {handler : α}
    (h : Router.Resolves ⟨made'.map Registration.route⟩ method path (.ok handler)) :
    ∃ r ∈ made', r.isFor method path = true ∧ r.handler = handler := by
  obtain ⟨route, hroute, hfor, rfl⟩ := h.exists_route_of_ok
  obtain ⟨r, hr, rfl⟩ := List.mem_map.1 hroute
  exact ⟨r, hr, Registration.isFor_iff.2 hfor, rfl⟩

/-- A method and a path lead to the handler that was registered for them. -/
lemma Tracks.resolve_eq (h : Tracks rs made' registry) (hr : r ∈ made')
    (hfor : r.isFor method path = true) : registry.resolve method path = .ok r.handler := by
  obtain ⟨route, hroute, hpath, hmethod⟩ := exists_route_iff.2 ⟨r, hr, hfor⟩
  obtain ⟨found, hfound⟩ := Router.exists_resolves ⟨made'.map Registration.route⟩ method path
  rw [h.holds.resolve_eq, hfound.resolve_eq]
  match found, hfound with
  | .error _, .noRoute hnone => exact absurd hpath (hnone route hroute)
  | .error _, .notAllowed _ hother _ _ => exact absurd hmethod (hother route hroute hpath)
  | .ok handler, hfound =>
    obtain ⟨s, hs, hsfor, rfl⟩ := exists_isFor_of_resolves hfound
    have hsingle := (h.filter_isFor_eq hs hsfor).symm.trans (h.filter_isFor_eq hr hfor)
    rw [List.singleton_inj.1 hsingle]

/-- What a method and a path lead to after registrations. -/
inductive Finds (rs : List (Registration α)) (method path : Text) : Except Router.Miss α → Prop
  /-- Of the registrations that succeeded, one and only one is for the method and the path. -/
  | handler {r : Registration α} (honly : (made rs).filter (·.isFor method path) = [r]) :
      Finds rs method path (.ok r.handler)
  /-- No registration for the path was ever tried. -/
  | noRoute (hnone : ∀ r ∈ rs, r.path ≠ path) : Finds rs method path (.error (.noRoute path))
  /-- There are some, but for other methods: these are in order, without repetitions, and lead to the
  handlers that were registered for them. -/
  | notAllowed {allowed : List Text} (hne : allowed ≠ [])
      (hsorted : allowed.Pairwise fun s t => Text.le s t = true ∧ s ≠ t)
      (hallowed : ∀ other, other ∈ allowed ↔
        ∃ r ∈ made rs, r.path = path ∧ Text.upper r.method = other)
      (hother : Text.upper method ∉ allowed)
      (hascii : ∀ r ∈ made rs, r.path = path → (∀ c ∈ r.method, c.isAscii = true) →
        (after rs).resolve (Text.upper r.method) path = .ok r.handler) :
      Finds rs method path (.error (.notAllowed allowed))

lemma mem_methods_iff {other : Text} :
    other ∈ ((made'.map Registration.route).filter (·.path = path)).map (·.method) ↔
      ∃ r ∈ made', r.path = path ∧ Text.upper r.method = other := by
  simp [Registration.route, and_assoc]

/-- No two routes of a path have one method. -/
lemma Tracks.nodup_methods (h : Tracks rs made' registry) (path : Text) :
    (((made'.map Registration.route).filter (·.path = path)).map (·.method)).Nodup := by
  rw [List.Nodup, List.pairwise_map, List.filter_map, List.pairwise_map]
  refine (h.distinct.filter _).imp_of_mem ?_
  intro r s hr hs hne hmethod
  have hr' : r.path = path := of_decide_eq_true (List.mem_filter.1 hr).2
  have hs' : s.path = path := of_decide_eq_true (List.mem_filter.1 hs).2
  rw [Registration.isFor_iff.2 ⟨hs'.trans hr'.symm, hmethod.symm⟩] at hne
  cases hne

lemma Finds.of_resolves {found : Except Router.Miss α}
    (h : Router.Resolves ⟨(made rs).map Registration.route⟩ method path found) :
    Finds rs method path found := by
  have htracks := tracks_run rs
  match found, h with
  | .error _, .noRoute hnone =>
    refine .noRoute fun r hr hpath => ?_
    obtain ⟨other, hother, hfor⟩ := htracks.covers r hr
    have hother' : other.path = path := (Registration.isFor_iff.1 hfor).1.trans hpath
    exact hnone other.route (List.mem_map_of_mem hother) hother'
  | .error _, .notAllowed hsome hother hallowed hsorted =>
    have hmem := fun other => (hallowed.mem_iff (a := other)).trans mem_methods_iff
    have hnodup := hallowed.nodup_iff.2 (htracks.nodup_methods path)
    refine .notAllowed ?_ (hsorted.and hnodup) hmem ?_ ?_
    · obtain ⟨route, hroute, hpath⟩ := hsome
      obtain ⟨r, hr, rfl⟩ := List.mem_map.1 hroute
      exact List.ne_nil_of_mem ((hmem _).2 ⟨r, hr, hpath, rfl⟩)
    · intro hupper
      obtain ⟨r, hr, hpath, hmethod⟩ := (hmem _).1 hupper
      exact hother r.route (List.mem_map_of_mem hr) hpath hmethod
    · intro r hr hpath hascii
      have hfor : r.isFor (Text.upper r.method) path = true :=
        Registration.isFor_iff.2 ⟨hpath, (Text.upper_upper hascii).symm⟩
      exact htracks.resolve_eq hr hfor
  | .ok _, h =>
    obtain ⟨r, hr, hfor, rfl⟩ := exists_isFor_of_resolves h
    exact .handler (htracks.filter_isFor_eq hr hfor)

/-- A method and a path lead to what is found for them. -/
lemma Finds.resolve_eq {found : Except Router.Miss α} (h : Finds rs method path found) :
    (after rs).resolve method path = found := by
  have htracks := tracks_run rs
  cases h with
  | handler honly =>
    obtain ⟨hr, hfor⟩ := List.mem_filter.1 (honly ▸ List.mem_singleton_self _)
    exact htracks.resolve_eq hr hfor
  | noRoute hnone =>
    rw [htracks.holds.resolve_eq]
    refine Router.Resolves.resolve_eq (.noRoute ?_)
    rw [List.forall_mem_map]
    exact fun r hr => hnone r (htracks.subset r hr)
  | notAllowed hne hsorted hallowed hother _ =>
    -- Methods that are ordered and distinct are told by which they are.
    have hperm := (List.perm_ext_iff_of_nodup (hsorted.imp And.right) (htracks.nodup_methods path)).2
      fun other => (hallowed other).trans mem_methods_iff.symm
    rw [htracks.holds.resolve_eq]
    refine Router.Resolves.resolve_eq (.notAllowed ?_ ?_ hperm (hsorted.imp And.left))
    · obtain ⟨other, hother⟩ := List.exists_mem_of_ne_nil _ hne
      obtain ⟨r, hr, hpath, -⟩ := (hallowed other).1 hother
      exact ⟨r.route, List.mem_map_of_mem hr, hpath⟩
    · rw [List.forall_mem_map]
      intro r hr hpath hmethod
      exact hother ((hallowed _).2 ⟨r, hr, hpath, hmethod⟩)

/-- **A registry is a map.** After any registrations, another one fails if and only if one that succeeded
is for its path and, in capital letters, for its method; it then leaves the registry as it was. A method
and a path lead to the handler of the only registration that succeeded for them; if no registration for
the path was ever tried, then it is unknown, and otherwise the methods of the path are told. -/
theorem register_resolve_after (rs : List (Registration α)) :
    (∀ r message next, (after rs).register r = (.error message, next) ↔
      (∃ other ∈ made rs, other.isFor r.method r.path = true) ∧
        message = Text.ofString "route already registered: " ++ Text.upper r.method ++
          (CodePoint.ofChar ' ' :: r.path) ∧
        next = after rs) ∧
    ∀ method path found, (after rs).resolve method path = found ↔ Finds rs method path found := by
  have htracks := tracks_run rs
  refine ⟨fun r message next => ?_, fun method path found => ?_⟩
  · cases hrouter : Router.register ⟨(made rs).map Registration.route⟩ r.method r.path r.handler with
    | error said =>
      obtain ⟨htaken, rfl⟩ := Router.register_eq_error_iff.1 hrouter
      rw [htracks.holds.register_of_error hrouter, Prod.mk.injEq, Except.error.injEq,
        iff_true_intro (exists_route_iff.1 htaken), true_and, eq_comm (b := message),
        eq_comm (b := next)]
    | ok router' =>
      obtain ⟨hfree, -⟩ := Router.register_eq_ok_iff.1 hrouter
      obtain ⟨next', hregister, -⟩ := htracks.holds.register_of_ok hrouter
      rw [exists_route_iff] at hfree
      simp [hregister, hfree]
  · refine ⟨fun h => ?_, Finds.resolve_eq⟩
    rw [htracks.holds.resolve_eq, Router.resolve_eq_iff] at h
    exact .of_resolves h

/-- A registration that fails does not replace the one before it. -/
example :
    let rs : List (Registration Nat) :=
      [⟨Text.ofString "get", Text.ofString "/a", 1⟩, ⟨Text.ofString "GET", Text.ofString "/a", 2⟩]
    (after rs).resolve (Text.ofString "Get") (Text.ofString "/a") = .ok 1 := by
  rfl

end Registry

end Courier
