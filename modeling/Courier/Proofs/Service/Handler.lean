import Courier.Proofs.Exchange.Execution
import Courier.Proofs.Http.Routing
import Courier.Proofs.Service.Document
import Courier.Proofs.Statement.Grammar
import Courier.Service.Handler
import Mathlib

/-!
# Answers to statements that are accepted

A statement that is accepted is executed, and the outcome is reported in a document with a status of
200. A request that fails has such an outcome too, with a status of zero and a message. What is left
are the requests that break off and the outcomes that no document can be made of: these are listed
here, and for these, and no others, the server answers 500.
-/

namespace Courier

namespace Execution

end Execution

namespace Statement

/-- The sections of a statement that is accepted have keys that can be encoded. -/
lemma hasEncodableKeys_of_parse {statement : Text} {d : Descriptor}
    (h : parse (some statement) = .ok d) (sec : Section) :
    (Json.object (d.object sec)).hasEncodableKeys = true :=
  Json.hasEncodableKeys_of_isEncodable (isEncodable_of_parse h sec)

end Statement

namespace Service

open Http

section

variable {w : World} {d : Descriptor}

/-- The ways in which a request that is described by an accepted statement has no document. -/
inductive Breaks (w : World) (d : Descriptor) : Crash → Prop
  /-- The execution breaks off. -/
  | execution {crash : Crash} (h : Execution.Breaks w d crash) : Breaks w d crash
  /-- A section or the data of the outcome is nested too deeply. -/
  | deep {e : Execution} {v : Json} (hruns : Execution.Runs w d e) (hv : v ∈ Document.parts d e)
      (h : Document.maxPartDepth < v.depth) : Breaks w d .tooDeep
  /-- A key in the data of the outcome has a surrogate. -/
  | key {e : Execution} (hruns : Execution.Runs w d e)
      (hflat : ∀ v ∈ Document.parts d e, v.depth ≤ Document.maxPartDepth)
      (h : e.data.hasEncodableKeys = false) : Breaks w d .unencodableKey

/-- The answer to a payload whose statement is accepted. -/
lemma handle_fst {payload : Json} (hparse : Statement.parse (statement? payload) = .ok d) :
    (handle w payload).1 = (execute w d).1 >>= fun e =>
      Document.result d e >>= fun data => .ok ⟨200, data⟩ := by
  unfold handle
  rw [hparse]
  dsimp only
  rcases execute w d with ⟨_ | e, after⟩
  · rfl
  · dsimp only [bind, Except.bind]
    cases Document.result d e <;> rfl

/-- An answer to an accepted statement is the document of the outcome. -/
lemma handle_eq_ok {payload : Json} {answer : Answer}
    (hparse : Statement.parse (statement? payload) = .ok d)
    (h : (handle w payload).1 = .ok answer) : ∃ e, Execution.Runs w d e ∧
      answer = ⟨200, (Document.whole d e).withoutInfinities⟩ := by
  rw [handle_fst hparse, bind_eq_ok_iff] at h
  obtain ⟨e, hexecute, h⟩ := h
  rw [bind_eq_ok_iff] at h
  obtain ⟨data, hresult, h⟩ := h
  refine ⟨e, Execution.execute_eq_ok_iff.mp hexecute, ?_⟩
  rw [Document.result_eq] at hresult
  split at hresult
  · split at hresult
    · cases hresult
      cases h
      rfl
    · cases hresult
  · cases hresult

/-- The only handler is found for the only path and method. -/
lemma resolves_router_iff {method path : Text} {handler : Handler} :
    router.Resolves method path (.ok handler) ↔
      Text.upper method = Method.post.name ∧ path = Text.ofString "/" ∧ handler = handle := by
  constructor
  · intro h
    cases h with
    | @found before after route hroutes hpath hmethod hfirst =>
      have hroute : route ∈ router.routes := by simp [hroutes]
      obtain rfl := List.mem_singleton.mp hroute
      exact ⟨hmethod.symm, hpath.symm, rfl⟩
  · rintro ⟨hmethod, rfl, rfl⟩
    have hroutes : router.routes = [] ++ ⟨Method.post.name, Text.ofString "/", handle⟩ :: [] := rfl
    exact .found hroutes rfl hmethod.symm (by simp)

/-- The server asks the handler about a payload that is posted to the only path. -/
lemma dispatch_eq {request : Request} (hmethod : Text.upper request.head.method = Method.post.name)
    (hpath : request.head.path = Text.ofString "/") :
    (dispatch router w request).1 = (match (handle w (payload request.body)).1 with
      | .ok answer => answer
      | .error _ => errorAnswer 500 (Text.ofString "Internal server error"), []) := by
  have hresolves := resolves_router_iff.mpr ⟨hmethod, hpath, rfl⟩
  unfold dispatch
  rw [hresolves.resolve_eq]
  dsimp only
  rcases handle w (payload request.body) with ⟨_ | answer, after⟩ <;> rfl

end

end Service

end Courier
