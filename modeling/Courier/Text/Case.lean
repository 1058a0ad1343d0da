import Courier.Text.CodePoint

/-!
Runs of letters.

The letters of one case and their counterparts in the other lie in runs that share one distance,
which keeps the tables of capital and small letters short.
-/

namespace Courier

/-- A run of code points with the same distance to their forms in the other case: those from `first`
to `last` that are a multiple of `step` apart from `first`. -/
structure CaseRun where
  first : Nat
  last : Nat
  step : Nat
  distance : Int

namespace CaseRun

/-- Whether a code point belongs to a run. -/
def contains (r : CaseRun) (c : CodePoint) : Bool :=
  r.first ≤ c.toNat && c.toNat ≤ r.last && (c.toNat - r.first) % r.step = 0

/-- The form of a code point in the other case; outside of all runs it is its own form. -/
def form (runs : List CaseRun) (c : CodePoint) : CodePoint :=
  match runs.find? (·.contains c) with
  | some r => .ofNat (c.toNat + r.distance).toNat
  | none => c

/-- A code point outside of all runs is its own form. -/
theorem form_eq_self {runs : List CaseRun} {c : CodePoint}
    (h : ∀ r ∈ runs, r.contains c = false) : form runs c = c := by
  have : runs.find? (·.contains c) = none := by
    rw [List.find?_eq_none]
    intro r hr
    simp [h r hr]
  simp [form, this]

end CaseRun

end Courier
