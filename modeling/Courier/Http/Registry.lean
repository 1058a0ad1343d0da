import Courier.Http.Router
import Courier.Json.Value

/-!
Registering handlers.

The handlers of a router are kept in tables, one for each path, in which they are found by their
method. A registration opens the table of its path before it looks whether the route is taken, so that
a failing registration leaves a registry behind as well.
-/

namespace Courier

/-- A handler that is to be registered. -/
structure Registration (α : Type) where
  method : Text
  path : Text
  handler : α

/-- The tables of the registered handlers, by path; in a table, by method in capital letters. -/
structure Registry (α : Type) where
  tables : Fields (Fields α) := []

namespace Registry

variable {α : Type}

/-- The table of a path. -/
def table (registry : Registry α) (path : Text) : Fields α := (registry.tables.get? path).getD []

/-- The registry with a table for a path: an empty one if there was none. -/
def openTable (registry : Registry α) (path : Text) : Registry α :=
  match registry.tables.get? path with
  | some _ => registry
  | none => { tables := registry.tables.insert path [] }

/-- What is said about a registration, and the registry that it leaves behind. -/
def register (registry : Registry α) (r : Registration α) : Except Text Unit × Registry α :=
  let registry := registry.openTable r.path
  let table := registry.table r.path
  let method := Text.upper r.method
  match table.get? method with
  | some _ =>
    (.error (Text.ofString "route already registered: " ++ method ++
      (CodePoint.ofChar ' ' :: r.path)), registry)
  | none => (.ok (), { tables := registry.tables.insert r.path (table.insert method r.handler) })

/-- The handler of a request. -/
def resolve (registry : Registry α) (method path : Text) : Except Router.Miss α :=
  match registry.tables.get? path with
  | none => .error (.noRoute path)
  | some table =>
    match table.get? (Text.upper method) with
    | some handler => .ok handler
    | none => .error (.notAllowed ((table.map (·.1)).mergeSort Text.le))

end Registry

end Courier
