import Courier.Text.Capital

/-!
Routing requests to handlers.

A route is a method in capital letters with a path. Each route is registered at most once, and a
registration that fails changes nothing.
-/

namespace Courier

/-- A registered handler. -/
structure Route (α : Type) where
  method : Text
  path : Text
  handler : α

/-- The registered handlers, in the order of their registration. -/
structure Router (α : Type) where
  routes : List (Route α) := []

namespace Router

variable {α : Type}

/-- Why no handler was found. -/
inductive Miss
  /-- Nothing is registered for the path. -/
  | noRoute (path : Text)
  /-- The path is registered for other methods only. -/
  | notAllowed (allowed : List Text)
deriving DecidableEq

/-- The allowed methods in one text. -/
def Miss.message : Miss → Text
  | .noRoute path => path
  | .notAllowed allowed => Text.join (Text.ofString ", ") allowed

/-- The routes of a path. -/
def onPath (router : Router α) (path : Text) : List (Route α) :=
  router.routes.filter (·.path = path)

/-- The router with one more handler, or what is said about a route that already has one. -/
def register (router : Router α) (method path : Text) (handler : α) : Except Text (Router α) :=
  let method := Text.upper method
  if (router.onPath path).any (·.method = method) then
    .error (Text.ofString "route already registered: " ++ method ++ (CodePoint.ofChar ' ' :: path))
  else .ok { routes := router.routes ++ [{ method, path, handler }] }

/-- The methods of routes, in dictionary order. -/
def methods (routes : List (Route α)) : List Text :=
  (routes.map (·.method)).mergeSort Text.le

/-- The handler of a request. -/
def resolve (router : Router α) (method path : Text) : Except Miss α :=
  match router.onPath path with
  | [] => .error (.noRoute path)
  | routes =>
    match routes.find? (·.method = Text.upper method) with
    | some route => .ok route.handler
    | none => .error (.notAllowed (methods routes))

end Router

end Courier
