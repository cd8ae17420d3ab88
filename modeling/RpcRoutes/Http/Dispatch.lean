import RpcRoutes.Http.Handler
import RpcRoutes.Routing.Table

/-!
# Dispatching

A request goes to the handler of the route that it resolves to, with the captured parameters. A
request that no route answers is refused with the allowed methods, or not found.

* `dispatch` answers a request from a list of tables.
* `serve` does so the way a server does, which adds the length of the body and answers HEAD
  without a body.
-/

namespace RpcRoutes

/-- The refusal of a method. The allowed methods are listed when the list can be a header. -/
def methodNotAllowed (allowed : List String) : Response :=
  let methods := ", ".intercalate allowed
  ⟨405, if isHeaderValue methods then [("allow", methods)] else [], ""⟩

def notFound : Response := .plain 404 "No matching route found"

def answer {H : Type} (run : H → Handler) (resolution : Resolution H) : Handler := fun req x =>
  match resolution with
  | .matched found => run found.route.handler { req with params := some found.params } x
  | .methodNotAllowed allowed => (methodNotAllowed allowed, x)
  | .notFound => (notFound, x)

/-- Answers a request from a list of tables; `run` runs a handler. -/
def dispatch {H : Type} (run : H → Handler) (tables : List (Table H)) : Handler := fun req x =>
  answer run (Table.resolveAll tables req.method req.path) req x

/-- A response as a server sends it: with the length of its body, and to HEAD without the body.
A successful answer to CONNECT has neither. -/
def Response.sent (method : String) (res : Response) : Response :=
  if method = "CONNECT" ∧ 200 ≤ res.status ∧ res.status < 300 then { res with body := "" }
  else
    let length := toString res.body.utf8ByteSize
    let headers :=
      if (res.headers.first? "content-length").isSome then res.headers
      else res.headers.put "content-length" length
    { res with headers := headers, body := if method = "HEAD" then "" else res.body }

/-- Answers a request the way a server does. -/
def serve {H : Type} (run : H → Handler) (tables : List (Table H)) : Handler := fun req x =>
  let (res, x) := dispatch run tables req x
  (res.sent req.method, x)

end RpcRoutes
