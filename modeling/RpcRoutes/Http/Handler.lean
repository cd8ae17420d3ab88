import RpcRoutes.Binding.Tree
import RpcRoutes.Http.Message
import RpcRoutes.Json.Printer
import RpcRoutes.Routing.Mount

/-!
# Handlers

A handler answers a request. Beside the response it has two effects, which an exchange carries:
it may draw a fresh request id and it may leave notes.

* `Handler.echo` answers with a description of the request.
* `Handler.requestId` is the layer that gives every request an id, `Handler.accessLog` the one
  that reports requests without changing them.
-/

namespace RpcRoutes

/-- What handlers share while requests are answered. -/
structure Exchange where
  /-- The supply of fresh request ids. -/
  ids : Nat → String
  /-- How many of them are used up. -/
  drawn : Nat
  /-- The notes, in order. -/
  notes : List String

namespace Exchange

def start (ids : Nat → String) : Exchange := ⟨ids, 0, []⟩

def draw (x : Exchange) : String × Exchange := (x.ids x.drawn, { x with drawn := x.drawn + 1 })

def note (x : Exchange) (text : String) : Exchange := { x with notes := x.notes ++ [text] }

end Exchange

/-- What answers requests. -/
abbrev Handler := Request → Exchange → Response × Exchange

namespace Handler

/-! ### Echo -/

/-- Names with values in the order of the names, each name with its last value. -/
def sortedLast (entries : List (String × String)) : List (String × String) :=
  let last := (entries.reverse.foldl
    (fun kept e => if kept.any (fun k => k.1 == e.1) then kept else kept ++ [e]) [])
  last.mergeSort fun a b => decide (a.1 ≤ b.1)

/-- The description of a request that a method of a service answers with. -/
def description (service method : String) (req : Request) : Json :=
  let params := ((req.params.map (·.entries)).getD [])
  .object
    [("method", .string method),
      ("path", .string req.path),
      ("path_params", .object ((sortedLast params).map fun (name, v) => (name, .string v))),
      ("request_id", (req.requestId.map Json.string).getD .null),
      ("service", .string service),
      ("verb", .string req.method)]

def echo (service method : String) : Handler := fun req x =>
  (⟨200, [("content-type", "application/json")], (description service method req).compact⟩, x)

def echoResolver : HandlerResolver Handler := fun service method =>
  some (echo service method.name)

/-! ### Layers -/

def requestIdHeader : String := "x-request-id"

/-- The id that a request brings: the first value of its header, when that can be read as text
and is not empty. -/
def broughtId? (req : Request) : Option String :=
  (req.headers.first? requestIdHeader).filter fun id => isPlainText id && !id.isEmpty

/-- Gives the request an id, its own or a fresh one, and repeats it in the response. -/
def withRequestId (inner : Handler) : Handler := fun req x =>
  let (id, x) :=
    match broughtId? req with
    | some id => (id, x)
    | none => x.draw
  let stamp (headers : Headers) : Headers :=
    if isHeaderValue id then headers.put requestIdHeader id else headers
  let (res, x) := inner { req with headers := stamp req.headers, requestId := some id } x
  ({ res with headers := stamp res.headers }, x)

/-- The layer that gives requests an id. -/
def requestId : Middleware Handler := ⟨"request_id", withRequestId⟩

/-- The layer that reports requests. What it reports is no part of a response. -/
def accessLog : Middleware Handler := ⟨"access_log", id⟩

end Handler

end RpcRoutes
