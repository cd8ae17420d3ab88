import RpcRoutes.Http.Handler

/-!
# Probes

Probes are handlers and layers that leave notes, so that one can see which way a request takes
and which layers were put around a handler.

* `Probe.named` is a handler that notes its name and what it was given.
* `Probe.layer` is the layer that a text stands for.
-/

namespace RpcRoutes

/-- A handler, and the notes made when layers were put around it. -/
structure Probe where
  /-- One note for each layer that notes being put around a handler, in order. -/
  wrapped : List String
  run : Handler

namespace Probe

def ofHandler (h : Handler) : Probe := ⟨[], h⟩

/-- A handler that notes its name with the parameters it was given, marks that the request has an
id, and answers with its name. -/
def named (name : String) : Probe :=
  ofHandler fun req x =>
    let params := ((req.params.map (·.entries)).getD []).map fun (k, v) => k ++ "=" ++ v
    let mark := if req.requestId.isSome then "#" else ""
    (.plain 200 name, x.note (name ++ "(" ++ "&".intercalate params ++ ")" ++ mark))

/-- A layer on handlers, as a layer on probes. -/
def lift (m : Middleware Handler) : Middleware Probe :=
  ⟨m.name, fun p => { p with run := m.wrap p.run }⟩

/-- A layer that notes when it is put around a handler and changes nothing. -/
def marker (text name : String) : Middleware Probe :=
  ⟨text, fun p => { p with wrapped := p.wrapped ++ ["wrap " ++ name] }⟩

/-- A layer that refuses every request and notes its start and its end. -/
def guard (text : String) : Middleware Probe :=
  lift ⟨text, fun _ _ x => (.plain 403 text, (x.note (">" ++ text)).note ("<" ++ text))⟩

/-- A layer that lets every request through and notes its start and its end. -/
def pass (text : String) : Middleware Probe :=
  lift ⟨text, fun inner req x =>
    let (res, x) := inner req (x.note (">" ++ text))
    (res, x.note ("<" ++ text))⟩

/-- The layer of a text: the two standard layers by their names, a marker after an equals sign, a
guard after an exclamation mark, and else a layer that lets requests through. -/
def layer (text : String) : Middleware Probe :=
  if text = Handler.requestId.name then lift Handler.requestId
  else if text = Handler.accessLog.name then lift Handler.accessLog
  else
    match text.toList with
    | '=' :: name => marker text (String.ofList name)
    | '!' :: _ => guard text
    | _ => pass text

end Probe

end RpcRoutes
