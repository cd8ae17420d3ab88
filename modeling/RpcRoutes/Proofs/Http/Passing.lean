import RpcRoutes.Http.Dispatch
import RpcRoutes.Http.Probe
import RpcRoutes.Program.Engine
import RpcRoutes.Proofs.Routing.Provenance

/-!
# Passing layers

A layer that calls what is inside it once does something to the request before that and something
to the response after that. Such layers form a way: a request takes it in their order, and its
response takes it back.

* `Passage` is what such a layer does, `Passage.around` the layer itself.
* `journey` leads a request through passages to a handler, and the response back.
* `Session.layers_run`: whatever is done with groups, a request that is dispatched to a route
  passes the layers that the route's group had when the route was added, and then the route's own
  ones from the last to the first.
-/

namespace RpcRoutes

variable {H : Type}

/-- What is done to a response on its way back. -/
abbrev Leave := Response → Exchange → Response × Exchange

/-- What a layer does that calls what is inside it exactly once. -/
structure Passage where
  /-- What becomes of a request on its way in, and what is left to do on the way back. -/
  enter : Request → Exchange → Request × Exchange × Leave

/-- The layer around what is inside it. -/
def Passage.around (passage : Passage) (inner : Handler) : Handler := fun req x =>
  let (req, x, leave) := passage.enter req x
  let (res, x) := inner req x
  leave res x

/-- The way in: a request goes through passages in their order. What they leave to do is gathered
in front of what is left already, so that the latest comes first. -/
def wayIn (passages : List Passage) (req : Request) (x : Exchange) (left : List Leave) :
    Request × Exchange × List Leave :=
  passages.foldl
    (fun (req, x, left) passage =>
      let (req, x, leave) := passage.enter req x
      (req, x, leave :: left))
    (req, x, left)

/-- The way back: a response gets what is left to do, from the first on. -/
def wayBack (left : List Leave) (res : Response) (x : Exchange) : Response × Exchange :=
  left.foldl (fun (res, x) leave => leave res x) (res, x)

/-- A request goes in through passages, is handled, and its response comes back. -/
def journey (passages : List Passage) (inner : Handler) : Handler := fun req x =>
  let (req, x, left) := wayIn passages req x []
  let (res, x) := inner req x
  wayBack left res x

/-! ### Layers around a handler -/

/-- The way in and back is that through the layers, before what is left to do already. -/
theorem wayBack_wayIn (passages : List Passage) (inner : Handler) (req : Request) (x : Exchange)
    (left : List Leave) :
    (let (req, x, left) := wayIn passages req x left
      let (res, x) := inner req x
      wayBack left res x) =
      let (res, x) := passages.foldr Passage.around inner req x
      wayBack left res x := by
  induction passages generalizing req x left with
  | nil => rfl
  | cons passage passages ih => exact ih ..

theorem journey_eq_foldr (passages : List Passage) (inner : Handler) :
    journey passages inner = passages.foldr Passage.around inner := by
  funext req x
  exact wayBack_wayIn passages inner req x []

/-- The layers that give requests an id and that report them call what is inside them once. -/
theorem Handler.exists_passage {m : Middleware Handler} (standard : m ∈ [requestId, accessLog]) :
    ∃ passage : Passage, ∀ inner, m.wrap inner = passage.around inner := by
  rcases List.mem_cons.mp standard with rfl | standard
  · refine ⟨⟨fun req x =>
      let given := (broughtId? req).elim x.draw fun id => (id, x)
      let stamp (headers : Headers) : Headers :=
        if isHeaderValue given.1 then headers.put requestIdHeader given.1 else headers
      ({ req with headers := stamp req.headers, requestId := some given.1 }, given.2,
        fun res x => ({ res with headers := stamp res.headers }, x))⟩, ?_⟩
    intro inner
    funext req x
    simp only [requestId, withRequestId, Passage.around]
    cases broughtId? req <;> rfl
  · obtain rfl := List.mem_singleton.mp standard
    exact ⟨⟨fun req x => (req, x, fun res x => (res, x))⟩, fun inner => rfl⟩

/-- The notes of a layer that lets requests through. -/
def Probe.passage (text : String) : Passage where
  enter req x := (req, x.note (">" ++ text), fun res x => (res, x.note ("<" ++ text)))

theorem Probe.run_wrap_of_pass (texts : List String) :
    ∀ m ∈ texts.map pass, ∀ inner, (m.wrap inner).run = (passage m.name).around inner.run := by
  intro m mem inner
  obtain ⟨text, _, rfl⟩ := List.mem_map.mp mem
  rfl

/-! ### Layers of a route -/

/-- A request that resolves to the route passes these layers in their order on its way to this
handler, and its response passes them in the reverse order, provided that they all call what is
inside them once. -/
def Route.Passes (route : Route H) (layers : List (Middleware H)) (handler : H) : Prop :=
  ∀ (call : H → Handler) (passage : Middleware H → Passage),
    (∀ m ∈ layers, ∀ inner, call (m.wrap inner) = (passage m).around (call inner)) →
    ∀ (tables : List (Table H)) (params : PathParams) (req : Request) (x : Exchange),
      Table.resolveAll tables req.method req.path = .matched ⟨route, params⟩ →
      dispatch call tables req x =
        journey (layers.map passage) (call handler) { req with params := some params } x

/-- All layers of a composition in the order from outside. -/
theorem Middleware.compose_eq_foldr (handler : H) (group own : List (Middleware H)) :
    compose handler group own =
      (group ++ own.reverse).foldr (fun m inner => m.wrap inner) handler := by
  rw [compose, List.foldr_append, List.foldr_reverse]

/-- Layers that are put around a handler become passages around what it does. -/
theorem call_foldr {call : H → Handler} {passage : Middleware H → Passage}
    {layers : List (Middleware H)} (handler : H)
    (once : ∀ m ∈ layers, ∀ inner, call (m.wrap inner) = (passage m).around (call inner)) :
    call (layers.foldr (fun m inner => m.wrap inner) handler) =
      (layers.map passage).foldr Passage.around (call handler) := by
  induction layers with
  | nil => rfl
  | cons m layers ih =>
      obtain ⟨here, once⟩ := List.forall_mem_cons.mp once
      rw [List.foldr_cons, here, ih once, List.map_cons, List.foldr_cons]

theorem Route.passes_of_compose {route : Route H} {handler : H} {group own : List (Middleware H)}
    (composed : route.handler = Middleware.compose handler group own) :
    route.Passes (group ++ own.reverse) handler := by
  intro call passage once tables params req x resolved
  rw [dispatch, resolved, answer, composed, Middleware.compose_eq_foldr, call_foldr handler once,
    journey_eq_foldr]

namespace Session

/-- The routes of a run are those that its actions added, each as it was added: later actions
change none of them. An action adds a route at a group. With the layers that the group has by
then, which its history tells, and layers that the route has of its own, the route's handler is
the plain handler inside its own layers, the first innermost, inside those of the group, the first
outermost; and requests pass them accordingly. -/
theorem layers_run [PatternEngine] (table index : Nat) (route : Route H) :
    (∀ actions : List (Action H), ((run actions).routesAt table)[index]? = some route ↔
      ∃ before action later, actions = before ++ action :: later ∧
        Adds before action table index route) ∧
    ∀ (before : List (Action H)) (action : Action H), Adds before action table index route →
      ∃ group slot handler own stack,
        (run before).groups[group]? = some slot ∧ slot.table = table ∧
        action.Gives slot.group group route.key handler own ∧
        (∀ other, HasStack (events before) group other ↔ other = stack) ∧
        route.handler =
          stack.foldr (fun m inner => m.wrap inner)
            (own.foldl (fun inner m => m.wrap inner) handler) ∧
        route.Passes (stack ++ own.reverse) handler := by
  refine ⟨fun actions => routesAt_run_iff, ?_⟩
  intro before action adds
  obtain ⟨group, slot, known, table_eq, handler, own, gives, composed⟩ := adds.makes
  refine ⟨group, slot, handler, own, slot.group.stack, known, table_eq, gives, ?_, composed,
    Route.passes_of_compose composed⟩
  intro other
  simp only [hasStack_iff, known, Option.some.injEq, exists_eq_left', eq_comm]

/-- Layers that are installed in the parent or in a copy do not get around a child's route, those
that are installed in the child before it do. -/
theorem layers_run_interleaved :
    ∃ route : Route Probe,
      Adds
        [.openTable none .reject, .openRoot 0 "", .install 0 [Probe.pass "G"],
          .openChild 0 "/m" [Probe.pass "M"], .install 0 [Probe.pass "late"], .copyGroup 1,
          .install 1 [Probe.pass "N"], .install 2 [Probe.pass "copy"]]
        (.register 1 "GET" "/r" (Probe.named "h") [Probe.pass "R0", Probe.pass "R1"]) 0 0 route ∧
      Table.resolveAll [⟨.reject, [route]⟩] "GET" "/m/r" = .matched ⟨route, ⟨[]⟩⟩ ∧
      ∀ ids, (dispatch Probe.run [⟨.reject, [route]⟩] ⟨"GET", "/m/r", [], none, none⟩
        (.start ids)).2.notes =
          [">G", ">M", ">N", ">R1", ">R0", "h()", "<R0", "<R1", "<N", "<M", "<G"] := by
  refine Exists.imp (fun route there => ⟨there.1, there.2, ?_⟩)
    (?_ : ∃ route, Adds _ _ 0 0 route ∧
      Table.resolveAll [⟨.reject, [route]⟩] "GET" "/m/r" = .matched ⟨route, ⟨[]⟩⟩)
  · obtain ⟨adds, resolved⟩ := there
    obtain ⟨group, slot, handler, own, stack, _, _, gives, stack_iff, _, passes⟩ :=
      (layers_run 0 0 route).2 _ _ adds
    generalize route.key = key at gives
    cases gives
    obtain rfl : [Probe.pass "G", Probe.pass "M", Probe.pass "N"] = stack :=
      (stack_iff _).mp ((hasStack_iff _).mpr ⟨_, rfl, rfl⟩)
    have once := Probe.run_wrap_of_pass ["G", "M", "N", "R1", "R0"]
    intro ids
    rw [passes Probe.run _ once _ _ _ _ resolved]
    rfl
  · exact ⟨_, ⟨Nat.zero_le _, rfl⟩, rfl⟩

end Session

end RpcRoutes
