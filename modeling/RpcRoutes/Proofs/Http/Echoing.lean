import RpcRoutes.Program.Engine
import RpcRoutes.Proofs.Http.Passing
import RpcRoutes.Proofs.Json.Reading
import RpcRoutes.Proofs.Path.Repeats
import RpcRoutes.Proofs.Routing.Nesting

/-!
# Echoed parameters

A handler that echoes a request writes the captured parameters as one object. A name stands in it
once, so of several parameters of a name only one is told: the last one, while a handler that asks
for the name is given the first one.

* `Response.pathParams?` reads back what a response tells about the parameters.
* `Handler.pathParams?_echo`: an echo tells each name once, with its last value.
* `Route.Tells` says which values a route tells; `Route.tells_get?_iff` that they are those a
  handler is given exactly when the route's pattern repeats no name.
-/

namespace RpcRoutes

variable {H : Type}

/-- The parameters that a response tells: the members of the object `path_params` in its body,
which are all texts. -/
def Response.pathParams? (res : Response) : Option (List (String × String)) :=
  match Json.read? res.body.toList with
  | some (.object members, []) =>
    match members.lookup "path_params" with
    | some (.object entries) => entries.mapM fun (name, v) => v.string?.map (name, ·)
    | _ => none
  | _ => none

theorem Response.pathParams?_congr {res other : Response} (same : res.body = other.body) :
    res.pathParams? = other.pathParams? := by
  rw [pathParams?, pathParams?, same]

namespace Handler

/-! ### One value for each name -/

/-- Entries with one more at their end, unless its name is there already. -/
def addUnseen (kept : List (String × String)) (e : String × String) : List (String × String) :=
  if kept.any (fun k => k.1 == e.1) then kept else kept ++ [e]

theorem sortedLast_eq (entries : List (String × String)) :
    sortedLast entries =
      (entries.reverse.foldl addUnseen []).mergeSort fun a b => decide (a.1 ≤ b.1) :=
  rfl

variable {kept entries : List (String × String)} {e : String × String} {name : String}

theorem any_iff_mem_names :
    (kept.any fun k => k.1 == e.1) = true ↔ e.1 ∈ kept.map Prod.fst := by
  simp [List.any_eq_true]

/-- An entry that is left out would not be looked up. -/
theorem lookup_addUnseen : (addUnseen kept e).lookup name = (kept ++ [e]).lookup name := by
  unfold addUnseen
  split
  · rename_i seen
    rw [any_iff_mem_names] at seen
    by_cases same : name = e.1
    · obtain ⟨value, found⟩ := Option.isSome_iff_exists.mp (isSome_lookup_iff_mem.mpr seen)
      rw [List.lookup_append, same, found, Option.some_or]
    · have other : [e].lookup name = none := by simp [same]
      rw [List.lookup_append, other, Option.or_none]
  · rfl

theorem nodup_addUnseen (distinct : (kept.map Prod.fst).Nodup) :
    ((addUnseen kept e).map Prod.fst).Nodup := by
  unfold addUnseen
  split
  · exact distinct
  · rename_i unseen
    rw [any_iff_mem_names] at unseen
    rw [List.map_append, List.map_singleton, ← List.concat_eq_append]
    exact distinct.concat unseen

theorem lookup_foldl_addUnseen :
    (entries.foldl addUnseen kept).lookup name = (kept ++ entries).lookup name := by
  induction entries generalizing kept with
  | nil => rw [List.append_nil]; rfl
  | cons e entries ih =>
      rw [List.foldl_cons, ih, List.lookup_append, lookup_addUnseen, ← List.lookup_append,
        List.append_assoc, List.singleton_append]

theorem nodup_foldl_addUnseen (distinct : (kept.map Prod.fst).Nodup) :
    ((entries.foldl addUnseen kept).map Prod.fst).Nodup := by
  induction entries generalizing kept with
  | nil => exact distinct
  | cons e entries ih => exact ih (nodup_addUnseen distinct)

theorem nodup_sortedLast (entries : List (String × String)) :
    ((sortedLast entries).map Prod.fst).Nodup := by
  rw [sortedLast_eq, ((List.mergeSort_perm _ _).map Prod.fst).nodup_iff]
  exact nodup_foldl_addUnseen List.nodup_nil

/-- Each name has its last value. -/
theorem lookup_sortedLast (params : PathParams) (name : String) :
    (sortedLast params.entries).lookup name = params.last? name := by
  have distinct := nodup_sortedLast params.entries
  rw [sortedLast_eq] at distinct ⊢
  rw [lookup_perm (List.mergeSort_perm _ _) distinct, lookup_foldl_addUnseen]
  rfl

/-! ### The echo -/

def paramMembers (req : Request) : List (String × Json) :=
  (sortedLast ((req.params.map (·.entries)).getD [])).map fun (name, v) => (name, .string v)

def members (service method : String) (req : Request) : List (String × Json) :=
  [("method", .string method), ("path", .string req.path),
    ("path_params", .object (paramMembers req)),
    ("request_id", (req.requestId.map Json.string).getD .null), ("service", .string service),
    ("verb", .string req.method)]

section Description

variable {service method : String} {req : Request}

theorem description_eq : description service method req = .object (members service method req) :=
  rfl

theorem lookup_members :
    (members service method req).lookup "path_params" = some (.object (paramMembers req)) :=
  rfl

/-- A member is an object of texts, or a text, or absent. -/
theorem flat_of_mem_members : ∀ m ∈ members service method req, m.2.IsPlain ∧ m.2.depth ≤ 1 := by
  have text (s : String) : (Json.string s).IsPlain ∧ (Json.string s).depth ≤ 1 :=
    ⟨.string s, Nat.zero_le 1⟩
  have params : (Json.object (paramMembers req)).IsPlain ∧
      (Json.object (paramMembers req)).depth ≤ 1 := by
    rw [Json.depth_object_le_iff]
    exact ⟨.object (List.forall_mem_map.mpr fun e _ => .string e.2),
      List.forall_mem_map.mpr fun e _ => Nat.le_refl 0⟩
  have assigned : ((req.requestId.map Json.string).getD .null).IsPlain ∧
      ((req.requestId.map Json.string).getD .null).depth ≤ 1 := by
    cases req.requestId with
    | none => exact ⟨.null, Nat.zero_le 1⟩
    | some id => exact text id
  simp only [members, List.forall_mem_cons]
  exact ⟨text method, text req.path, params, assigned, text service, text req.method, nofun⟩

/-- The text of a description is read back as the description. -/
theorem read?_description : Json.read? (description service method req).compact.toList =
    some (description service method req, []) := by
  have plain : (description service method req).IsPlain :=
    .object fun m mem => (flat_of_mem_members m mem).1
  apply Json.read?_of_spells (Json.spells_compact plain)
  apply Json.depth_object_le_iff.mpr
  intro m mem
  exact (flat_of_mem_members m mem).2.trans (by decide)

/-- An echo tells the parameters of its request, each name once and with its last value. -/
theorem pathParams?_echo {x : Exchange} : (echo service method req x).1.pathParams? =
    some (sortedLast ((req.params.map (·.entries)).getD [])) := by
  have body : (echo service method req x).1.body = (description service method req).compact := rfl
  rw [Response.pathParams?, body, read?_description, description_eq]
  dsimp only
  rw [lookup_members]
  dsimp only
  rw [Json.mapM_eq_some_iff, paramMembers, List.map_map]
  rfl

end Description

/-! ### Layers around the echo -/

/-- The layer for ids passes the parameters on and leaves the body of the response as it is. -/
theorem body_withRequestId (inner : Handler) (req : Request) (x : Exchange) :
    ∃ seen after, seen.params = req.params ∧
      (withRequestId inner req x).1.body = (inner seen after).1.body := by
  unfold withRequestId
  cases broughtId? req with
  | some id =>
      refine ⟨_, _, ?_, rfl⟩
      rfl
  | none =>
      refine ⟨_, _, ?_, rfl⟩
      rfl

/-- Standard layers do so, too. -/
theorem body_foldr_wrap {layers : List (Middleware Handler)}
    (standard : ∀ m ∈ layers, m ∈ [requestId, accessLog]) (inner : Handler) (req : Request)
    (x : Exchange) : ∃ seen after, seen.params = req.params ∧
      (layers.foldr (fun m inner => m.wrap inner) inner req x).1.body =
        (inner seen after).1.body := by
  induction layers generalizing req x with
  | nil => exact ⟨req, x, rfl, rfl⟩
  | cons m layers ih =>
      obtain ⟨first, others⟩ := List.forall_mem_cons.mp standard
      rw [List.foldr_cons]
      rcases List.mem_cons.mp first with rfl | first
      · obtain ⟨seen, after, passed, body⟩ := body_withRequestId
          (layers.foldr (fun m inner => m.wrap inner) inner) req x
        obtain ⟨seen', after', passed', body'⟩ := ih others seen after
        exact ⟨seen', after', passed'.trans passed, body.trans body'⟩
      · obtain rfl := List.mem_singleton.mp first
        exact ih others req x

end Handler

/-! ### Routes that echo -/

namespace Route

/-- Requests that the route answers are told the placeholders of its pattern, each name once and
with the value that it has among the captured parameters. -/
def Tells (run : H → Handler) (route : Route H) (value : PathParams → String → Option String) :
    Prop :=
  ∀ (tables : List (Table H)) (params : PathParams) (req : Request) (x : Exchange),
    Table.resolveAll tables req.method req.path = .matched ⟨route, params⟩ →
      ∃ entries, (dispatch run tables req x).1.pathParams? = some entries ∧
        (entries.map Prod.fst).Nodup ∧
        (∀ name, name ∈ entries.map Prod.fst ↔ name ∈ Path.placeholders route.template.pattern) ∧
        ∀ name, entries.lookup name = value params name

/-- The route's handler is an echo, with any number of the layers around it that give requests an id
and that report them. -/
def Echoes (run : H → Handler) (route : Route H) : Prop :=
  ∃ (service method : String) (group own : List (Middleware Handler)),
    (∀ m ∈ group ++ own, m ∈ [Handler.requestId, Handler.accessLog]) ∧
      run route.handler = Middleware.compose (Handler.echo service method) group own

variable {run : H → Handler} {route : Route H}

/-- What a run mounts to echo, in a group that has no other layers, echoes. -/
theorem echoes_of_adds [PatternEngine] {before : List (Action Handler)} {group table index : Nat}
    {bindings : List ServiceBinding} {route : Route Handler}
    (adds : Session.Adds before (.mount group bindings Handler.echoResolver) table index route)
    (standard : ∀ slot, (Session.run before).groups[group]? = some slot →
      ∀ m ∈ slot.group.stack, m ∈ [Handler.requestId, Handler.accessLog]) :
    route.Echoes id := by
  obtain ⟨_, slot, known, -, handler, own, gives, composed⟩ := adds.makes
  generalize route.key = key at gives
  cases gives with
  | mount _ _ _ resolved =>
      obtain rfl := Option.some.inj resolved
      exact ⟨_, _, slot.group.stack, [], by simpa using standard slot known, composed⟩

/-- A table of one route resolves what fits the route to it. -/
theorem resolveAll_singleton {path : String} {params : PathParams}
    (found : route.template.params? path = some params) :
    Table.resolveAll [⟨.reject, [route]⟩] route.method path = .matched ⟨route, params⟩ := by
  simp [Table.resolveAll, Table.resolveAllFrom, Table.resolve, Table.resolveFrom, found]

/-- An echo tells the last values. -/
theorem Echoes.tells_last? (echoes : route.Echoes run) : route.Tells run PathParams.last? := by
  obtain ⟨service, method, group, own, standard, handler_eq⟩ := echoes
  rw [Middleware.compose_eq_foldr] at handler_eq
  have standard : ∀ m ∈ group ++ own.reverse, m ∈ [Handler.requestId, Handler.accessLog] := by
    simpa using standard
  intro tables params req x resolved
  obtain ⟨seen, after, passed, body⟩ := Handler.body_foldr_wrap standard
    (Handler.echo service method) { req with params := some params } x
  have captured := Template.names_of_params? (Table.params?_of_resolveAll resolved)
  refine ⟨Handler.sortedLast params.entries, ?_, Handler.nodup_sortedLast _, ?_,
    Handler.lookup_sortedLast params⟩
  · rw [dispatch, resolved, answer, handler_eq, Response.pathParams?_congr body,
      Handler.pathParams?_echo, passed]
    rfl
  · intro name
    rw [← isSome_lookup_iff_mem, Handler.lookup_sortedLast, PathParams.isSome_last?_iff, captured]

/-- A route that echoes requests tells each placeholder once, with the last value of that name. It
tells the value that a handler is given for the name, which is the first one, to all requests
exactly when its pattern repeats no name. -/
theorem tells_get?_iff (echoes : route.Echoes run) :
    route.Tells run PathParams.last? ∧
      (route.Tells run PathParams.get? ↔ (Path.placeholders route.template.pattern).Nodup) := by
  have last := echoes.tells_last?
  refine ⟨last, ?_⟩
  rw [← Template.last?_eq_get?_iff]
  constructor
  · intro tells path params found name
    have resolved := resolveAll_singleton found
    let req : Request := ⟨route.method, path, [], none, none⟩
    obtain ⟨entries, told, -, -, values⟩ := tells _ params req (.start fun _ => "") resolved
    obtain ⟨others, told', -, -, values'⟩ := last _ params req (.start fun _ => "") resolved
    obtain rfl := Option.some.inj (told.symm.trans told')
    rw [← values, values']
  · intro agree tables params req x resolved
    obtain ⟨entries, told, once, names, values⟩ := last tables params req x resolved
    refine ⟨entries, told, once, names, ?_⟩
    intro name
    rw [values, agree _ _ (Table.params?_of_resolveAll resolved)]

/-- A prefix and a rule with different names, mounted inside both layers: the first of them is told
as it is given. -/
theorem tells_get?_iff_layered :
    ∃ route : Route Handler,
      Session.Adds
        [.openTable none .reject, .openRoot 0 "/t/{tenant}",
          .install 0 [Handler.requestId, Handler.accessLog]]
        (.mount 0 [⟨"a.A", [⟨"Get", [⟨"GET", "/items/{id}", ""⟩]⟩]⟩] Handler.echoResolver) 0 0
        route ∧
      route.Echoes id ∧ route.Tells id PathParams.get? ∧
      ∀ x : Exchange, ∃ entries,
        (dispatch id [⟨.reject, [route]⟩] ⟨"GET", "/t/7/items/9", [], none, none⟩ x).1.pathParams? =
          some entries ∧ entries.lookup "tenant" = some "7" := by
  refine Exists.imp (fun route there => ⟨there.1, ?_⟩)
    (?_ : ∃ route, Session.Adds _ _ 0 0 route ∧
      route.template.pattern = "/t/{tenant}/items/{id}" ∧
      Table.resolveAll [⟨.reject, [route]⟩] "GET" "/t/7/items/9" =
        .matched ⟨route, ⟨[("tenant", "7"), ("id", "9")]⟩⟩)
  · obtain ⟨adds, pattern_eq, resolved⟩ := there
    have echoes : route.Echoes id := by
      apply echoes_of_adds adds
      rintro _ ⟨⟩ m mem
      exact mem
    have distinct : (Path.placeholders route.template.pattern).Nodup := by
      rw [pattern_eq]
      decide
    have tells := (tells_get?_iff echoes).2.mpr distinct
    refine ⟨echoes, tells, fun x => ?_⟩
    obtain ⟨entries, told, -, -, values⟩ :=
      tells _ _ ⟨"GET", "/t/7/items/9", [], none, none⟩ x resolved
    exact ⟨entries, told, values "tenant"⟩
  · exact ⟨_, ⟨Nat.zero_le _, rfl⟩, rfl, rfl⟩

/-- A prefix and a rule with a placeholder of one name. A handler that asks for it is given `7`, and
the echo tells `9`. -/
theorem echo_tells_other :
    ∃ (route : Route Handler) (params : PathParams),
      Session.Adds [.openTable none .reject, .openRoot 0 "/t/{id}"]
        (.mount 0 [⟨"a.A", [⟨"Get", [⟨"GET", "/items/{id}", ""⟩]⟩]⟩] Handler.echoResolver) 0 0
        route ∧
      Table.resolveAll [⟨.reject, [route]⟩] "GET" "/t/7/items/9" = .matched ⟨route, params⟩ ∧
      params.get? "id" = some "7" ∧
      (∀ x : Exchange,
        (dispatch id [⟨.reject, [route]⟩] ⟨"GET", "/t/7/items/9", [], none, none⟩ x).1.pathParams? =
          some [("id", "9")]) ∧
      ¬ route.Tells id PathParams.get? := by
  refine Exists.imp (fun route there => ⟨_, there.1, there.2.2, rfl, ?_⟩)
    (?_ : ∃ route, Session.Adds _ _ 0 0 route ∧ route.handler = Handler.echo "a.A" "Get" ∧
      Table.resolveAll [⟨.reject, [route]⟩] "GET" "/t/7/items/9" =
        .matched ⟨route, ⟨[("id", "7"), ("id", "9")]⟩⟩)
  · obtain ⟨_, handler_eq, resolved⟩ := there
    have last : Handler.sortedLast [("id", "7"), ("id", "9")] = [("id", "9")] :=
      List.mergeSort_singleton ("id", "9")
    have told (x : Exchange) : (dispatch id [⟨.reject, [route]⟩]
        ⟨"GET", "/t/7/items/9", [], none, none⟩ x).1.pathParams? = some [("id", "9")] := by
      rw [dispatch, resolved, answer, handler_eq, id_eq, Handler.pathParams?_echo]
      exact congrArg some last
    refine ⟨told, ?_⟩
    intro tells
    obtain ⟨entries, told', -, -, values⟩ :=
      tells _ _ ⟨"GET", "/t/7/items/9", [], none, none⟩ (.start fun _ => "") resolved
    obtain rfl := Option.some.inj (told'.symm.trans (told _))
    exact absurd (values "id") (by decide)
  · exact ⟨_, ⟨Nat.zero_le _, rfl⟩, rfl, rfl⟩

end Route

end RpcRoutes
