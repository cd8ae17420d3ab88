import RpcRoutes.Program.Engine
import RpcRoutes.Proofs.Http.Dispatching
import RpcRoutes.Proofs.Routing.Accounts
import RpcRoutes.Proofs.Routing.Shadows
import RpcRoutes.Proofs.Startup.Building

/-!
# Routes that no request reaches

A route whose text is mounted in an earlier table never answers: a request without blanks that it
would answer is answered before, by the route of that text or by another one.

* `Table.FirstAnswer` names the route that answers a request over a list of tables. Its handler
  runs (`FirstAnswer.dispatch_eq`), and there is one when any route answers
  (`Table.exists_firstAnswer`).
* `FirstAnswer.not_shadowed`: it is not shadowed.
* `Session.Sound.nodup_tablesAt`: tables over one registry have no text twice.
* `Session.shadowed_run` puts them together for the tables of any run.
-/

namespace RpcRoutes

variable {H : Type}

/-! ### The route that answers -/

/-- A route answers when its key does. -/
theorem Route.answers_iff {req : Request} {route : Route H} : route.answers req = true ↔
    ∃ params, route.key.params? req.method req.path = some params := by
  rw [params?_key, answers]
  by_cases own : route.method = req.method
  · simp [own, Option.isSome_iff_exists]
  · simp [own]

/-- The first route that answers a request over a list of tables, with the index of its table. -/
structure Table.FirstAnswer (tables : List (Table H)) (req : Request) (index : Nat)
    (route : Route H) : Prop where
  split : ∃ front t back before after, tables = front ++ t :: back ∧ front.length = index ∧
    t.routes = before ++ route :: after ∧
      ∀ earlier ∈ front.flatMap Table.routes ++ before, earlier.answers req = false
  answers : route.answers req = true

namespace Table

variable {tables : List (Table H)} {req : Request} {index : Nat} {route : Route H}

/-- When a route answers, there is a first one. -/
theorem exists_firstAnswer (mem : route ∈ tables.flatMap Table.routes)
    (answers : route.answers req = true) : ∃ index first, FirstAnswer tables req index first := by
  obtain ⟨t, known, mem⟩ := List.mem_flatMap.mp mem
  have some_table : (tables.find? fun t => t.routes.any (Route.answers req)).isSome :=
    List.find?_isSome.mpr ⟨t, known, List.any_eq_true.mpr ⟨route, mem, answers⟩⟩
  obtain ⟨t, found⟩ := Option.isSome_iff_exists.mp some_table
  obtain ⟨answering, front, back, rfl, silent⟩ := List.find?_eq_some_iff_append.mp found
  obtain ⟨route, mem, answers⟩ := List.any_eq_true.mp answering
  have some_route : (t.routes.find? (Route.answers req)).isSome :=
    List.find?_isSome.mpr ⟨route, mem, answers⟩
  obtain ⟨first, found⟩ := Option.isSome_iff_exists.mp some_route
  obtain ⟨answers, before, after, split, silent'⟩ := List.find?_eq_some_iff_append.mp found
  refine ⟨front.length, first, ⟨front, t, back, before, after, rfl, rfl, split, ?_⟩, answers⟩
  intro earlier mem
  rcases List.mem_append.mp mem with mem | mem
  · obtain ⟨e, known, mem⟩ := List.mem_flatMap.mp mem
    have none_answers := silent e known
    simp only [Bool.not_eq_eq_eq_not, Bool.not_true, List.any_eq_false] at none_answers
    simpa using none_answers earlier mem
  · simpa using silent' earlier mem

/-- The handler of the first route that answers runs, with what its template captures. -/
theorem FirstAnswer.dispatch_eq (first : FirstAnswer tables req index route)
    (run : H → Handler) (x : Exchange) : dispatch run tables req x =
      run route.handler { req with params := route.template.params? req.path } x := by
  obtain ⟨⟨front, t, back, before, after, rfl, _, split, silent⟩, answers⟩ := first
  have found : ((front ++ t :: back).flatMap Table.routes).find? (Route.answers req) =
      some route := by
    refine List.find?_eq_some_iff_append.mpr ⟨answers, front.flatMap Table.routes ++ before,
      after ++ back.flatMap Table.routes, ?_, ?_⟩
    · rw [List.flatMap_append, List.flatMap_cons, split]
      simp
    · intro earlier mem
      rw [silent earlier mem]
      rfl
  rw [dispatch, Table.resolveAll_eq, answer_ofRoutes, scan, found]

/-- Where no route answers, no handler runs. -/
theorem dispatch_of_unanswered
    (silent : ∀ route ∈ tables.flatMap Table.routes, route.answers req = false) :
    ∃ res, ∀ (run : H → Handler) (x : Exchange), dispatch run tables req x = (res, x) := by
  have unfound : (tables.flatMap Table.routes).find? (Route.answers req) = none := by
    rw [List.find?_eq_none]
    intro route mem
    simp [silent route mem]
  simp only [dispatch, Table.resolveAll_eq, answer_ofRoutes, scan, unfound]
  cases Route.fitting req.path (tables.flatMap Table.routes) with
  | nil => exact ⟨_, fun _ _ => rfl⟩
  | cons method methods => exact ⟨_, fun _ _ => rfl⟩

/-- The first route that answers a request without blanks is not shadowed, since an earlier route
of its text would answer as well. -/
theorem FirstAnswer.not_shadowed (first : FirstAnswer tables req index route)
    (distinct : ∀ t ∈ tables, (t.keys.map RouteKey.text).Nodup)
    (wellFormed : ∀ t ∈ tables, ∀ route ∈ t.routes, route.WellFormed)
    (plain : ' ' ∉ req.method.toList) (plain' : ' ' ∉ req.path.toList) :
    (index, route.key) ∉ shadowed tables := by
  rw [mem_shadowed_iff distinct]
  rintro ⟨t', found, copied⟩
  obtain ⟨⟨front, t, back, before, after, rfl, rfl, split, silent⟩, answers⟩ := first
  rw [List.take_left] at copied
  obtain ⟨_, e, earlier, key, mem, same⟩ := mem_copies_iff.mp copied
  obtain ⟨other, mounted, rfl⟩ := List.mem_map.mp mem
  have rooted := (wellFormed e (List.mem_append_left _ earlier) other mounted).2
  obtain ⟨params, matched⟩ := Route.answers_iff.mp answers
  have key_eq : other.key = route.key := RouteKey.eq_of_text_eq same rooted matched plain plain'
  have other_answers : other.answers req = true := Route.answers_iff.mpr ⟨params, key_eq ▸ matched⟩
  have silent_other :=
    silent other (List.mem_append_left _ (List.mem_flatMap.mpr ⟨e, earlier, mounted⟩))
  rw [other_answers] at silent_other
  cases silent_other

end Table

/-! ### Tables of runs -/

namespace Session

/-- The tables of these numbers, in this order. -/
def tablesAt (s : Session H) (numbers : List Nat) : List (Table H) :=
  numbers.filterMap fun number => s.tables[number]?.map TableSlot.table

section Sound

variable {s : Session H} {claims : Nat → Nat} {numbers : List Nat} {t : Table H}

theorem mem_tables_of_tablesAt (mem : t ∈ s.tablesAt numbers) :
    ∃ slot ∈ s.tables, slot.table = t := by
  obtain ⟨number, _, found⟩ := List.mem_filterMap.mp mem
  obtain ⟨slot, known, rfl⟩ := Option.map_eq_some_iff.mp found
  exact ⟨slot, List.mem_of_getElem? known, rfl⟩

/-- Of tables over one registry, a later one has no text of an earlier one. -/
theorem Sound.disjoint_keys (sound : s.Sound claims) {i j : Nat} {slot slot' : TableSlot H}
    (before : i < j) (found : s.tables[i]? = some slot) (found' : s.tables[j]? = some slot')
    (same : slot'.registry = slot.registry) :
    List.Disjoint (slot.table.keys.map RouteKey.text) (slot'.table.keys.map RouteKey.text) := by
  have known := sound.known slot (List.mem_of_getElem? found)
  have distinct := (sound.accounted slot.registry _ (List.getElem?_eq_getElem known)).distinct
  rw [mountedTexts, List.nodup_flatMap] at distinct
  obtain ⟨bound, rfl⟩ := List.getElem?_eq_some_iff.mp found
  obtain ⟨bound', rfl⟩ := List.getElem?_eq_some_iff.mp found'
  have apart := List.pairwise_iff_getElem.mp distinct.2 i j bound bound' before
  simpa [Function.onFun, same] using apart

/-- Distinct tables over one registry have no text twice among all of them. -/
theorem Sound.nodup_tablesAt (sound : s.Sound claims) {registry : Nat} (apart : numbers.Nodup)
    (inOne : ∀ number ∈ numbers, ∀ slot, s.tables[number]? = some slot →
      slot.registry = registry) :
    (((s.tablesAt numbers).flatMap Table.keys).map RouteKey.text).Nodup := by
  rw [List.map_flatMap, List.nodup_flatMap]
  constructor
  · intro t mem
    obtain ⟨slot, known, rfl⟩ := mem_tables_of_tablesAt mem
    exact sound.nodup_keys known
  · refine List.pairwise_filterMap.mpr (apart.imp_of_mem ?_)
    intro i j memi memj ne t found t' found'
    obtain ⟨slot, known, rfl⟩ := Option.map_eq_some_iff.mp found
    obtain ⟨slot', known', rfl⟩ := Option.map_eq_some_iff.mp found'
    have same : slot.registry = slot'.registry :=
      (inOne i memi slot known).trans (inOne j memj slot' known').symm
    rcases Nat.lt_or_gt_of_ne ne with before | before
    · exact sound.disjoint_keys before known known' same.symm
    · exact List.disjoint_symm (sound.disjoint_keys before known' known same)

end Sound

end Session

/-! ### Shadowed routes -/

/-- With a shared registry built tables have no text twice. -/
theorem nodup_buildTables_shared [PatternEngine] {base : String} {policy : DuplicatePolicy}
    {middleware : List (Middleware H)} {resolver : HandlerResolver H}
    {files : List FileDescriptor} {tables : List (Table H)}
    (built : (buildTables ⟨base, policy, .shared⟩ middleware resolver files).2 = .ok tables) :
    ((tables.flatMap Table.keys).map RouteKey.text).Nodup := by
  rw [buildTables_snd, snd_eq_iff] at built
  obtain ⟨last, built⟩ := built
  rw [flatMap_keys_tablesFrom built, RegistryScope.flatten_admitted_shared]
  exact Registry.fresh_admitted.1

/-- Of any tables of a run, the shadowed routes are those whose text is mounted in an earlier table
of the list, table after table and in mounting order. A request without blanks is answered by the
first route that answers it, which is no shadowed one, or by no handler. Nothing is shadowed among
different tables over one registry, nor among those that are built with a shared registry. -/
theorem Session.shadowed_run [PatternEngine] (actions : List (Action H)) (numbers : List Nat) :
    (Table.shadowed ((run actions).tablesAt numbers) =
      ((run actions).tablesAt numbers).zipIdx.flatMap fun (t, i) =>
        (t.copies (((run actions).tablesAt numbers).take i)).map (Prod.mk i)) ∧
    (∀ req : Request, ' ' ∉ req.method.toList → ' ' ∉ req.path.toList →
      (∃ index route, Table.FirstAnswer ((run actions).tablesAt numbers) req index route ∧
        (index, route.key) ∉ Table.shadowed ((run actions).tablesAt numbers) ∧
        ∀ (handle : H → Handler) (x : Exchange),
          dispatch handle ((run actions).tablesAt numbers) req x =
            handle route.handler { req with params := route.template.params? req.path } x) ∨
      ∃ res, ∀ (handle : H → Handler) (x : Exchange),
        dispatch handle ((run actions).tablesAt numbers) req x = (res, x)) ∧
    (∀ registry : Nat, numbers.Nodup →
      (∀ number ∈ numbers, ∀ slot, (run actions).tables[number]? = some slot →
        slot.registry = registry) →
      Table.shadowed ((run actions).tablesAt numbers) = []) ∧
    ∀ (base : String) (policy : DuplicatePolicy) (middleware : List (Middleware H))
      (resolver : HandlerResolver H) (files : List FileDescriptor) (tables : List (Table H)),
      (buildTables ⟨base, policy, .shared⟩ middleware resolver files).2 = .ok tables →
        Table.shadowed tables = [] := by
  have sound := sound_runFrom sound_empty actions
  have distinct : ∀ t ∈ (run actions).tablesAt numbers, (t.keys.map RouteKey.text).Nodup := by
    intro t mem
    obtain ⟨slot, known, rfl⟩ := mem_tables_of_tablesAt mem
    exact sound.nodup_keys known
  have wellFormed : ∀ t ∈ (run actions).tablesAt numbers, ∀ route ∈ t.routes,
      route.WellFormed := by
    intro t mem route mounted
    obtain ⟨slot, known, rfl⟩ := mem_tables_of_tablesAt mem
    exact sound.wellFormed route (List.mem_flatMap.mpr ⟨slot, known, mounted⟩)
  refine ⟨Table.shadowed_eq_copies distinct, ?_, ?_, ?_⟩
  · intro req plain plain'
    by_cases answered : ∃ route ∈ ((run actions).tablesAt numbers).flatMap Table.routes,
        route.answers req = true
    · obtain ⟨route, mem, answers⟩ := answered
      obtain ⟨index, first, is_first⟩ := Table.exists_firstAnswer mem answers
      exact Or.inl ⟨index, first, is_first,
        is_first.not_shadowed distinct wellFormed plain plain', is_first.dispatch_eq⟩
    · refine Or.inr (Table.dispatch_of_unanswered fun route mem => ?_)
      rw [Bool.eq_false_iff]
      intro answers
      exact answered ⟨route, mem, answers⟩
  · intro registry apart inOne
    exact Table.shadowed_eq_nil (sound.nodup_tablesAt apart inOne)
  · intro base policy middleware resolver files tables built
    exact Table.shadowed_eq_nil (nodup_buildTables_shared built)

/-- Two tables with registries of their own have one text: the copy in the later one is shadowed,
and a request for it gets the handler of the earlier one. In either table alone nothing is
shadowed, nor in tables that are built from two such files over one registry. -/
theorem Session.shadowed_run_twice :
    ∃ s : Session String,
      s = run [.openTable none .reject, .openTable none .reject, .openRoot 0 "", .openRoot 1 "",
        .register 0 "GET" "/x" "a" [], .register 1 "GET" "x" "b" []] ∧
      Table.shadowed (s.tablesAt [0, 1]) = [(1, ⟨"GET", "/x"⟩)] ∧
      (∃ index route,
        Table.FirstAnswer (s.tablesAt [0, 1]) ⟨"GET", "/x", [], none, none⟩ index route ∧
        (index, route.key) ∉ Table.shadowed (s.tablesAt [0, 1]) ∧ route.handler = "a") ∧
      Table.shadowed (s.tablesAt [1]) = [] ∧
      ∃ tables : List (Table String),
        (buildTables ⟨"", .warn, .shared⟩ [] (fun service _ => some service)
          [.getter "a.proto" "a" "/x", .getter "b.proto" "b" "x"]).2 = .ok tables ∧
        Table.shadowed tables = [] := by
  obtain ⟨copies, answered, -, built⟩ := shadowed_run (H := String)
    [.openTable none .reject, .openTable none .reject, .openRoot 0 "", .openRoot 1 "",
      .register 0 "GET" "/x" "a" [], .register 1 "GET" "x" "b" []] [0, 1]
  have alone := (shadowed_run (H := String)
    [.openTable none .reject, .openTable none .reject, .openRoot 0 "", .openRoot 1 "",
      .register 0 "GET" "/x" "a" [], .register 1 "GET" "x" "b" []] [1]).2.2.1 1 (by decide)
  have shared := built "" .warn [] (fun service _ => some service)
    [.getter "a.proto" "a" "/x", .getter "b.proto" "b" "x"] _ rfl
  refine ⟨_, rfl, copies.trans rfl, ?_, alone ?_, _, rfl, shared⟩
  · -- What a handler notes shows which one has run.
    rcases answered ⟨"GET", "/x", [], none, none⟩ (by decide) (by decide) with
      ⟨index, route, first, own, runs⟩ | ⟨res, silent⟩
    · have noted := congrArg (fun answer => answer.2.notes)
        (runs (fun name _ x => (notFound, x.note name)) (.start fun _ => ""))
      exact ⟨index, route, first, own, (List.cons.inj noted).1.symm⟩
    · have noted := congrArg (fun answer => answer.2.notes)
        (silent (fun name _ x => (notFound, x.note name)) (.start fun _ => ""))
      cases noted
  · intro number mem slot found
    obtain rfl := List.mem_singleton.mp mem
    obtain rfl := Option.some.inj found
    rfl

end RpcRoutes
