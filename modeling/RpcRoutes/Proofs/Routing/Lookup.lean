import RpcRoutes.Program.Engine
import RpcRoutes.Proofs.Path.Matching
import RpcRoutes.Proofs.Path.Occurrences
import RpcRoutes.Proofs.Routing.Accounts
import RpcRoutes.Proofs.Routing.Resolution

/-!
# Looking up a route

A route can be found in two ways: by its own method and pattern, compared as texts, or by resolving
a request, which matches templates. What the first finds, the second reaches: a path that the
pattern can be filled to is answered by that route or by one of its method that was mounted before.

* `Path.fills_self`: a pattern is filled to its own text, by its placeholders as they are written.
* `Table.lookup_eq_some_iff`: in a table without a key twice, a look-up finds the route of a key.
* `Table.resolve_of_fits` and `Table.not_mem_of_methodNotAllowed`: a route whose template fits a
  path is not hidden, and its method is not among those that a refusal allows.
* `Session.lookup_run` puts them together for the tables of any run.
-/

namespace RpcRoutes

variable {H : Type}

/-! ### Paths that a pattern is filled to -/

namespace Path

/-- What a placeholder is written as is a value that it can take. -/
theorem IsName.isValue_braced {name : List Char} (named : IsName name) : IsValue (braced name) := by
  refine ⟨List.cons_ne_nil _ _, ?_⟩
  intro slash
  rcases List.mem_cons.mp slash with opening | slash
  · exact absurd opening (by decide)
  · rcases List.mem_append.mp slash with inner | closing
    · exact (named.2 _ inner).1 rfl
    · exact absurd (List.mem_singleton.mp closing) (by decide)

/-- A pattern is filled to its own text. -/
theorem fills_self (pattern : List Char) : Fills pattern ((names pattern).map braced) pattern := by
  induction pattern using token_induction with
  | nil => exact .done
  | hole name rest named ih =>
      have first : names ('{' :: (name ++ '}' :: rest)) = name :: names rest := by
        rw [names, tokens_hole named]
        rfl
      rw [first, List.map_cons]
      simpa only [braced_append] using Fills.hole named named.isValue_braced ih
  | copy c rest plain ih =>
      have skipped : names (c :: rest) = names rest := by
        rw [names, tokens_copy plain]
        rfl
      rw [skipped]
      exact .copy plain ih

end Path

/-- A template fits the paths that its pattern can be filled to. -/
theorem Template.isSome_params?_iff {t : Template} {path : String} :
    (t.params? path).isSome ↔ ∃ values, Path.Fills t.pattern.toList values path.toList := by
  rw [isSome_params?, Path.isSome_capture_iff]
  simp only [Path.fills_iff]

/-! ### Tables -/

theorem Route.match?_eq_some_iff {method path : String} {route : Route H} {found : RouteMatch H} :
    route.match? method path = some found ↔ route.method = method ∧
      ∃ params, route.template.params? path = some params ∧ found = ⟨route, params⟩ := by
  rw [match?, params?_key]
  by_cases own : route.method = method
  · simp [own, eq_comm]
  · simp [own]

namespace Table

variable {t : Table H} {method pattern path : String} {route : Route H}

/-- Where no key is there twice, looking up a key finds its route. -/
theorem lookup_eq_some_iff (distinct : t.keys.Nodup) : t.lookup method pattern = some route ↔
    route ∈ t.routes ∧ route.key = ⟨method, pattern⟩ := by
  constructor
  · intro found
    refine ⟨List.mem_of_find?_eq_some found, ?_⟩
    have fits := List.find?_some found
    simp only [Bool.and_eq_true, beq_iff_eq] at fits
    rw [Route.key, fits.1, fits.2]
  · rintro ⟨mem, key_eq⟩
    have same := RouteKey.mk.inj key_eq
    have known : (t.lookup method pattern).isSome :=
      List.find?_isSome.mpr ⟨route, mem, by simp [same]⟩
    obtain ⟨first, found⟩ := Option.isSome_iff_exists.mp known
    have fits := List.find?_some found
    simp only [Bool.and_eq_true, beq_iff_eq] at fits
    have key_eq' : first.key = route.key := by rw [key_eq, Route.key, fits.1, fits.2]
    rw [found, List.inj_on_of_nodup_map distinct (List.mem_of_find?_eq_some found) mem key_eq']

theorem isSome_lookup_iff (distinct : t.keys.Nodup) :
    (t.lookup method pattern).isSome ↔ ⟨method, pattern⟩ ∈ t.keys := by
  simp only [Option.isSome_iff_exists, lookup_eq_some_iff distinct, keys, List.mem_map]

/-- A route whose template fits a path answers it, unless one of its method that was mounted before
does. -/
theorem resolve_of_fits {index : Nat} (mounted : t.routes[index]? = some route)
    (fits : (route.template.params? path).isSome) :
    ∃ first earlier params, first ≤ index ∧ t.routes[first]? = some earlier ∧
      earlier.method = route.method ∧ earlier.template.params? path = some params ∧
      t.resolve route.method path = .matched ⟨earlier, params⟩ := by
  have answers : (route.match? route.method path).isSome := by
    obtain ⟨params, captured⟩ := Option.isSome_iff_exists.mp fits
    exact Option.isSome_iff_exists.mpr
      ⟨_, Route.match?_eq_some_iff.mpr ⟨rfl, params, captured, rfl⟩⟩
  have some_answers : (t.routes.findSome? (Route.match? route.method path)).isSome :=
    List.findSome?_isSome_iff.mpr ⟨route, List.mem_of_getElem? mounted, answers⟩
  obtain ⟨found, searched⟩ := Option.isSome_iff_exists.mp some_answers
  obtain ⟨before, earlier, after, split, answer, silent⟩ := List.findSome?_eq_some_iff.mp searched
  obtain ⟨own, params, captured, rfl⟩ := Route.match?_eq_some_iff.mp answer
  refine ⟨before.length, earlier, params, ?_, by rw [split]; simp, own, captured, ?_⟩
  · -- Before the first route that answers there is none, so the given one is not there.
    by_contra past
    rw [split, List.getElem?_append_left (Nat.not_le.mp past)] at mounted
    rw [silent route (List.mem_of_getElem? mounted)] at answers
    cases answers
  · rw [resolve, resolveFrom_eq, Resolution.ofRoutes, searched]

/-- A refusal does not allow the method that was refused. -/
theorem not_mem_of_methodNotAllowed {allowed : List String}
    (refused : t.resolve method path = .methodNotAllowed allowed) : method ∉ allowed := by
  rw [resolve, resolveFrom_eq, Resolution.ofRoutes] at refused
  cases searched : t.routes.findSome? (Route.match? method path) with
  | some found =>
      rw [searched] at refused
      cases refused
  | none =>
      have gathered : (Route.fitting path t.routes).foldl Resolution.addMethod [] = allowed := by
        rw [searched] at refused
        generalize (Route.fitting path t.routes).foldl Resolution.addMethod [] = seen at refused
        cases seen with
        | nil => cases refused
        | cons other seen => exact Resolution.methodNotAllowed.inj refused
      rw [← gathered, Resolution.mem_foldl_addMethod_iff]
      rintro (nothing | fitting)
      · cases nothing
      · obtain ⟨route, fit, own⟩ := List.mem_map.mp fitting
        obtain ⟨mem, fits⟩ := List.mem_filter.mp fit
        obtain ⟨params, captured⟩ := Option.isSome_iff_exists.mp fits
        have silent := List.findSome?_eq_none_iff.mp searched route mem
        rw [Route.match?_eq_some_iff.mpr ⟨own, params, captured, rfl⟩] at silent
        cases silent

end Table

/-! ### Tables of runs -/

namespace Session

/-- In the tables of a run every key is there once. Looking up a method and a pattern finds the
route of that key, if there is one. Then a request with this method is answered at the pattern's
own text, and at every path that the pattern can be filled to, by that route or by an earlier one
of the method. A refusal never allows the method that was refused. -/
theorem lookup_run [PatternEngine] (actions : List (Action H)) {number : Nat} {slot : TableSlot H}
    (found : (run actions).tables[number]? = some slot) (method pattern : String) :
    slot.table.keys.Nodup ∧
    ((slot.table.lookup method pattern).isSome ↔ ⟨method, pattern⟩ ∈ slot.table.keys) ∧
    (∀ route, slot.table.lookup method pattern = some route →
      ∃ index : Nat, slot.table.routes[index]? = some route ∧ route.key = ⟨method, pattern⟩ ∧
        ∀ path, path = pattern ∨
            (∃ values, Path.Fills pattern.toList values path.toList) →
          ∃ (first : Nat) (earlier : Route H) (params : PathParams), first ≤ index ∧
            slot.table.routes[first]? = some earlier ∧ earlier.method = method ∧
            earlier.template.params? path = some params ∧
            slot.table.resolve method path = .matched ⟨earlier, params⟩) ∧
    ∀ path allowed, slot.table.resolve method path = .methodNotAllowed allowed →
      method ∉ allowed := by
  have distinct : slot.table.keys.Nodup :=
    ((sound_runFrom sound_empty actions).nodup_keys (List.mem_of_getElem? found)).of_map _
  refine ⟨distinct, Table.isSome_lookup_iff distinct, ?_,
    fun path allowed => Table.not_mem_of_methodNotAllowed⟩
  intro route looked
  obtain ⟨mem, key_eq⟩ := (Table.lookup_eq_some_iff distinct).mp looked
  obtain ⟨index, mounted⟩ := List.getElem?_of_mem mem
  refine ⟨index, mounted, key_eq, ?_⟩
  intro path reached
  obtain ⟨rfl, rfl⟩ := RouteKey.mk.inj key_eq
  refine Table.resolve_of_fits mounted (Template.isSome_params?_iff.mpr ?_)
  rcases reached with rfl | filled
  · exact ⟨_, Path.fills_self _⟩
  · exact filled

/-- A literal pattern behind a placeholder that takes its place, with a route of another method in
between: the look-up finds the literal one, and its own text is answered by the placeholder. -/
theorem lookup_run_overlapping :
    ∃ (slot : TableSlot String) (route earlier : Route String) (params : PathParams),
      (run [.openTable none .reject, .openRoot 0 "/x", .register 0 "GET" "{id}" "a" [],
        .register 0 "PUT" "/7/{op}" "b" [], .register 0 "GET" "/7" "c" []]).tables[0]? =
          some slot ∧
      slot.table.lookup "GET" "/x/7" = some route ∧ route.handler = "c" ∧
      slot.table.resolve "GET" "/x/7" = .matched ⟨earlier, params⟩ ∧ earlier.method = "GET" ∧
      slot.table.resolve "GET" "/x/7/go" = .methodNotAllowed ["PUT"] ∧ "GET" ∉ ["PUT"] := by
  obtain ⟨-, -, reached, refused⟩ := @lookup_run String _
    [.openTable none .reject, .openRoot 0 "/x", .register 0 "GET" "{id}" "a" [],
      .register 0 "PUT" "/7/{op}" "b" [], .register 0 "GET" "/7" "c" []] 0 _ rfl "GET" "/x/7"
  obtain ⟨index, -, -, answered⟩ := reached _ rfl
  obtain ⟨first, earlier, params, -, -, own, -, resolved⟩ := answered _ (Or.inl rfl)
  exact ⟨_, _, earlier, params, rfl, rfl, rfl, resolved, own, rfl, refused "/x/7/go" _ rfl⟩

end Session

end RpcRoutes
