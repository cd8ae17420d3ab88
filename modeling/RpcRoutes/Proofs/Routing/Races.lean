import Mathlib.Data.List.Nodup
import RpcRoutes.Proofs.Routing.Accounts

/-!
# Racing registrations

Several calls may register routes at the same time, in tables over one registry. Each of them
takes two turns at what they share: it claims its key, and if the text was new, it inserts its
route. Between the two, other calls take theirs.

* `Race.step` gives a call its next turn, `Race.run` does so in the order of a schedule. A call
  that gets its two turns in a row registers its route as `Group.register` does
  (`Flight.advance_advance`).
* `Race.Advances` lists what a turn does (`Race.step_advances`).
* `Race.Sound` is what turns keep, and so schedules (`Race.Sound.run`): the texts that were won are
  distinct, were new, and are all that was claimed; those of them that landed are all that was
  mounted; and answers are true.
* `Race.finished_run`: with two turns for each call, all of them get their answers.
-/

namespace RpcRoutes

variable {H : Type}

/-- A call that registers a route at a place. -/
structure Call (H : Type) where
  place : GroupSlot H
  method : String
  pattern : String
  handler : H
  /-- The layers of the route alone. -/
  own : List (Middleware H)

/-- How far a call has come. -/
inductive Phase where
  | ready
  /-- The key is claimed, and the route is not yet in the table. -/
  | holding (key : RouteKey) (t : Template)
  | done (answer : Except RouteError Registration)

/-- How many turns a call needs at most from here on. -/
def Phase.rest : Phase → Nat
  | .ready => 2
  | .holding _ _ => 1
  | .done _ => 0

/-- A call under way. -/
structure Flight (H : Type) where
  call : Call H
  phase : Phase

namespace Call

def key (call : Call H) : RouteKey := call.place.group.fullKey call.method call.pattern

/-- The handler inside all of its layers. -/
def layered (call : Call H) : H :=
  Middleware.compose call.handler call.place.group.stack call.own

/-- The first turn: the key is claimed. -/
def claim [PatternEngine] (call : Call H) (s : Site H) : Site H × Phase :=
  match call.place.group.key call.method call.pattern with
  | .error e => (s, .done (.error e))
  | .ok key =>
    match Group.template key.pattern with
    | .error e => (s, .done (.error e))
    | .ok t =>
      match s.claim key with
      | (s, .error e) => (s, .done (.error e))
      | (s, .ok false) => (s, .done (.ok (.ignored key)))
      | (s, .ok true) => (s, .holding key t)

end Call

namespace Flight

def advance [PatternEngine] (flight : Flight H) (s : Site H) : Site H × Flight H :=
  match flight.phase with
  | .ready =>
    let (s, phase) := flight.call.claim s
    (s, { flight with phase := phase })
  | .holding key t =>
    (s.insert ⟨key.method, t, flight.call.layered⟩,
      { flight with phase := .done (.ok (.mounted key)) })
  | .done _ => (s, flight)

/-- Two turns in a row are a registration. -/
theorem advance_advance [PatternEngine] (call : Call H) (s : Site H) :
    (advance ⟨call, .ready⟩ s).2.advance (advance ⟨call, .ready⟩ s).1 =
      let (s, answer) :=
        call.place.group.register s call.method call.pattern call.handler call.own
      (s, ⟨call, .done answer⟩) := by
  simp only [advance, Call.claim, Group.register]
  cases call.place.group.key call.method call.pattern with
  | error e => rfl
  | ok key =>
      dsimp only
      cases Group.template key.pattern with
      | error e => rfl
      | ok t =>
          dsimp only
          rcases s.claim key with ⟨after, e | _ | _⟩ <;> rfl

end Flight

/-- Calls under way in a session. -/
structure Race (H : Type) where
  session : Session H
  flights : List (Flight H)

namespace Race

/-- All calls are ready. -/
def start (s : Session H) (calls : List (Call H)) : Race H := ⟨s, calls.map (⟨·, .ready⟩)⟩

/-- Gives the call of this number its next turn. -/
def step [PatternEngine] (race : Race H) (i : Nat) : Race H :=
  match race.flights[i]? with
  | none => race
  | some flight =>
    match race.session.site? flight.call.place.table with
    | none => race
    | some site =>
      let (site, later) := flight.advance site
      ⟨race.session.putSite flight.call.place.table site, race.flights.set i later⟩

/-- Gives calls their turns in the order of a schedule. -/
def run [PatternEngine] (race : Race H) (schedule : List Nat) : Race H := schedule.foldl step race

end Race

/-! ### One turn -/

/-- The answer to a duplicate. -/
def DuplicatePolicy.refusal (policy : DuplicatePolicy) (key : RouteKey) :
    Except RouteError Registration :=
  match policy with
  | .reject => .error (.duplicateRoute key)
  | .warn => .ok (.ignored key)

/-- The call has a method and a full pattern that compiles, and its table is over this registry. -/
structure Call.Proper [PatternEngine] (s : Session H) (registry : Nat) (call : Call H) : Prop where
  named : call.method ≠ ""
  compiles : Template.Compiles call.key.pattern
  shares : ∃ slot, s.tables[call.place.table]? = some slot ∧ slot.registry = registry

/-- The route of the call, with its compiled pattern. -/
def Call.route (call : Call H) (t : Template) : Route H := ⟨call.method, t, call.layered⟩

section Claim

variable [PatternEngine] {call : Call H} {s : Site H} {t : Template}

theorem Call.key_route (compiled : Template.compile? call.key.pattern = some t) :
    (call.route t).key = call.key := Route.key_of_compile? compiled

theorem Call.claim_eq (named : call.method ≠ "")
    (compiled : Template.compile? call.key.pattern = some t) :
    call.claim s =
      if s.registry.Holds call.key then
        (s.refused call.key, .done (s.table.policy.refusal call.key))
      else ({ s with registry := (s.registry.claim call.key).1 }, .holding call.key t) := by
  have found : call.place.group.key call.method call.pattern = .ok call.key := if_neg named
  have template : Group.template call.key.pattern = .ok t := by rw [Group.template, compiled]
  by_cases held : s.registry.Holds call.key
  · rw [if_pos held]
    cases policy : s.table.policy with
    | reject => simp [claim, found, template, Site.claim_of_reject held policy,
        DuplicatePolicy.refusal]
    | warn => simp [claim, found, template, Site.claim_of_warn held policy,
        DuplicatePolicy.refusal]
  · rw [if_neg held]
    simp [claim, found, template, Site.claim_of_new held]

end Claim

namespace Race

/-- What a turn of a call does, when the registry is the one that all calls share. -/
inductive Advances [PatternEngine] (registry : Nat) (race : Race H) (i : Nat) : Race H → Prop where
  /-- There is no such call, or it has its answer. -/
  | idle
      (ended : ∀ flight, race.flights[i]? = some flight → ∃ answer, flight.phase = .done answer) :
      Advances registry race i race
  | refused {call : Call H} {slot : TableSlot H} {r : Registry}
      (turn : race.flights[i]? = some ⟨call, .ready⟩)
      (table : race.session.tables[call.place.table]? = some slot)
      (found : race.session.registries[registry]? = some r) (held : r.Holds call.key)
      (counters : Counters) :
      Advances registry race i
        ⟨{ race.session with counters := counters },
          race.flights.set i ⟨call, .done (slot.table.policy.refusal call.key)⟩⟩
  | claimed {call : Call H} {r : Registry} {t : Template}
      (turn : race.flights[i]? = some ⟨call, .ready⟩)
      (found : race.session.registries[registry]? = some r) (new : ¬ r.Holds call.key)
      (compiled : Template.compile? call.key.pattern = some t) :
      Advances registry race i
        ⟨{ race.session with
            registries := race.session.registries.set registry (r.claim call.key).1 },
          race.flights.set i ⟨call, .holding call.key t⟩⟩
  | landed {call : Call H} {slot : TableSlot H} {t : Template}
      (turn : race.flights[i]? = some ⟨call, .holding call.key t⟩)
      (table : race.session.tables[call.place.table]? = some slot)
      (shares : slot.registry = registry)
      (compiled : Template.compile? call.key.pattern = some t) (counters : Counters) :
      Advances registry race i
        ⟨{ race.session with
            tables := race.session.tables.set call.place.table
              { slot with table := slot.table.insert (call.route t) }
            counters := counters },
          race.flights.set i ⟨call, .done (.ok (.mounted call.key))⟩⟩

end Race

/-! ### What turns keep -/

/-- What a call has come to is true of the session: what it holds is its own key and template, and
if it was answered that its route is mounted, the route stands in its table, and else its text
is claimed and the answer is that of its table's policy. -/
inductive Flight.Honest [PatternEngine] (s : Session H) (registry : Nat) : Flight H → Prop where
  | ready (call : Call H) : Honest s registry ⟨call, .ready⟩
  | holding {call : Call H} {t : Template}
      (compiled : Template.compile? call.key.pattern = some t) :
      Honest s registry ⟨call, .holding call.key t⟩
  | mounted {call : Call H} {slot : TableSlot H} {t : Template}
      (compiled : Template.compile? call.key.pattern = some t)
      (table : s.tables[call.place.table]? = some slot)
      (stands : call.route t ∈ slot.table.routes) :
      Honest s registry ⟨call, .done (.ok (.mounted call.key))⟩
  | refused {call : Call H} {slot : TableSlot H} {r : Registry}
      (table : s.tables[call.place.table]? = some slot)
      (found : s.registries[registry]? = some r) (held : r.Holds call.key) :
      Honest s registry ⟨call, .done (slot.table.policy.refusal call.key)⟩

/-- It stays true when tables and the registry get more. -/
theorem Flight.Honest.later [PatternEngine] {s after : Session H} {registry : Nat}
    {flight : Flight H} (honest : flight.Honest s registry) (kept : s.Extends after)
    (grows : ∀ r, s.registries[registry]? = some r →
      ∃ r', after.registries[registry]? = some r' ∧ ∀ text ∈ r.texts, text ∈ r'.texts) :
    flight.Honest after registry := by
  cases honest with
  | ready call => exact .ready call
  | holding compiled => exact .holding compiled
  | mounted compiled table stands =>
      obtain ⟨slot, table, _, _, more⟩ := kept _ _ table
      exact .mounted compiled table (more.subset stands)
  | refused table found held =>
      obtain ⟨slot, table, _, policy_eq, _⟩ := kept _ _ table
      obtain ⟨r, found, more⟩ := grows _ found
      rw [← policy_eq]
      exact .refused table found (more _ held)

/-- The text that a call has won, if it has. -/
def Flight.won (flight : Flight H) : List String :=
  match flight.phase with
  | .holding key _ => [key.text]
  | .done (.ok (.mounted key)) => [key.text]
  | _ => []

/-- The text that a call has won and mounted, if it has. -/
def Flight.landed (flight : Flight H) : List String :=
  match flight.phase with
  | .done (.ok (.mounted key)) => [key.text]
  | _ => []

namespace Flight

variable {call : Call H} {policy : DuplicatePolicy} {key : RouteKey}

theorem won_refused : won ⟨call, .done (policy.refusal key)⟩ = [] := by
  cases policy <;> rfl

theorem landed_refused : landed ⟨call, .done (policy.refusal key)⟩ = [] := by
  cases policy <;> rfl

end Flight

namespace Race

def won (race : Race H) : List String := race.flights.flatMap Flight.won

def landed (race : Race H) : List String := race.flights.flatMap Flight.landed

/-- A race of these calls that began in a session, where the registry that they share held the
texts of `r₀`. A text is claimed from the moment it is won, but mounted only when it has landed:
between the two turns of its call the registry is ahead of the tables. -/
structure Sound [PatternEngine] (s : Session H) (registry : Nat) (r₀ : Registry)
    (calls : List (Call H)) (race : Race H) : Prop where
  calls_eq : race.flights.map Flight.call = calls
  kept : s.Extends race.session
  claimed : ∃ r, race.session.registries[registry]? = some r ∧
    ∀ text, text ∈ r.texts ↔ text ∈ r₀.texts ∨ text ∈ race.won
  distinct : race.won.Nodup
  new : ∀ text ∈ race.won, text ∉ r₀.texts
  mounted : (race.session.mountedTexts registry).Perm (s.mountedTexts registry ++ race.landed)
  honest : ∀ flight ∈ race.flights, flight.Honest race.session registry

section Step

variable [PatternEngine] {s : Session H} {registry : Nat} {r₀ : Registry} {calls : List (Call H)}
  {race later : Race H} {i : Nat}

theorem Sound.mem_calls (sound : race.Sound s registry r₀ calls) {flight : Flight H}
    (turn : race.flights[i]? = some flight) : flight.call ∈ calls :=
  sound.calls_eq ▸ List.mem_map_of_mem (List.mem_of_getElem? turn)

/-- A call has the table that it had at the beginning, and that is over the shared registry. -/
theorem Sound.table (sound : race.Sound s registry r₀ calls)
    (proper : ∀ call ∈ calls, call.Proper s registry) {flight : Flight H}
    (turn : race.flights[i]? = some flight) :
    ∃ slot, race.session.tables[flight.call.place.table]? = some slot ∧
      slot.registry = registry := by
  obtain ⟨slot, table, shares⟩ := (proper _ (sound.mem_calls turn)).shares
  obtain ⟨slot', table', registry_eq, _⟩ := sound.kept _ slot table
  exact ⟨slot', table', registry_eq.trans shares⟩

/-- Every turn does one of the listed things. -/
theorem step_advances (sound : race.Sound s registry r₀ calls)
    (proper : ∀ call ∈ calls, call.Proper s registry) (i : Nat) :
    race.Advances registry i (race.step i) := by
  rw [step]
  cases turn : race.flights[i]? with
  | none => exact .idle (by simp [turn])
  | some flight =>
      obtain ⟨slot, table, rfl⟩ := sound.table proper turn
      obtain ⟨r, found, _⟩ := sound.claimed
      have site : race.session.site? flight.call.place.table =
          some ⟨r, slot.table, race.session.counters⟩ := by
        simp [Session.site?, table, found]
      have mem := sound.mem_calls turn
      have same_registry : race.session.registries.set slot.registry r = race.session.registries :=
        (Session.set_eq_self_iff found).mpr rfl
      have same_table :
          race.session.tables.set flight.call.place.table slot = race.session.tables :=
        (Session.set_eq_self_iff table).mpr rfl
      have same_flight : race.flights.set i flight = race.flights :=
        (Session.set_eq_self_iff turn).mpr rfl
      simp only [site]
      -- What is left to do is read off what the call has come to.
      cases sound.honest flight (List.mem_of_getElem? turn) with
      | ready call =>
          obtain ⟨t, compiled⟩ := Option.isSome_iff_exists.mp (proper _ mem).compiles
          simp only [Flight.advance, Call.claim_eq (proper _ mem).named compiled]
          by_cases held : r.Holds call.key
          · simp only [if_pos held, Site.refused, Session.putSite, table, same_registry, same_table]
            exact .refused turn table found held _
          · simp only [if_neg held, Session.putSite, table, same_table]
            exact .claimed turn found held compiled
      | holding compiled =>
          simp only [Flight.advance, Site.insert, Session.putSite, table, same_registry]
          exact .landed turn table rfl compiled _
      | mounted _ _ _ =>
          simp only [Flight.advance, Session.putSite, table, same_registry, same_table, same_flight]
          exact .idle (by simp [turn])
      | refused _ _ _ =>
          simp only [Flight.advance, Session.putSite, table, same_registry, same_table, same_flight]
          exact .idle (by simp [turn])

theorem sound_start (found : s.registries[registry]? = some r₀) :
    (start s calls).Sound s registry r₀ calls := by
  have none_won : (start s calls).won = [] := by
    simp [won, start, List.flatMap_map, Flight.won]
  have none_landed : (start s calls).landed = [] := by
    simp [landed, start, List.flatMap_map, Flight.landed]
  refine ⟨?_, Session.extends_of_tables_eq rfl, ⟨r₀, found, ?_⟩, ?_, ?_, ?_, ?_⟩
  · simp [start, Function.comp_def]
  · simp [none_won]
  · simp [none_won]
  · simp [none_won]
  · rw [none_landed, List.append_nil]
    exact List.Perm.refl _
  · intro flight mem
    obtain ⟨call, _, rfl⟩ := List.mem_map.mp mem
    exact .ready call

/-- A call takes a turn in which it wins and lands so many texts, and which claims what it wins and
mounts what it lands. -/
theorem Sound.turn (sound : race.Sound s registry r₀ calls) {after : Session H} {call : Call H}
    {phase phase' : Phase} {won landed : List String}
    (turn : race.flights[i]? = some ⟨call, phase⟩)
    (won_eq : Flight.won ⟨call, phase'⟩ = Flight.won ⟨call, phase⟩ ++ won)
    (landed_eq : Flight.landed ⟨call, phase'⟩ = Flight.landed ⟨call, phase⟩ ++ landed)
    (kept : race.session.Extends after)
    (claimed : ∀ r, race.session.registries[registry]? = some r →
      (won.Nodup ∧ ∀ text ∈ won, text ∉ r.texts) ∧
      ∃ r', after.registries[registry]? = some r' ∧
        ∀ text, text ∈ r'.texts ↔ text ∈ r.texts ∨ text ∈ won)
    (mounted : (after.mountedTexts registry).Perm (race.session.mountedTexts registry ++ landed))
    (honest : Flight.Honest after registry ⟨call, phase'⟩) :
    Sound s registry r₀ calls ⟨after, race.flights.set i ⟨call, phase'⟩⟩ := by
  obtain ⟨r, found, texts_iff⟩ := sound.claimed
  obtain ⟨⟨won_distinct, won_new⟩, r', found', texts_iff'⟩ := claimed r found
  have won_perm : (Race.won ⟨after, race.flights.set i ⟨call, phase'⟩⟩).Perm (race.won ++ won) :=
    Session.flatMap_set_perm turn won_eq
  have landed_perm : (Race.landed ⟨after, race.flights.set i ⟨call, phase'⟩⟩).Perm
      (race.landed ++ landed) := Session.flatMap_set_perm turn landed_eq
  refine ⟨?_, sound.kept.trans kept, ⟨r', found', ?_⟩, ?_, ?_, ?_, ?_⟩
  · rw [List.map_set, ← sound.calls_eq]
    exact (Session.set_eq_self_iff (by rw [List.getElem?_map, turn]; rfl)).mpr rfl
  · intro text
    rw [texts_iff', texts_iff, won_perm.mem_iff, List.mem_append, or_assoc]
  · rw [won_perm.nodup_iff]
    refine List.nodup_append.mpr ⟨sound.distinct, won_distinct, ?_⟩
    rintro text old _ mem rfl
    exact won_new text mem ((texts_iff text).mpr (Or.inr old))
  · intro text mem
    rcases List.mem_append.mp (won_perm.mem_iff.mp mem) with old | mem
    · exact sound.new text old
    · exact fun held => won_new text mem ((texts_iff text).mpr (Or.inl held))
  · refine (mounted.trans (sound.mounted.append_right landed)).trans ?_
    rw [List.append_assoc]
    exact landed_perm.symm.append_left _
  · intro flight mem
    rcases List.mem_or_eq_of_mem_set mem with old | rfl
    · refine (sound.honest flight old).later kept ?_
      intro r₁ found₁
      obtain rfl := Option.some.inj (found.symm.trans found₁)
      exact ⟨r', found', fun text mem => (texts_iff' text).mpr (Or.inl mem)⟩
    · exact honest

/-- Every turn keeps what a race is. -/
theorem Sound.advance (sound : race.Sound s registry r₀ calls)
    (advances : race.Advances registry i later) : later.Sound s registry r₀ calls := by
  cases advances with
  | idle => exact sound
  | @refused call slot r turn table found held counters =>
      -- Only a counter changes.
      refine sound.turn turn Flight.won_refused Flight.landed_refused
        (Session.extends_of_tables_eq rfl) ?_ ?_ (.refused table found held)
      · intro r found
        exact ⟨⟨List.nodup_nil, nofun⟩, r, found, by simp⟩
      · rw [List.append_nil]
        exact List.Perm.refl _
  | @claimed call r t turn found new compiled =>
      refine sound.turn turn (List.nil_append [call.key.text]).symm rfl
        (Session.extends_of_tables_eq rfl) ?_ ?_ (.holding compiled)
      · intro r' found'
        obtain rfl := Option.some.inj (found.symm.trans found')
        have bound := (List.getElem?_eq_some_iff.mp found).1
        refine ⟨⟨List.nodup_cons.mpr ⟨List.not_mem_nil, List.nodup_nil⟩,
          List.forall_mem_singleton.mpr new⟩, _, List.getElem?_set_self bound, ?_⟩
        intro text
        rw [Registry.claim_of_not_holds new, List.mem_cons, List.mem_singleton, or_comm]
      · rw [List.append_nil]
        exact List.Perm.refl _
  | @landed call slot t turn table shares compiled counters =>
      -- The text was won in the turn before; now it is mounted, too.
      have bound := (List.getElem?_eq_some_iff.mp table).1
      refine sound.turn turn (List.append_nil [call.key.text]).symm
        (List.nil_append [call.key.text]).symm
        (Session.extends_set_table table rfl rfl (List.prefix_append _ _)) ?_ ?_
        (.mounted compiled (List.getElem?_set_self bound) ?_)
      · intro r found
        exact ⟨⟨List.nodup_nil, nofun⟩, r, found, by simp⟩
      · refine Session.flatMap_set_perm table ?_
        simp [shares, Call.key_route compiled]
      · exact List.mem_append_right _ (List.mem_singleton_self _)

end Step

/-! ### Runs -/

/-- The call of this number has won this text. -/
def Wins (race : Race H) (i : Nat) (text : String) : Prop :=
  ∃ flight, race.flights[i]? = some flight ∧ text ∈ flight.won

/-- How many turns the call of this number still needs at most. -/
def rest (race : Race H) (i : Nat) : Nat :=
  match race.flights[i]? with
  | none => 0
  | some flight => flight.phase.rest

/-- All calls have their answers. -/
def Finished (race : Race H) : Prop :=
  ∀ flight ∈ race.flights, ∃ answer, flight.phase = .done answer

section Run

variable [PatternEngine] {s : Session H} {registry : Nat} {r₀ : Registry} {calls : List (Call H)}
  {race later : Race H} {i j : Nat} {text : String}

theorem run_append {first second : List Nat} :
    race.run (first ++ second) = (race.run first).run second := List.foldl_append

omit [PatternEngine] in
theorem mem_won : text ∈ race.won ↔ ∃ i, race.Wins i text := by
  rw [won, List.mem_flatMap]
  constructor
  · rintro ⟨flight, mem, mem'⟩
    obtain ⟨i, here⟩ := List.getElem?_of_mem mem
    exact ⟨i, flight, here, mem'⟩
  · rintro ⟨i, flight, here, mem'⟩
    exact ⟨flight, List.mem_of_getElem? here, mem'⟩

omit [PatternEngine] in
theorem wins_set {after : Session H} {flight flight' : Flight H}
    (turn : race.flights[i]? = some flight) (kept : flight.won ⊆ flight'.won)
    (wins : race.Wins j text) : Wins ⟨after, race.flights.set i flight'⟩ j text := by
  obtain ⟨other, here, mem⟩ := wins
  by_cases same : i = j
  · subst same
    obtain rfl := Option.some.inj (turn.symm.trans here)
    exact ⟨flight', List.getElem?_set_self (List.getElem?_eq_some_iff.mp turn).1, kept mem⟩
  · exact ⟨other, (List.getElem?_set_ne same).trans here, mem⟩

/-- What a call has won stays won. -/
theorem Advances.wins (advances : race.Advances registry i later) (wins : race.Wins j text) :
    later.Wins j text := by
  cases advances with
  | idle => exact wins
  | refused turn => exact wins_set turn (List.nil_subset _) wins
  | claimed turn => exact wins_set turn (List.nil_subset _) wins
  | landed turn => exact wins_set turn (List.Subset.refl _) wins

omit [PatternEngine] in
theorem rest_set {after : Session H} {flight flight' : Flight H}
    (turn : race.flights[i]? = some flight) :
    rest ⟨after, race.flights.set i flight'⟩ j =
      if i = j then flight'.phase.rest else race.rest j := by
  by_cases same : i = j
  · subst same
    simp [rest, List.getElem?_set_self (List.getElem?_eq_some_iff.mp turn).1]
  · simp [rest, same]

/-- A turn of a call that has no answer yet leaves it one turn less, and every other call what it
needs. -/
theorem Advances.rest_le (advances : race.Advances registry i later) (j : Nat) :
    later.rest j ≤ race.rest j - if i = j then 1 else 0 := by
  cases advances with
  | idle ended =>
      by_cases same : i = j
      · subst same
        rw [rest]
        cases turn : race.flights[i]? with
        | none => exact Nat.zero_le _
        | some flight =>
            obtain ⟨answer, done⟩ := ended flight turn
            simp [done, Phase.rest]
      · simp [same]
  | refused turn | claimed turn | landed turn =>
      rw [rest_set turn]
      by_cases same : i = j
      · subst same
        simp [rest, turn, Phase.rest]
      · simp [same]

/-- A race stays a race, whatever the schedule. -/
theorem Sound.run (sound : race.Sound s registry r₀ calls)
    (proper : ∀ call ∈ calls, call.Proper s registry) (schedule : List Nat) :
    (race.run schedule).Sound s registry r₀ calls := by
  induction schedule generalizing race with
  | nil => exact sound
  | cons i schedule ih => exact ih (sound.advance (step_advances sound proper i))

theorem Sound.wins_run (sound : race.Sound s registry r₀ calls)
    (proper : ∀ call ∈ calls, call.Proper s registry) (schedule : List Nat)
    (wins : race.Wins i text) : (race.run schedule).Wins i text := by
  induction schedule generalizing race with
  | nil => exact wins
  | cons j schedule ih =>
      have advances := step_advances sound proper j
      exact ih (sound.advance advances) (advances.wins wins)

theorem Sound.rest_run_le (sound : race.Sound s registry r₀ calls)
    (proper : ∀ call ∈ calls, call.Proper s registry) (schedule : List Nat) (i : Nat) :
    (race.run schedule).rest i ≤ race.rest i - schedule.count i := by
  induction schedule generalizing race with
  | nil => exact Nat.le_refl _
  | cons j schedule ih =>
      have advances := step_advances sound proper j
      have first := advances.rest_le i
      have others := ih (sound.advance advances)
      rw [List.count_cons]
      simp only [beq_iff_eq]
      rw [Race.run, List.foldl_cons, ← Race.run]
      omega

/-- With two turns for each, all calls finish. -/
theorem finished_run (found : s.registries[registry]? = some r₀)
    (proper : ∀ call ∈ calls, call.Proper s registry) {schedule : List Nat}
    (turns : ∀ i < calls.length, 2 ≤ schedule.count i) :
    ((start s calls).run schedule).Finished := by
  intro flight mem
  obtain ⟨i, bound, rfl⟩ := List.getElem_of_mem mem
  have sound := sound_start found |>.run proper schedule
  have known : i < calls.length := by
    rwa [← sound.calls_eq, List.length_map]
  have needed := (sound_start found).rest_run_le proper schedule i
  have at_start : (start s calls).rest i = 2 := by
    simp [rest, start, List.getElem?_eq_getElem known, Phase.rest]
  have enough := turns i known
  have none_left : ((start s calls).run schedule).rest i = 0 := by omega
  rw [rest, List.getElem?_eq_getElem bound] at none_left
  cases phase : ((start s calls).run schedule).flights[i].phase with
  | done answer => exact ⟨answer, rfl⟩
  | _ => simp [phase, Phase.rest] at none_left

/-- A call can only win its own text. -/
theorem Sound.call_of_wins (sound : race.Sound s registry r₀ calls) (wins : race.Wins i text) :
    ∃ call, calls[i]? = some call ∧ call.key.text = text := by
  obtain ⟨flight, here, mem⟩ := wins
  have known : calls[i]? = some flight.call := by
    rw [← sound.calls_eq, List.getElem?_map, here]
    rfl
  cases sound.honest flight (List.mem_of_getElem? here) with
  | ready call => cases mem
  | holding _ => exact ⟨_, known, (List.mem_singleton.mp mem).symm⟩
  | mounted _ _ _ => exact ⟨_, known, (List.mem_singleton.mp mem).symm⟩
  | @refused call slot r _ _ _ =>
      rw [Flight.won_refused] at mem
      cases mem

/-- No text is won by two calls. -/
theorem Sound.eq_of_wins (sound : race.Sound s registry r₀ calls) (first : race.Wins i text)
    (second : race.Wins j text) : i = j := by
  have apart {a b : Nat} (before : a < b) (here : race.Wins a text) : ¬ race.Wins b text := by
    rintro ⟨other, there, mem'⟩
    obtain ⟨flight, here, mem⟩ := here
    obtain ⟨bound, rfl⟩ := List.getElem?_eq_some_iff.mp here
    obtain ⟨bound', rfl⟩ := List.getElem?_eq_some_iff.mp there
    have disjoint := (List.nodup_flatMap.mp sound.distinct).2
    exact List.pairwise_iff_getElem.mp disjoint a b bound bound' before mem mem'
  rcases Nat.lt_trichotomy i j with before | same | after
  · exact absurd second (apart before first)
  · exact same
  · exact absurd first (apart after second)

end Run

end Race

end RpcRoutes
