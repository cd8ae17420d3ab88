import Mathlib.Data.List.Nodup
import Mathlib.Logic.ExistsUnique
import RpcRoutes.Program.Engine
import RpcRoutes.Proofs.Routing.Races

/-!
# What races leave behind

Calls that race for a text all get an answer, and only the first of them mounts its route. What
they leave behind depends on the order of their turns only in which of them that is.

* `Race.Settled` says what is left when all calls have their answers.
* `Race.Sound.mem_won_iff`: the texts that were won are then those of the calls that were new.
* `Race.settled_run`: in every schedule no text is won twice, and a race that is finished is
  settled.
-/

namespace RpcRoutes

variable {H : Type}

namespace Race

/-- The answer of the call of this number, if it has one. -/
def answer? (race : Race H) (i : Nat) : Option (Except RouteError Registration) :=
  match race.flights[i]? with
  | some ⟨_, .done answer⟩ => some answer
  | _ => none

/-- What is left when all calls have their answers. The calls began in a session, where the
registry that they share held the texts of `r₀`. -/
structure Settled [PatternEngine] (s : Session H) (registry : Nat) (r₀ : Registry)
    (calls : List (Call H)) (race : Race H) : Prop where
  /-- A text that was not claimed before is mounted by exactly one of the calls for it. -/
  one : ∀ text, text ∉ r₀.texts → (∃ call ∈ calls, call.key.text = text) →
    ∃! i, ∃ call, calls[i]? = some call ∧ call.key.text = text ∧
      race.answer? i = some (.ok (.mounted call.key))
  /-- A text that was claimed before is mounted by no call. -/
  nobody : ∀ i call, calls[i]? = some call → call.key.text ∈ r₀.texts →
    race.answer? i ≠ some (.ok (.mounted call.key))
  /-- Every call is answered that its route is mounted, and then the route stands in its table,
  where no other has its text; or it gets the answer that its table has for duplicates. -/
  answered : ∀ i call slot, calls[i]? = some call →
    s.tables[call.place.table]? = some slot →
    (race.answer? i = some (.ok (.mounted call.key)) ∧
      ∃ t slot', Template.compile? call.key.pattern = some t ∧
        race.session.tables[call.place.table]? = some slot' ∧
        call.route t ∈ slot'.table.routes ∧
        (slot'.table.keys.map RouteKey.text).count call.key.text = 1) ∨
    race.answer? i = some (slot.table.policy.refusal call.key)
  /-- Over the registry is mounted, once each, what was mounted there before and every text of a
  call that was not claimed before. -/
  mounted : (race.session.mountedTexts registry).Nodup ∧
    ∀ text, text ∈ race.session.mountedTexts registry ↔
      text ∈ s.mountedTexts registry ∨ text ∉ r₀.texts ∧ ∃ call ∈ calls, call.key.text = text
  /-- The registry holds what it held before and the texts of all calls. -/
  claimed : ∃ r, race.session.registries[registry]? = some r ∧
    ∀ text, text ∈ r.texts ↔ text ∈ r₀.texts ∨ ∃ call ∈ calls, call.key.text = text
  /-- All tables keep the routes that they had. -/
  kept : s.Extends race.session

section Settled

variable {s : Session H} {registry : Nat} {r₀ : Registry} {calls : List (Call H)}
  {race : Race H} {i : Nat} {text : String} {call : Call H}

/-- In the end a call of the race has either mounted its route or met a duplicate. -/
theorem Sound.outcome [PatternEngine] (sound : race.Sound s registry r₀ calls)
    (finished : race.Finished) (known : calls[i]? = some call) : ∃ slot,
      race.session.tables[call.place.table]? = some slot ∧
      ((∃ t, Template.compile? call.key.pattern = some t ∧ call.route t ∈ slot.table.routes ∧
          race.answer? i = some (.ok (.mounted call.key)) ∧ race.Wins i call.key.text) ∨
        (∃ r, race.session.registries[registry]? = some r ∧ r.Holds call.key ∧
          race.answer? i = some (slot.table.policy.refusal call.key) ∧
          ∀ text, ¬ race.Wins i text)) := by
  rw [← sound.calls_eq, List.getElem?_map] at known
  obtain ⟨flight, here, rfl⟩ := Option.map_eq_some_iff.mp known
  have mem := List.mem_of_getElem? here
  obtain ⟨answer, done⟩ := finished flight mem
  cases sound.honest flight mem with
  | ready call => cases done
  | holding _ => cases done
  | mounted compiled table stands =>
      exact ⟨_, table, Or.inl ⟨_, compiled, stands, by rw [answer?, here],
        _, here, List.mem_singleton_self _⟩⟩
  | refused table found held =>
      refine ⟨_, table, Or.inr ⟨_, found, held, by rw [answer?, here], ?_⟩⟩
      rintro text ⟨other, there, mem⟩
      obtain rfl := Option.some.inj (here.symm.trans there)
      rw [Flight.won_refused] at mem
      cases mem

/-- In the end all texts that were won are mounted. -/
theorem Finished.landed_eq (finished : race.Finished) : race.landed = race.won := by
  refine List.flatMap_congr fun flight mem => ?_
  obtain ⟨answer, done⟩ := finished flight mem
  simp only [Flight.landed, Flight.won, done]
  cases answer with
  | error e => rfl
  | ok registration => cases registration <;> rfl

/-- In the end the texts that were won are the new ones among those of the calls. -/
theorem Sound.mem_won_iff [PatternEngine] (sound : race.Sound s registry r₀ calls)
    (finished : race.Finished) :
    text ∈ race.won ↔ text ∉ r₀.texts ∧ ∃ call ∈ calls, call.key.text = text := by
  constructor
  · intro mem
    obtain ⟨i, wins⟩ := mem_won.mp mem
    obtain ⟨call, known, text_eq⟩ := sound.call_of_wins wins
    exact ⟨sound.new text mem, call, List.mem_of_getElem? known, text_eq⟩
  · rintro ⟨new, call, mem, rfl⟩
    obtain ⟨i, known⟩ := List.getElem?_of_mem mem
    obtain ⟨slot, _, ⟨_, _, _, _, wins⟩ | ⟨r, found, held, _, _⟩⟩ := sound.outcome finished known
    · exact mem_won.mpr ⟨i, wins⟩
    · obtain ⟨r', found', texts_iff⟩ := sound.claimed
      obtain rfl := Option.some.inj (found.symm.trans found')
      exact ((texts_iff _).mp held).resolve_left new

/-- A call that was answered that its route is mounted has won its text. -/
theorem wins_of_answer? {key : RouteKey} (answered : race.answer? i = some (.ok (.mounted key))) :
    race.Wins i key.text := by
  rw [answer?] at answered
  split at answered
  next call answer here =>
    obtain rfl := Option.some.inj answered
    exact ⟨_, here, List.mem_singleton_self _⟩
  next => cases answered

/-- When all calls of a race have their answers, it is settled. -/
theorem Sound.settled [PatternEngine] (sound : race.Sound s registry r₀ calls)
    (finished : race.Finished) (distinct : (s.mountedTexts registry).Nodup)
    (claimed : ∀ text ∈ s.mountedTexts registry, text ∈ r₀.texts)
    (proper : ∀ call ∈ calls, call.Proper s registry) :
    race.Settled s registry r₀ calls := by
  have won_iff (text : String) : text ∈ race.won ↔ _ := sound.mem_won_iff finished
  have mounted := sound.mounted
  rw [finished.landed_eq] at mounted
  have nodup : (race.session.mountedTexts registry).Nodup := by
    rw [mounted.nodup_iff]
    refine List.nodup_append.mpr ⟨distinct, sound.distinct, ?_⟩
    rintro text old _ mem rfl
    exact sound.new text mem (claimed text old)
  refine ⟨?_, ?_, ?_, ⟨nodup, ?_⟩, ?_, sound.kept⟩
  · intro text new some_call
    obtain ⟨i, wins⟩ := mem_won.mp ((won_iff text).mpr ⟨new, some_call⟩)
    obtain ⟨call, known, rfl⟩ := sound.call_of_wins wins
    refine ⟨i, ⟨call, known, rfl, ?_⟩, ?_⟩
    · obtain ⟨slot, _, ⟨_, _, _, answer, _⟩ | ⟨_, _, _, _, lost⟩⟩ := sound.outcome finished known
      · exact answer
      · exact absurd wins (lost _)
    · rintro j ⟨other, _, text_eq, answer⟩
      exact sound.eq_of_wins (text_eq ▸ wins_of_answer? answer) wins
  · intro i call known held answer
    exact sound.new _ (mem_won.mpr ⟨i, wins_of_answer? answer⟩) held
  · intro i call slot known table
    obtain ⟨slot', table', registry_eq, policy_eq, _⟩ := sound.kept _ _ table
    obtain ⟨slot'', table'', outcome⟩ := sound.outcome finished known
    obtain rfl := Option.some.inj (table'.symm.trans table'')
    rcases outcome with ⟨t, compiled, stands, answer, _⟩ | ⟨_, _, _, answer, _⟩
    · obtain ⟨old, there, shares⟩ := (proper call (List.mem_of_getElem? known)).shares
      obtain rfl := Option.some.inj (table.symm.trans there)
      refine Or.inl ⟨answer, t, slot', compiled, table', stands, ?_⟩
      -- The texts of a single table are among those over the registry, which are distinct.
      have here := (List.nodup_flatMap.mp nodup).1 slot' (List.mem_of_getElem? table')
      rw [if_pos (registry_eq.trans shares)] at here
      have mem : call.key.text ∈ slot'.table.keys.map RouteKey.text := by
        rw [← Call.key_route compiled]
        exact List.mem_map_of_mem (List.mem_map_of_mem stands)
      exact List.count_eq_one_of_mem here mem
    · exact Or.inr (policy_eq ▸ answer)
  · intro text
    rw [mounted.mem_iff, List.mem_append, won_iff]
  · obtain ⟨r, found, texts_iff⟩ := sound.claimed
    refine ⟨r, found, fun text => ?_⟩
    rw [texts_iff, won_iff]
    by_cases held : text ∈ r₀.texts <;> simp [held]

end Settled

/-- Calls register routes in tables over one registry, in a session that some actions led to.
Whatever the schedule, no text is won by two calls, be it at different times. With two turns for
each, all calls get their answers; and when they have them, the race is settled. What is then
mounted and claimed is told without the schedule. -/
theorem settled_run [PatternEngine] (actions : List (Action H)) (registry : Nat)
    (calls : List (Call H))
    {r₀ : Registry} (found : (Session.run actions).registries[registry]? = some r₀)
    (proper : ∀ call ∈ calls, call.Proper (Session.run actions) registry) :
    (∀ (first second : List Nat) (i j : Nat) (text : String),
      ((start (Session.run actions) calls).run first).Wins i text →
      ((start (Session.run actions) calls).run (first ++ second)).Wins j text → i = j) ∧
    (∀ schedule : List Nat, (∀ i < calls.length, 2 ≤ schedule.count i) →
      ((start (Session.run actions) calls).run schedule).Finished) ∧
    ∀ schedule : List Nat, ((start (Session.run actions) calls).run schedule).Finished →
      ((start (Session.run actions) calls).run schedule).Settled (Session.run actions) registry r₀
        calls := by
  have sound : (start (Session.run actions) calls).Sound _ registry r₀ calls := sound_start found
  refine ⟨?_, fun schedule => finished_run found proper, ?_⟩
  · intro first second i j text wins wins'
    rw [run_append] at wins'
    have later := (sound.run proper first).wins_run proper second wins
    exact ((sound.run proper first).run proper second).eq_of_wins later wins'
  · intro schedule finished
    have accounts := (Session.sound_runFrom Session.sound_empty actions).accounted registry r₀ found
    exact (sound.run proper schedule).settled finished accounts.distinct accounts.claimed proper

/-- A strict and a lenient table over one registry: the call for the strict one comes second and
is rejected. -/
theorem settled_run_shared :
    let s : Session String :=
      .run [.openRegistry, .openTable (some 0) .reject, .openTable (some 0) .warn]
    let calls : List (Call String) :=
      [⟨⟨0, .root ""⟩, "GET", "/x", "a", []⟩, ⟨⟨1, .root ""⟩, "GET", "x", "b", []⟩,
        ⟨⟨1, .root ""⟩, "POST", "/x", "c", []⟩]
    let race := (start s calls).run [1, 0, 2, 1, 2, 0]
    race.Settled s 0 .empty calls ∧
      race.answer? 0 = some (.error (.duplicateRoute ⟨"GET", "/x"⟩)) ∧
      race.answer? 1 = some (.ok (.mounted ⟨"GET", "/x"⟩)) := by
  intro s calls race
  have proper : ∀ call ∈ calls, call.Proper s 0 := by
    simp only [calls, List.forall_mem_cons]
    exact ⟨⟨by decide, by decide, _, rfl, rfl⟩, ⟨by decide, by decide, _, rfl, rfl⟩,
      ⟨by decide, by decide, _, rfl, rfl⟩, nofun⟩
  obtain ⟨_, finishes, settles⟩ :=
    settled_run _ 0 calls (rfl : s.registries[0]? = some .empty) proper
  refine ⟨settles _ (finishes _ (by decide)), ?_, ?_⟩
  · unfold race calls s
    cbv
  · unfold race calls s
    cbv

end Race

end RpcRoutes
