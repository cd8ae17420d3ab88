import Mathlib.Data.List.Nodup
import RpcRoutes.Proofs.Routing.Sessions

/-!
# Accounts of registries and counters

What the registries and the counters of a run say about the mounted routes.

* `Session.Sound` is the invariant: the texts that are mounted over a registry are distinct and
  claimed in it, a registry holds one text for each of them and one for each direct claim that
  succeeded, every route is well-formed, and the counter of mounted routes agrees with the tables.
* `Session.Moves.sound` keeps it through one change, `Session.sound_runFrom` through a run.
* `Session.accounts_run` states it for every run from nothing.
-/

namespace RpcRoutes

variable {H : Type}

namespace Session

/-- The texts of the routes that are mounted in the tables over a registry. -/
def mountedTexts (s : Session H) (registry : Nat) : List String :=
  s.tables.flatMap fun slot =>
    if slot.registry = registry then slot.table.keys.map RouteKey.text else []

def routes (s : Session H) : List (Route H) := s.tables.flatMap fun slot => slot.table.routes

/-- How many direct claims in a registry succeed among actions. -/
def claimsFrom [PatternEngine] (registry : Nat) : Session H → List (Action H) → Nat
  | _, [] => 0
  | s, action :: actions =>
    (if action.claimedIn (s.step action).2 = some registry then 1 else 0)
      + claimsFrom registry (s.step action).1 actions

/-- A registry over which these texts are mounted, and in which so many claims succeeded
directly. -/
structure Accounted (texts : List String) (r : Registry) (direct : Nat) : Prop where
  distinct : texts.Nodup
  claimed : ∀ text ∈ texts, text ∈ r.texts
  size_eq : r.size = texts.length + direct

/-- The registries and counters of a session agree with its tables; `claims` counts the direct
claims that succeeded in each registry. -/
structure Sound (s : Session H) (claims : Nat → Nat) : Prop where
  bases : s.Bases
  known : ∀ slot ∈ s.tables, slot.registry < s.registries.length
  later : ∀ number, s.registries.length ≤ number → claims number = 0
  accounted : ∀ number r, s.registries[number]? = some r →
    Accounted (s.mountedTexts number) r (claims number)
  wellFormed : ∀ route ∈ s.routes, route.WellFormed
  counted : ∀ method,
    s.counters.registered.count method = (s.routes.map Route.method).count method

/-! ### Accounts of one registry -/

section Accounted

variable {texts texts' : List String} {r : Registry} {direct : Nat}

theorem Accounted.perm (account : Accounted texts r direct) (same : texts'.Perm texts) :
    Accounted texts' r direct :=
  ⟨same.nodup_iff.mpr account.distinct, fun text mem => account.claimed text (same.mem_iff.mp mem),
    by rw [account.size_eq, same.length_eq]⟩

/-- Nothing is mounted over a registry that was just opened. -/
theorem accounted_empty : Accounted [] .empty 0 := ⟨List.nodup_nil, nofun, rfl⟩

/-- A direct claim of a new text is one more claim without a route. -/
theorem Accounted.claim (account : Accounted texts r direct) {key : RouteKey}
    (new : ¬ r.Holds key) : Accounted texts (r.claim key).1 (direct + 1) := by
  rw [Registry.claim_of_not_holds new]
  refine ⟨account.distinct, ?_, ?_⟩
  · intro text mem
    exact List.mem_cons_of_mem _ (account.claimed text mem)
  · have size_eq := account.size_eq
    simp only [Registry.size, List.length_cons] at size_eq ⊢
    omega

/-- Routes that are mounted claim their texts. -/
theorem Accounted.mount {s after : Site H} {routes : List (Route H)}
    (account : Accounted texts s.registry direct) (grows : Site.Grows s routes after) :
    Accounted (texts ++ (routes.map Route.key).map RouteKey.text) after.registry direct := by
  obtain ⟨distinct, unclaimed⟩ := grows.fresh
  have texts_eq := grows.texts_eq
  refine ⟨List.nodup_append.mpr ⟨account.distinct, distinct, ?_⟩, ?_, ?_⟩
  · rintro text mem _ mem' rfl
    obtain ⟨key, added, rfl⟩ := List.mem_map.mp mem'
    exact unclaimed key added (account.claimed _ mem)
  · intro text mem
    rw [texts_eq, List.mem_append, List.mem_reverse]
    rcases List.mem_append.mp mem with old | new
    · exact Or.inr (account.claimed text old)
    · rw [List.map_map] at new
      exact Or.inl new
  · have size_eq := account.size_eq
    simp only [Registry.size, texts_eq, List.length_append, List.length_reverse,
      List.length_map] at size_eq ⊢
    omega

end Accounted

/-! ### One change -/

/-- An entry that is replaced by one with more behind it adds what is more. -/
theorem flatMap_set_perm {α β : Type} {f : α → List β} {l : List α} {i : Nat} {a a' : α}
    {more : List β} (found : l[i]? = some a) (eq : f a' = f a ++ more) :
    ((l.set i a').flatMap f).Perm (l.flatMap f ++ more) := by
  induction l generalizing i with
  | nil => simp at found
  | cons b l ih =>
      cases i with
      | zero =>
          obtain rfl := Option.some.inj found
          rw [List.set_cons_zero, List.flatMap_cons, List.flatMap_cons, eq, List.append_assoc,
            List.append_assoc]
          exact List.perm_append_comm.append_left _
      | succ i =>
          rw [List.set_cons_succ, List.flatMap_cons, List.flatMap_cons, List.append_assoc]
          exact (ih found).append_left _

section Sound

variable {s after : Session H} {claims : Nat → Nat} {claimed : Option Nat}

/-- Nothing is mounted over a registry that is not open. -/
theorem Sound.mountedTexts_later (sound : s.Sound claims) {number : Nat}
    (later : s.registries.length ≤ number) : s.mountedTexts number = [] := by
  rw [mountedTexts, List.flatMap_eq_nil_iff]
  intro slot mem
  have known := sound.known slot mem
  exact if_neg (by omega)

/-- No table has a text twice. -/
theorem Sound.nodup_keys (sound : s.Sound claims) {slot : TableSlot H} (mem : slot ∈ s.tables) :
    (slot.table.keys.map RouteKey.text).Nodup := by
  have known := sound.known slot mem
  have distinct := (sound.accounted slot.registry _ (List.getElem?_eq_getElem known)).distinct
  rw [mountedTexts, List.nodup_flatMap] at distinct
  simpa using distinct.1 slot mem

theorem Sound.openRegistry (sound : s.Sound claims) :
    Sound { s with registries := s.registries ++ [.empty] } claims where
  bases := sound.bases
  known := by
    intro slot mem
    rw [List.length_append]
    exact Nat.lt_add_right _ (sound.known slot mem)
  later := by
    intro number later
    rw [List.length_append] at later
    exact sound.later number (Nat.le_of_add_right_le later)
  accounted := by
    intro number r found
    rcases getElem?_concat_iff.mp found with found | ⟨rfl, rfl⟩
    · exact sound.accounted number r found
    · have untouched := sound.mountedTexts_later (Nat.le_refl _)
      rw [mountedTexts] at untouched ⊢
      rw [untouched, sound.later _ (Nat.le_refl _)]
      exact accounted_empty
  wellFormed := sound.wellFormed
  counted := sound.counted

theorem Sound.openTable (sound : s.Sound claims) {registry : Nat} (policy : DuplicatePolicy)
    (known : registry < s.registries.length) :
    Sound { s with tables := s.tables ++ [⟨registry, .empty policy⟩] } claims where
  bases := sound.bases
  known := List.forall_mem_append.mpr ⟨sound.known, List.forall_mem_singleton.mpr known⟩
  later := sound.later
  accounted := by
    intro number r found
    have account := sound.accounted number r found
    simpa [mountedTexts] using account
  wellFormed := by simpa [routes, Table.empty] using sound.wellFormed
  counted := by simpa [routes, Table.empty] using sound.counted

theorem Sound.claim (sound : s.Sound claims) {number : Nat} {r : Registry} {key : RouteKey}
    (found : s.registries[number]? = some r) (new : ¬ r.Holds key) :
    Sound { s with registries := s.registries.set number (r.claim key).1 }
      fun i => claims i + if some number = some i then 1 else 0 where
  bases := sound.bases
  known := by simpa using sound.known
  later := by
    intro i later
    rw [List.length_set] at later
    have bound := (List.getElem?_eq_some_iff.mp found).1
    rw [sound.later i later, if_neg (by simp; omega)]
  accounted := by
    intro i r' found'
    by_cases same : number = i
    · subst same
      have bound := (List.getElem?_eq_some_iff.mp found).1
      obtain rfl := Option.some.inj ((List.getElem?_set_self bound).symm.trans found')
      rw [if_pos rfl]
      exact (sound.accounted number r found).claim new
    · rw [if_neg (by simpa using same)]
      exact sound.accounted i r' ((List.getElem?_set_ne same).symm.trans found')
  wellFormed := sound.wellFormed
  counted := sound.counted

theorem Sound.grow (sound : s.Sound claims) {number : Nat} {slot : TableSlot H} {r : Registry}
    {site : Site H} {new : List (Route H)} (table : s.tables[number]? = some slot)
    (registry : s.registries[slot.registry]? = some r)
    (grows : Site.Grows ⟨r, slot.table, s.counters⟩ new site) :
    Sound { s with
      registries := s.registries.set slot.registry site.registry
      tables := s.tables.set number { slot with table := site.table }
      counters := site.counters } claims := by
  have routes_perm : ((s.tables.set number { slot with table := site.table }).flatMap
      fun slot => slot.table.routes).Perm (s.routes ++ new) :=
    flatMap_set_perm table (by rw [grows.table_eq])
  have texts_perm (i : Nat) : ((s.tables.set number { slot with table := site.table }).flatMap
      fun slot => if slot.registry = i then slot.table.keys.map RouteKey.text else []).Perm
        (s.mountedTexts i ++
          if slot.registry = i then (new.map Route.key).map RouteKey.text else []) := by
    refine flatMap_set_perm table ?_
    by_cases here : slot.registry = i
    · simp [here, Table.keys, grows.table_eq]
    · simp [here]
  refine ⟨sound.bases, ?_, ?_, ?_, ?_, ?_⟩
  · intro other mem
    rw [List.length_set]
    rcases List.mem_or_eq_of_mem_set mem with old | rfl
    · exact sound.known other old
    · exact sound.known slot (List.mem_of_getElem? table)
  · intro i later
    rw [List.length_set] at later
    exact sound.later i later
  · intro i r' found
    refine Accounted.perm ?_ (texts_perm i)
    by_cases here : slot.registry = i
    · subst here
      have bound := (List.getElem?_eq_some_iff.mp registry).1
      obtain rfl := Option.some.inj ((List.getElem?_set_self bound).symm.trans found)
      rw [if_pos rfl]
      exact (sound.accounted _ r registry).mount grows
    · rw [if_neg here, List.append_nil]
      exact sound.accounted i r' ((List.getElem?_set_ne here).symm.trans found)
  · intro route mem
    rcases List.mem_append.mp (routes_perm.mem_iff.mp mem) with old | added
    · exact sound.wellFormed route old
    · exact grows.wellFormed route added
  · intro method
    rw [routes, (routes_perm.map Route.method).count_eq, List.map_append, List.count_append,
      ← sound.counted method]
    exact grows.registered_eq method

/-- A change keeps the accounts, with one more direct claim where one succeeded. -/
theorem Moves.sound (moves : Moves s claimed after) (sound : s.Sound claims) :
    after.Sound fun i => claims i + if claimed = some i then 1 else 0 := by
  cases moves with
  | stay => exact sound
  | openRegistry => exact sound.openRegistry
  | openTable registry policy known => exact sound.openTable policy known
  | openOwnTable policy => exact sound.openRegistry.openTable policy (by simp)
  | claim found new => exact sound.claim found new
  | regroup groups bases => exact { sound with bases := bases sound.bases }
  | grow table registry grows => exact sound.grow table registry (grows sound.bases)

/-! ### Runs -/

theorem sound_runFrom [PatternEngine] (sound : s.Sound claims) (actions : List (Action H)) :
    (runFrom s actions).Sound fun i => claims i + claimsFrom i s actions := by
  induction actions generalizing s claims with
  | nil => exact sound
  | cons action actions ih =>
      have later := ih ((step_moves s action).sound sound)
      rw [runFrom_cons]
      simpa only [claimsFrom, Nat.add_assoc] using later

theorem sound_empty : (empty : Session H).Sound fun _ => 0 :=
  ⟨nofun, nofun, fun _ _ => rfl, nofun, nofun, fun _ => rfl⟩

end Sound

/-- In every run the texts that are mounted over a registry are distinct and claimed in it, and
it holds nothing more than those and the texts that were claimed directly. Every mounted route
has a method and a pattern that starts with a slash. The counter of a method counts its routes,
none of which is ever taken away again. -/
theorem accounts_run [PatternEngine] (actions : List (Action H)) :
    (∀ number r, (run actions).registries[number]? = some r →
      ((run actions).mountedTexts number).Nodup ∧
        (∀ text ∈ (run actions).mountedTexts number, text ∈ r.texts) ∧
        r.size = ((run actions).mountedTexts number).length + claimsFrom number empty actions) ∧
    (∀ route ∈ (run actions).routes,
      route.method ≠ "" ∧ Path.IsRooted route.template.pattern) ∧
    (∀ method, (run actions).counters.registered.count method =
      ((run actions).routes.map Route.method).count method) ∧
    ∀ before after, actions = before ++ after → (run before).Extends (run actions) := by
  have sound := sound_runFrom sound_empty actions
  refine ⟨?_, sound.wellFormed, sound.counted, ?_⟩
  · intro number r found
    obtain ⟨distinct, claimed, size_eq⟩ := sound.accounted number r found
    rw [Nat.zero_add] at size_eq
    exact ⟨distinct, claimed, size_eq⟩
  · rintro before after rfl
    rw [run, run, runFrom_append]
    exact extends_runFrom (bases_run before) after

end Session

end RpcRoutes
