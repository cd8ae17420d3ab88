import Mathlib.Data.List.Induction
import RpcRoutes.Proofs.Routing.Sessions

/-!
# Histories of groups

A group's layers depend on when things happened: on what its parent had when the group was opened,
and on what was installed in this very group since.

* `Session.events` lists what was done in a run, with the answers.
* `Session.HasStack` tells the layers of a group from the events alone: those it was opened with
  (`Session.Opens`), followed by those installed in it since.
* `Session.hasStack_iff`: a group of a run has exactly the layers that its history gives it.
-/

namespace RpcRoutes

variable {H : Type}

/-- An action with what it answered. -/
abbrev Event (H : Type) := Action H × Outcome

/-- An action that opens a group or installs layers in one. -/
def Action.changesGroups : Action H → Bool
  | .openRoot _ _ => true
  | .openChild _ _ _ => true
  | .copyGroup _ => true
  | .install _ _ => true
  | _ => false

namespace Session

/-- What happens when actions are carried out in a session. -/
def eventsFrom [PatternEngine] : Session H → List (Action H) → List (Event H)
  | _, [] => []
  | s, action :: actions => (action, (s.step action).2) :: eventsFrom (s.step action).1 actions

def events [PatternEngine] (actions : List (Action H)) : List (Event H) := eventsFrom empty actions

/-- The layers that events install in a group. -/
def installedIn (group : Nat) (events : List (Event H)) : List (Middleware H) :=
  events.flatMap fun
    | (.install target middleware, .installed) => if target = group then middleware else []
    | _ => []

mutual

/-- After these events a group has this stack: the layers it was opened with, followed by those
that were installed in it since. -/
inductive HasStack : List (Event H) → Nat → List (Middleware H) → Prop where
  | intro {before since : List (Event H)} {birth : Event H} {group : Nat}
      {opened : List (Middleware H)} (opens : Opens before birth group opened) :
      HasStack (before ++ birth :: since) group (opened ++ installedIn group since)

/-- After these events, an event opens a group with these layers: a root with none, a child with
those that its parent has by then and further ones, a copy with those that its original has. -/
inductive Opens : List (Event H) → Event H → Nat → List (Middleware H) → Prop where
  | root {past : List (Event H)} {table : Nat} {base : String} {group : Nat} :
      Opens past (.openRoot table base, .opened group) group []
  | child {past : List (Event H)} {parent : Nat} {fragment : String}
      {middleware inherited : List (Middleware H)} {group : Nat}
      (known : HasStack past parent inherited) :
      Opens past (.openChild parent fragment middleware, .opened group) group
        (inherited ++ middleware)
  | copy {past : List (Event H)} {original : Nat} {inherited : List (Middleware H)} {group : Nat}
      (known : HasStack past original inherited) :
      Opens past (.copyGroup original, .opened group) group inherited

end

/-! ### One more event -/

section Concat

variable {past : List (Event H)} {event : Event H} {group : Nat} {stack : List (Middleware H)}

theorem installedIn_append (first second : List (Event H)) :
    installedIn group (first ++ second) = installedIn group first ++ installedIn group second :=
  List.flatMap_append

theorem not_hasStack_nil : ¬ HasStack ([] : List (Event H)) group stack := by
  intro has
  generalize none : ([] : List (Event H)) = events at has
  cases has with
  | intro opens => simp at none

/-- One more event opens the group, or finds it open and may install layers in it. -/
theorem hasStack_concat_iff : HasStack (past ++ [event]) group stack ↔
    Opens past event group stack ∨
      ∃ earlier, HasStack past group earlier ∧ stack = earlier ++ installedIn group [event] := by
  constructor
  · intro has
    generalize split : past ++ [event] = events at has
    cases has with
    | @intro before since birth group opened opens =>
        rcases List.eq_nil_or_concat since with rfl | ⟨since, last, rfl⟩
        · obtain ⟨rfl, rfl⟩ := List.append_singleton_inj.mp split
          rw [installedIn, List.flatMap_nil, List.append_nil]
          exact Or.inl opens
        · rw [List.concat_eq_append, ← List.cons_append, ← List.append_assoc] at split
          obtain ⟨rfl, rfl⟩ := List.append_singleton_inj.mp split
          refine Or.inr ⟨_, .intro opens, ?_⟩
          rw [List.concat_eq_append, installedIn_append, List.append_assoc]
  · rintro (opens | ⟨earlier, has, rfl⟩)
    · have has : HasStack (past ++ [event]) group (stack ++ installedIn group []) := .intro opens
      rwa [installedIn, List.flatMap_nil, List.append_nil] at has
    · cases has with
      | intro opens =>
          rw [List.append_assoc, List.append_assoc, ← installedIn_append, List.cons_append]
          exact .intro opens

end Concat

/-! ### Groups of a session -/

/-- What an action does to the groups, with its answer. An idle one opens no group and installs
nothing. -/
inductive Regroups (s : Session H) : Event H → List (GroupSlot H) → Prop where
  | root (table : Nat) (base : String) :
      Regroups s (.openRoot table base, .opened s.groups.length)
        (s.groups ++ [⟨table, Group.root base⟩])
  | child {parent : Nat} {slot : GroupSlot H} (found : s.groups[parent]? = some slot)
      (fragment : String) (middleware : List (Middleware H)) :
      Regroups s (.openChild parent fragment middleware, .opened s.groups.length)
        (s.groups ++ [{ slot with group := slot.group.child fragment middleware }])
  | copy {original : Nat} {slot : GroupSlot H} (found : s.groups[original]? = some slot) :
      Regroups s (.copyGroup original, .opened s.groups.length) (s.groups ++ [slot])
  | install {target : Nat} {slot : GroupSlot H} (found : s.groups[target]? = some slot)
      (middleware : List (Middleware H)) :
      Regroups s (.install target middleware, .installed)
        (s.groups.set target { slot with group := slot.group.install middleware })
  | idle {event : Event H} (unopened : ∀ past group stack, ¬ Opens past event group stack)
      (uninstalled : ∀ group, installedIn group [event] = []) : Regroups s event s.groups

section Step

variable {s : Session H}

theorem groups_atGroup {α : Type} (group : Nat) (change : Group H → Site H → Site H × α)
    (answer : α → Outcome) : (s.atGroup group change answer).1.groups = s.groups := by
  unfold atGroup
  cases s.groups[group]? with
  | none => rfl
  | some slot =>
      dsimp only
      cases s.site? slot.table with
      | none => rfl
      | some site =>
          simp only [putSite]
          cases s.tables[slot.table]? <;> rfl

/-- An action that names nothing that is there is idle. -/
theorem regroups_unknown (action : Action H) : s.Regroups (action, .unknown) s.groups := by
  refine .idle ?_ ?_
  · intro past group stack opens
    cases opens
  · intro group
    cases action <;> rfl

/-- An action that is about no group, or about what is registered in one, is idle. -/
theorem step_regroups_of_idle [PatternEngine] {action : Action H}
    (idle : action.changesGroups = false) :
    s.Regroups (action, (s.step action).2) (s.step action).1.groups := by
  have same : (s.step action).1.groups = s.groups := by
    cases action with
    | openRegistry => rfl
    | openTable registry policy =>
        cases registry with
        | none => rfl
        | some registry =>
            rw [step]
            split <;> rfl
    | claim registry key =>
        rw [step]
        split <;> rfl
    | register group method pattern handler own => exact groups_atGroup _ _ _
    | mount group bindings resolver => exact groups_atGroup _ _ _
    | _ => cases idle
  rw [same]
  refine .idle ?_ ?_
  · intro past group stack opens
    generalize (s.step action).2 = answer at opens
    cases opens <;> cases idle
  · intro group
    cases action with
    | install target middleware => cases idle
    | _ => rfl

theorem step_regroups [PatternEngine] (s : Session H) (action : Action H) :
    s.Regroups (action, (s.step action).2) (s.step action).1.groups := by
  cases action with
  | openRoot table base =>
      by_cases known : table < s.tables.length
      · rw [step, if_pos known]
        exact .root table base
      · rw [step, if_neg known]
        exact regroups_unknown _
  | openChild parent fragment middleware =>
      cases found : s.groups[parent]? with
      | none =>
          simp only [step, found]
          exact regroups_unknown _
      | some slot =>
          simp only [step, found]
          exact .child found fragment middleware
  | copyGroup original =>
      cases found : s.groups[original]? with
      | none =>
          simp only [step, found]
          exact regroups_unknown _
      | some slot =>
          simp only [step, found]
          exact .copy found
  | install target middleware =>
      cases found : s.groups[target]? with
      | none =>
          simp only [step, found]
          exact regroups_unknown _
      | some slot =>
          simp only [step, found]
          exact .install found middleware
  | _ => exact step_regroups_of_idle rfl

end Step

/-! ### Stacks of a run -/

/-- The groups of a session have the layers that events give them, and there are no others. -/
def Tells (past : List (Event H)) (groups : List (GroupSlot H)) : Prop :=
  ∀ group stack, HasStack past group stack ↔
    ∃ slot, groups[group]? = some slot ∧ slot.group.stack = stack

section Tells

variable {s : Session H} {past : List (Event H)} {event : Event H} {groups : List (GroupSlot H)}

/-- An event that opens a new group adds what it is opened with. -/
theorem Tells.open (tells : Tells past s.groups) {slot : GroupSlot H}
    (opens : ∀ group stack, Opens past event group stack ↔
      group = s.groups.length ∧ slot.group.stack = stack)
    (uninstalled : ∀ group, installedIn group [event] = []) :
    Tells (past ++ [event]) (s.groups ++ [slot]) := by
  intro group stack
  simp only [hasStack_concat_iff, opens, uninstalled, List.append_nil, exists_eq_right',
    tells group stack, getElem?_concat_iff]
  constructor
  · rintro (⟨rfl, rfl⟩ | ⟨old, found, rfl⟩)
    · exact ⟨slot, Or.inr ⟨rfl, rfl⟩, rfl⟩
    · exact ⟨old, Or.inl found, rfl⟩
  · rintro ⟨found, here | ⟨rfl, rfl⟩, rfl⟩
    · exact Or.inr ⟨found, here, rfl⟩
    · exact Or.inl ⟨rfl, rfl⟩

/-- Layers that are installed come behind those that the group has. -/
theorem Tells.install (tells : Tells past s.groups) {target : Nat} {slot : GroupSlot H}
    (found : s.groups[target]? = some slot) (middleware : List (Middleware H)) :
    Tells (past ++ [(.install target middleware, .installed)])
      (s.groups.set target { slot with group := slot.group.install middleware }) := by
  intro group stack
  rw [hasStack_concat_iff]
  have unopened : ¬ Opens past (.install target middleware, .installed) group stack := by
    intro opens
    cases opens
  rw [or_iff_right unopened]
  by_cases same : target = group
  · subst same
    have bound := (List.getElem?_eq_some_iff.mp found).1
    simp [installedIn, tells target, found, List.getElem?_set_self bound, Group.install, eq_comm]
  · simp [installedIn, same, tells group, List.getElem?_set_ne same]

theorem Regroups.tells (regroups : s.Regroups event groups) (tells : Tells past s.groups) :
    Tells (past ++ [event]) groups := by
  cases regroups with
  | root table base =>
      refine tells.open ?_ fun _ => rfl
      intro group stack
      constructor
      · rintro ⟨⟩
        exact ⟨rfl, rfl⟩
      · rintro ⟨rfl, rfl⟩
        exact .root
  | child found fragment middleware =>
      refine tells.open ?_ fun _ => rfl
      intro group stack
      constructor
      · intro opens
        cases opens with
        | child known =>
            obtain ⟨slot, found', rfl⟩ := (tells _ _).mp known
            obtain rfl := Option.some.inj (found.symm.trans found')
            exact ⟨rfl, rfl⟩
      · rintro ⟨rfl, rfl⟩
        exact .child ((tells _ _).mpr ⟨_, found, rfl⟩)
  | copy found =>
      refine tells.open ?_ fun _ => rfl
      intro group stack
      constructor
      · intro opens
        cases opens with
        | copy known =>
            obtain ⟨slot, found', rfl⟩ := (tells _ _).mp known
            obtain rfl := Option.some.inj (found.symm.trans found')
            exact ⟨rfl, rfl⟩
      · rintro ⟨rfl, rfl⟩
        exact .copy ((tells _ _).mpr ⟨_, found, rfl⟩)
  | install found middleware => exact tells.install found middleware
  | idle unopened uninstalled =>
      intro group stack
      rw [hasStack_concat_iff, or_iff_right (unopened past group stack), uninstalled]
      simpa using tells group stack

end Tells

variable [PatternEngine]

theorem run_append {first second : List (Action H)} :
    run (first ++ second) = runFrom (run first) second := runFrom_append ..

theorem run_concat {actions : List (Action H)} {action : Action H} :
    run (actions ++ [action]) = ((run actions).step action).1 := run_append

theorem eventsFrom_append {s : Session H} {first second : List (Action H)} :
    eventsFrom s (first ++ second) = eventsFrom s first ++ eventsFrom (runFrom s first) second := by
  induction first generalizing s with
  | nil => rfl
  | cons action first ih => exact congrArg _ ih

/-- The history of a run gives every group of it exactly the layers that it has, and no layers to
any other group. -/
theorem hasStack_iff (actions : List (Action H)) {group : Nat} {stack : List (Middleware H)} :
    HasStack (events actions) group stack ↔
      ∃ slot, (run actions).groups[group]? = some slot ∧ slot.group.stack = stack := by
  suffices tells : Tells (events actions) (run actions).groups from tells group stack
  induction actions using List.reverseRecOn with
  | nil =>
      intro group stack
      exact iff_of_false not_hasStack_nil (by rintro ⟨slot, ⟨⟩, _⟩)
  | append_singleton actions action ih =>
      rw [events, eventsFrom_append, run_concat]
      exact (step_regroups (run actions) action).tells ih

end Session

end RpcRoutes
