import Mathlib.Data.List.Forall2
import RpcRoutes.Proofs.Path.Composing
import RpcRoutes.Proofs.Routing.Nesting

/-!
# Bases of groups

A group's base is a normal form of the prefixes that it and its parents were opened with: however
their slashes were written, and whichever of them were joined beforehand, the base is the same, and
so are the keys of the routes that are registered in the group.

* `Group.Composed` says what holds of a group with these prefixes; `Group.composed_of_base` that
  its base alone gives the rest.
* `Group.composed_of_prefixes`: chains of groups, and the groups of a run, are composed.
-/

namespace RpcRoutes

variable {H : Type}

namespace Group

/-- A group that stands inside these prefixes, outermost first. -/
structure Composed [PatternEngine] (g : Group H) (prefixes : List String) : Prop where
  base_eq : g.base = Path.composed prefixes
  isBase : Path.IsBase g.base
  /-- A route has its pattern below the base. -/
  key_eq : ∀ method pattern, g.key method pattern =
    if method = "" then .error (.emptyMethod pattern)
    else .ok ⟨method, Path.under g.base pattern⟩
  /-- Two prefixes in turn are the two of them joined. -/
  child_child : ∀ outer inner (first second : List (Middleware H)),
    ((g.child outer first).child inner second).base = (g.child (Path.join outer inner) first).base
  /-- A pattern has the key in a child that it has here when it is joined to the prefix. -/
  key_child : ∀ fragment (middleware : List (Middleware H)) method pattern,
    (g.child fragment middleware).key method pattern =
      if method = "" then .error (.emptyMethod pattern)
      else g.key method (Path.join fragment pattern)
  /-- Registering in a child is registering the joined pattern here, once the layers of the child
  are installed. -/
  register_child : ∀ fragment (middleware own : List (Middleware H)) site method pattern handler,
    (g.child fragment middleware).register site method pattern handler own =
      if method = "" then (site, .error (.emptyMethod pattern))
      else (g.install middleware).register site method (Path.join fragment pattern) handler own

theorem key_child_eq (g : Group H) (fragment : String) (middleware : List (Middleware H))
    (method pattern : String) : (g.child fragment middleware).key method pattern =
      if method = "" then .error (.emptyMethod pattern)
      else g.key method (Path.join fragment pattern) := by
  by_cases unnamed : method = ""
  · rw [if_pos unnamed]
    exact if_pos unnamed
  · rw [if_neg unnamed, key, key, if_neg unnamed, if_neg unnamed, child, Path.join_nest]

/-- Groups with one stack register a route alike when it has the same key in both. -/
theorem register_congr [PatternEngine] {g g' : Group H} (stack_eq : g.stack = g'.stack)
    {method pattern pattern' : String} (key_eq : g.key method pattern = g'.key method pattern')
    (site : Site H) (handler : H) (own : List (Middleware H)) :
    g.register site method pattern handler own = g'.register site method pattern' handler own := by
  rw [register, register, key_eq, stack_eq]

theorem register_child_eq [PatternEngine] (g : Group H) (fragment : String)
    (middleware own : List (Middleware H)) (site : Site H) (method pattern : String)
    (handler : H) :
    (g.child fragment middleware).register site method pattern handler own =
      if method = "" then (site, .error (.emptyMethod pattern))
      else
        (g.install middleware).register site method (Path.join fragment pattern) handler own := by
  have key_eq := g.key_child_eq fragment middleware method pattern
  by_cases unnamed : method = ""
  · rw [if_pos unnamed] at key_eq ⊢
    rw [register, key_eq]
  · rw [if_neg unnamed] at key_eq ⊢
    have same_stack : (g.child fragment middleware).stack = (g.install middleware).stack := rfl
    exact register_congr same_stack key_eq site handler own

/-- A composed base makes a composed group. -/
theorem composed_of_base [PatternEngine] {g : Group H} {prefixes : List String}
    (base_eq : g.base = Path.composed prefixes) : g.Composed prefixes := by
  have isBase : Path.IsBase g.base := by
    rw [base_eq]
    exact Path.isBase_composed prefixes
  refine ⟨base_eq, isBase, ?_, ?_, g.key_child_eq, ?_⟩
  · intro method pattern
    rw [key, Path.join_eq_under isBase]
  · intro outer inner first second
    exact Path.nest_nest g.base outer inner
  · intro fragment middleware own site method pattern handler
    exact g.register_child_eq fragment middleware own site method pattern handler

theorem base_foldl_child (g : Group H) (links : List (String × List (Middleware H))) :
    (links.foldl (fun g link => g.child link.1 link.2) g).base =
      (links.map Prod.fst).foldl Path.nest g.base := by
  induction links generalizing g with
  | nil => rfl
  | cons link links ih => exact ih (g.child link.1 link.2)

/-- A group that is opened at a base, and inside further fragments in turn, is composed of all of
them. So is every group of a session, of the prefixes that its history gives it. -/
theorem composed_of_prefixes [PatternEngine] :
    (∀ (base : String) (links : List (String × List (Middleware H))),
      (links.foldl (fun g link => g.child link.1 link.2) (root base)).Composed
        (base :: links.map Prod.fst)) ∧
    ∀ actions : List (Action H),
      List.Forall₂ (fun slot prefixes => slot.group.Composed prefixes)
        (Session.run actions).groups (Session.nestings (Session.events actions)) := by
  constructor
  · intro base links
    apply composed_of_base
    rw [base_foldl_child, ← Path.foldl_nest]
    rfl
  · intro actions
    have nested := Session.bases_eq actions
    rw [Session.Nested, ← List.forall₂_eq_eq_eq, List.forall₂_map_left_iff,
      List.forall₂_map_right_iff] at nested
    refine nested.imp ?_
    intro slot prefixes base_eq
    exact composed_of_base (base_eq.trans (Path.foldl_nest prefixes))

end Group

end RpcRoutes
