import Mathlib.Data.Finset.Card
import RpcRoutes.Routing.Registry

/-!
# Admission

Keys that are claimed one after another in a registry are admitted when their text is new: each
text is admitted once, at its first place, and not at all when it was claimed before.

* `Registry.admitted` lists the elements of a list whose keys are admitted, `Registry.claimAll`
  is the registry that the claims leave. `texts_claimAll` says that it holds the admitted texts
  and what it held before.
* `Registry.Fresh` holds of keys that are all admitted (`admitted_eq_self_iff`).
* `length_admitted_empty`: a new registry admits as many elements as there are texts.
* `findSome?_admitted`: a search does not miss what was left out, if it answers equally for
  equal texts and finds nothing in the texts that were claimed before.
-/

namespace RpcRoutes.Registry

variable {α : Type} (key : α → RouteKey)

/-- The elements whose texts are new when their keys are claimed in order. -/
def admitted : Registry → List α → List α
  | _, [] => []
  | r, x :: xs => if r.Holds (key x) then admitted r xs else x :: admitted (r.claim (key x)).1 xs

/-- The registry after the keys of all elements were claimed in order. -/
def claimAll (r : Registry) (xs : List α) : Registry := xs.foldl (fun r x => (r.claim (key x)).1) r

/-- No key has a text that is claimed, and no two have one text. -/
def Fresh (r : Registry) (keys : List RouteKey) : Prop :=
  (keys.map RouteKey.text).Nodup ∧ ∀ k ∈ keys, ¬ r.Holds k

instance (r : Registry) (keys : List RouteKey) : Decidable (r.Fresh keys) :=
  inferInstanceAs (Decidable (_ ∧ _))

theorem fresh_empty_iff {keys : List RouteKey} :
    empty.Fresh keys ↔ (keys.map RouteKey.text).Nodup :=
  and_iff_left fun _ _ => not_holds_empty _

section Lists

variable {key} {r : Registry} {x : α} {xs ys : List α}

@[simp] theorem admitted_nil : admitted key r [] = [] := rfl

variable (key) in
theorem admitted_cons_of_holds (held : r.Holds (key x)) :
    admitted key r (x :: xs) = admitted key r xs := if_pos held

variable (key) in
theorem admitted_cons_of_not_holds (new : ¬ r.Holds (key x)) :
    admitted key r (x :: xs) = x :: admitted key (r.claim (key x)).1 xs := if_neg new

@[simp] theorem claimAll_nil : claimAll key r [] = r := rfl

@[simp] theorem claimAll_cons :
    claimAll key r (x :: xs) = claimAll key (r.claim (key x)).1 xs := rfl

/-- What is admitted is part of the list, in its order. -/
theorem admitted_sublist : (admitted key r xs).Sublist xs := by
  induction xs generalizing r with
  | nil => exact .slnil
  | cons x xs ih =>
      by_cases held : r.Holds (key x)
      · rw [admitted_cons_of_holds key held]
        exact ih.cons x
      · rw [admitted_cons_of_not_holds key held]
        exact ih.cons_cons x

/-- The registry that the claims leave holds the admitted texts before those it held. -/
theorem texts_claimAll : (claimAll key r xs).texts =
    ((admitted key r xs).map fun x => (key x).text).reverse ++ r.texts := by
  induction xs generalizing r with
  | nil => rfl
  | cons x xs ih =>
      rw [claimAll_cons, ih]
      by_cases held : r.Holds (key x)
      · rw [admitted_cons_of_holds key held, claim_of_holds held]
      · rw [admitted_cons_of_not_holds key held, claim_of_not_holds held]
        simp

/-- The registry that the claims leave holds what it held before and every claimed key. -/
theorem holds_claimAll_iff {other : RouteKey} : (claimAll key r xs).Holds other ↔
    r.Holds other ∨ ∃ x ∈ xs, other.text = (key x).text := by
  induction xs generalizing r with
  | nil => simp
  | cons x xs ih =>
      rw [claimAll_cons, ih, holds_claim_iff, or_assoc]
      simp

/-- Claiming two lists in turn admits of the second what the first leaves new. -/
theorem admitted_append :
    admitted key r (xs ++ ys) = admitted key r xs ++ admitted key (claimAll key r xs) ys := by
  induction xs generalizing r with
  | nil => rfl
  | cons x xs ih =>
      rw [List.cons_append, claimAll_cons]
      by_cases held : r.Holds (key x)
      · rw [admitted_cons_of_holds key held, admitted_cons_of_holds key held, ih,
          claim_of_holds held]
      · rw [admitted_cons_of_not_holds key held, admitted_cons_of_not_holds key held, ih]
        rfl

/-- A key is fresh before others when its text is new and the others are fresh once it is
claimed. -/
theorem fresh_cons {k : RouteKey} {keys : List RouteKey} :
    r.Fresh (k :: keys) ↔ ¬ r.Holds k ∧ (r.claim k).1.Fresh keys := by
  simp only [Fresh, List.map_cons, List.nodup_cons, List.mem_map, List.forall_mem_cons,
    holds_claim_iff, not_or]
  constructor
  · rintro ⟨⟨alone, distinct⟩, new, later⟩
    refine ⟨new, distinct, ?_⟩
    intro k' mem
    refine ⟨later k' mem, ?_⟩
    intro eq
    exact alone ⟨k', mem, eq⟩
  · rintro ⟨new, distinct, later⟩
    refine ⟨⟨?_, distinct⟩, new, ?_⟩
    · rintro ⟨k', mem, eq⟩
      exact (later k' mem).2 eq
    · intro k' mem
      exact (later k' mem).1

/-- All elements are admitted exactly when their keys are fresh. -/
theorem admitted_eq_self_iff : admitted key r xs = xs ↔ r.Fresh (xs.map key) := by
  induction xs generalizing r with
  | nil => simp [Fresh]
  | cons x xs ih =>
      rw [List.map_cons, fresh_cons]
      by_cases held : r.Holds (key x)
      · rw [admitted_cons_of_holds key held]
        refine ⟨fun eq => ?_, fun fresh => absurd held fresh.1⟩
        have shorter : (admitted key r xs).length ≤ xs.length := admitted_sublist.length_le
        rw [eq] at shorter
        exact absurd shorter (Nat.not_succ_le_self _)
      · rw [admitted_cons_of_not_holds key held, List.cons.injEq, ih]
        simp [held]

/-- Lists are fresh together when the first is, and the second once the first is claimed. -/
theorem fresh_append : r.Fresh ((xs ++ ys).map key) ↔
    r.Fresh (xs.map key) ∧ (claimAll key r xs).Fresh (ys.map key) := by
  induction xs generalizing r with
  | nil => simp [Fresh]
  | cons x xs ih =>
      rw [List.cons_append, List.map_cons, List.map_cons, fresh_cons, fresh_cons, ih,
        claimAll_cons, and_assoc]

/-- Keys are fresh after claims exactly when they were fresh before and have other texts. -/
theorem fresh_claimAll_iff {keys : List RouteKey} : (claimAll key r xs).Fresh keys ↔
    r.Fresh keys ∧ ∀ k ∈ keys, ∀ x ∈ xs, k.text ≠ (key x).text := by
  simp only [Fresh, holds_claimAll_iff, not_or, not_exists, not_and]
  constructor
  · rintro ⟨distinct, new⟩
    exact ⟨⟨distinct, fun k mem => (new k mem).1⟩, fun k mem => (new k mem).2⟩
  · rintro ⟨⟨distinct, new⟩, apart⟩
    exact ⟨distinct, fun k mem => ⟨new k mem, apart k mem⟩⟩

/-- What is admitted is fresh. -/
theorem fresh_admitted : r.Fresh ((admitted key r xs).map key) := by
  induction xs generalizing r with
  | nil => exact ⟨List.nodup_nil, List.forall_mem_nil _⟩
  | cons x xs ih =>
      by_cases held : r.Holds (key x)
      · rw [admitted_cons_of_holds key held]
        exact ih
      · rw [admitted_cons_of_not_holds key held, List.map_cons, fresh_cons]
        exact ⟨held, ih⟩

variable (xs) in
/-- Every text is admitted by a registry without claims. -/
theorem mem_texts_admitted {text : String} :
    text ∈ (admitted key .empty xs).map (fun x => (key x).text) ↔
      text ∈ xs.map fun x => (key x).text := by
  constructor
  · exact fun mem => (admitted_sublist.map _).subset mem
  · intro mem
    obtain ⟨x, here, rfl⟩ := List.mem_map.mp mem
    have held : (claimAll key .empty xs).Holds (key x) :=
      holds_claimAll_iff.mpr (Or.inr ⟨x, here, rfl⟩)
    rw [Holds, texts_claimAll] at held
    simpa [empty] using held

variable (key xs) in
/-- A new registry admits one element for each text. -/
theorem length_admitted_empty : (admitted key .empty xs).length =
    (xs.map fun x => (key x).text).toFinset.card := by
  have distinct : ((admitted key .empty xs).map fun x => (key x).text).Nodup := by
    have fresh : empty.Fresh ((admitted key .empty xs).map key) := fresh_admitted
    rw [Fresh, List.map_map] at fresh
    exact fresh.1
  have same : (xs.map fun x => (key x).text).toFinset =
      ((admitted key .empty xs).map fun x => (key x).text).toFinset := by
    ext text
    rw [List.mem_toFinset, List.mem_toFinset, mem_texts_admitted]
  rw [same, List.toFinset_card_of_nodup distinct, List.length_map]

/-- A search for what answers goes the same way over the admitted elements: nothing that answers
has its text claimed before the list, and elements of one text answer alike. -/
theorem findSome?_admitted {β : Type} {answer : α → Option β}
    (silent : ∀ x ∈ xs, r.Holds (key x) → answer x = none)
    (alike : ∀ x ∈ xs, ∀ y ∈ xs, (key x).text = (key y).text → answer x = none → answer y = none) :
    (admitted key r xs).findSome? answer = xs.findSome? answer := by
  induction xs generalizing r with
  | nil => rfl
  | cons x xs ih =>
      have alike' : ∀ y ∈ xs, ∀ z ∈ xs, (key y).text = (key z).text →
          answer y = none → answer z = none := by
        intro y hy z hz
        exact alike y (List.mem_cons_of_mem _ hy) z (List.mem_cons_of_mem _ hz)
      by_cases held : r.Holds (key x)
      · have none_x := silent x List.mem_cons_self held
        rw [admitted_cons_of_holds key held, List.findSome?_cons, none_x]
        apply ih _ alike'
        intro y hy
        exact silent y (List.mem_cons_of_mem _ hy)
      · rw [admitted_cons_of_not_holds key held, List.findSome?_cons, List.findSome?_cons]
        cases found : answer x with
        | some b => rfl
        | none =>
            -- What has the text of `x` does not answer either, so claiming `x` hides nothing.
            apply ih _ alike'
            intro y hy holds
            rcases holds_claim_iff.mp holds with before | same
            · exact silent y (List.mem_cons_of_mem _ hy) before
            · exact alike x List.mem_cons_self y (List.mem_cons_of_mem _ hy) same.symm found

end Lists

end RpcRoutes.Registry
