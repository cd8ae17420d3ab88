import RpcRoutes.Proofs.Routing.Admission
import RpcRoutes.Proofs.Routing.Answering
import RpcRoutes.Routing.Group

/-!
# Identity of keys

A registry knows a key by its text, which does not always tell where the method ends. It takes two
keys that overlap for one, and tells all others apart.

* `Registry.Exact` says that a series of claims and a further key are told apart as keys.
* `exact_iff_no_overlap`: they are exactly when none of them overlap, as with methods in which no
  blank comes before a slash.
-/

namespace RpcRoutes

namespace Registry

/-- After a series of claims, another key is told to be new, and held, as the same method and the
same pattern were claimed before; and as many keys are counted as were claimed. -/
structure Exact (keys : List RouteKey) (key : RouteKey) : Prop where
  claim_iff : ((claimAll id .empty keys).claim key).2 = true ↔ key ∉ keys
  holds_iff : (claimAll id .empty keys).Holds key ↔ key ∈ keys
  size_eq : (claimAll id .empty keys).size = keys.toFinset.card

variable {keys : List RouteKey} {key : RouteKey}

theorem size_claimAll_empty (keys : List RouteKey) :
    (claimAll id .empty keys).size = (keys.toFinset.image RouteKey.text).card := by
  have texts : keys.toFinset.image RouteKey.text = (keys.map RouteKey.text).toFinset := by
    ext text
    simp
  rw [texts, size, texts_claimAll, empty, List.append_nil, List.length_reverse, List.length_map]
  exact length_admitted_empty id keys

/-- Claims are exact where keys of one text are one key. -/
theorem exact_iff_injective : Exact keys key ↔
    ∀ k ∈ key :: keys, ∀ k' ∈ key :: keys, k.text = k'.text → k = k' := by
  have held : (claimAll id .empty keys).Holds key ↔ ∃ k ∈ keys, key.text = k.text := by
    rw [holds_claimAll_iff]
    exact or_iff_right (not_holds_empty key)
  constructor
  · rintro ⟨-, holds_iff, size_eq⟩
    have injective : ∀ k ∈ keys, ∀ k' ∈ keys, k.text = k'.text → k = k' := by
      rw [size_claimAll_empty, Finset.card_image_iff] at size_eq
      intro k mem k' mem' same
      exact size_eq (List.mem_toFinset.mpr mem) (List.mem_toFinset.mpr mem') same
    -- A key of a claimed text was itself claimed, so it is among those told apart already.
    have claimed : ∀ k ∈ keys, key.text = k.text → key ∈ keys := by
      intro k mem same
      exact holds_iff.mp (held.mpr ⟨k, mem, same⟩)
    intro k mem k' mem' same
    rcases List.mem_cons.mp mem with rfl | earlier <;>
      rcases List.mem_cons.mp mem' with rfl | earlier'
    · rfl
    · exact injective k (claimed k' earlier' same) k' earlier' same
    · exact injective k earlier k' (claimed k earlier same.symm) same
    · exact injective k earlier k' earlier' same
  · intro injective
    have holds_iff : (claimAll id .empty keys).Holds key ↔ key ∈ keys := by
      rw [held]
      constructor
      · rintro ⟨k, mem, same⟩
        rw [injective key List.mem_cons_self k (List.mem_cons_of_mem _ mem) same]
        exact mem
      · intro mem
        exact ⟨key, mem, rfl⟩
    refine ⟨by rw [claim_snd_iff, holds_iff], holds_iff, ?_⟩
    rw [size_claimAll_empty, Finset.card_image_iff]
    intro k mem k' mem' same
    exact injective k (List.mem_cons_of_mem _ (List.mem_toFinset.mp mem)) k'
      (List.mem_cons_of_mem _ (List.mem_toFinset.mp mem')) same

/-- Claims are exact when and only when no two of the keys overlap. Keys with rooted patterns do
not, unless the method of one has a blank before a slash. -/
theorem exact_iff_no_overlap (keys : List RouteKey) (key : RouteKey) :
    (Exact keys key ↔ ∀ k ∈ key :: keys, ∀ k' ∈ key :: keys, ¬ k.Overlaps k') ∧
    ((∀ k ∈ key :: keys, Path.IsRooted k.pattern ∧ ¬ [' ', '/'] <:+: k.method.toList) →
      Exact keys key) := by
  have exact_iff : Exact keys key ↔
      ∀ k ∈ key :: keys, ∀ k' ∈ key :: keys, ¬ k.Overlaps k' := by
    rw [exact_iff_injective]
    constructor
    · intro injective k mem k' mem' overlaps
      exact overlaps.ne (injective k mem k' mem' overlaps.text_eq)
    · intro apart k mem k' mem' same
      rcases RouteKey.text_eq_iff.mp same with eq | overlaps | overlaps
      · exact eq
      · exact absurd overlaps (apart k mem k' mem')
      · exact absurd overlaps (apart k' mem' k mem)
  refine ⟨exact_iff, fun plain => exact_iff.mpr ?_⟩
  intro k mem k' mem' overlaps
  exact (plain k mem).2 (overlaps.blank_slash (plain k' mem').1)

/-- Claiming `A /b` with `/c` makes a registry refuse `A` with `/b /c`, which nobody claimed. Both
are keys that the root group gives. -/
theorem claim_refused_by_overlap : ∃ first second : RouteKey,
    (Group.root "" : Group Unit).key "A /b" "/c" = .ok first ∧
      (Group.root "" : Group Unit).key "A" "/b /c" = .ok second ∧
      second ∉ [first] ∧ (claimAll id .empty [first]).Holds second ∧
      ((claimAll id .empty [first]).claim second).2 = false ∧
      (claimAll id .empty [first, second]).size ≠ [first, second].toFinset.card :=
  ⟨⟨"A /b", "/c"⟩, ⟨"A", "/b /c"⟩, by decide, by decide, by decide, by decide, by decide,
    by decide⟩

end Registry

end RpcRoutes
