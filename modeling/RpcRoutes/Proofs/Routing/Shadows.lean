import RpcRoutes.Proofs.Routing.Admission
import RpcRoutes.Routing.Table

/-!
# Shadowed routes

The keys of tables are claimed in one new registry, table after table. What it refuses is shadowed.

* `Registry.refused` lists what a registry does not admit. Between them the two lists have
  everything (`length_admitted_add_refused`).
* `Table.shadowedFrom_cons` takes the first table off, `length_shadowed` counts all of them.
* `Table.copies` lists the keys of a table whose texts are mounted in one of the tables before it.
  Where no table has a text twice, those are the shadowed routes (`shadowed_eq_copies`), and where
  no text is mounted twice at all, there are none (`shadowed_eq_nil`).
-/

namespace RpcRoutes

variable {H : Type}

/-! ### Refused keys -/

namespace Registry

/-- The keys whose texts are claimed already when they are claimed in order. -/
def refused : Registry → List RouteKey → List RouteKey
  | _, [] => []
  | r, k :: keys => if r.Holds k then k :: refused r keys else refused (r.claim k).1 keys

section Refused

variable {r : Registry} {k : RouteKey} {keys : List RouteKey}

@[simp] theorem refused_nil : r.refused [] = [] := rfl

theorem refused_cons_of_holds (held : r.Holds k) : r.refused (k :: keys) = k :: r.refused keys :=
  if_pos held

theorem refused_cons_of_not_holds (new : ¬ r.Holds k) :
    r.refused (k :: keys) = (r.claim k).1.refused keys := if_neg new

variable (r keys) in
/-- Every key is admitted or refused. -/
theorem length_admitted_add_refused :
    (r.admitted id keys).length + (r.refused keys).length = keys.length := by
  induction keys generalizing r with
  | nil => rfl
  | cons k keys ih =>
      by_cases held : r.Holds k
      · rw [admitted_cons_of_holds id held, refused_cons_of_holds held, List.length_cons,
          List.length_cons, ← ih r]
        rfl
      · rw [admitted_cons_of_not_holds id held, refused_cons_of_not_holds held, List.length_cons,
          List.length_cons, ← ih (r.claim k).1]
        exact Nat.add_right_comm _ 1 _

/-- Of keys with distinct texts those are refused whose texts were claimed before. -/
theorem refused_eq_filter (distinct : (keys.map RouteKey.text).Nodup) :
    r.refused keys = keys.filter fun k => decide (r.Holds k) := by
  induction keys generalizing r with
  | nil => rfl
  | cons k keys ih =>
      obtain ⟨alone, distinct⟩ := List.nodup_cons.mp distinct
      by_cases held : r.Holds k
      · rw [refused_cons_of_holds held, ih distinct, List.filter_cons_of_pos (by simpa using held)]
      · rw [refused_cons_of_not_holds held, ih distinct,
          List.filter_cons_of_neg (by simpa using held)]
        -- The claim of `k` holds no other of the keys, since their texts are different.
        refine List.filter_congr fun other mem => decide_eq_decide.mpr ?_
        rw [holds_claim_iff]
        refine or_iff_left ?_
        intro same
        exact alone (List.mem_map.mpr ⟨other, mem, same⟩)

end Refused

end Registry

/-! ### Shadows of tables -/

namespace Table

/-- The keys of a table whose texts are mounted in one of these tables. -/
def copies (earlier : List (Table H)) (t : Table H) : List RouteKey :=
  t.keys.filter fun key => earlier.any fun e => e.keys.any fun k => k.text == key.text

variable {served : Registry} {index : Nat} {t : Table H} {front tables : List (Table H)}

theorem mem_copies_iff {earlier : List (Table H)} {key : RouteKey} : key ∈ t.copies earlier ↔
    key ∈ t.keys ∧ ∃ e ∈ earlier, ∃ k ∈ e.keys, k.text = key.text := by
  simp [copies]

/-- Claiming keys one after another collects those that are refused. -/
theorem foldl_claim (keys : List RouteKey) (index : Nat) (found : List (Nat × RouteKey)) :
    keys.foldl
        (fun p key => ((p.1.claim key).1,
          if (p.1.claim key).2 = true then p.2 else p.2 ++ [(index, key)]))
        (served, found) =
      (served.claimAll id keys, found ++ (served.refused keys).map (Prod.mk index)) := by
  induction keys generalizing served found with
  | nil => simp
  | cons k keys ih =>
      rw [List.foldl_cons, ih, Registry.claimAll_cons]
      by_cases held : served.Holds k
      · simp [Registry.claim_of_holds held, Registry.refused_cons_of_holds held]
      · simp [Registry.claim_of_not_holds held, Registry.refused_cons_of_not_holds held]

theorem shadowedFrom_cons : shadowedFrom served index (t :: tables) =
    (served.refused t.keys).map (Prod.mk index) ++
      shadowedFrom (served.claimAll id t.keys) (index + 1) tables := by
  simp only [shadowedFrom, foldl_claim, List.nil_append]

variable (served index tables) in
/-- Every key of the tables is admitted or shadowed. -/
theorem length_shadowedFrom : (served.admitted id (tables.flatMap keys)).length +
    (shadowedFrom served index tables).length = (tables.flatMap keys).length := by
  induction tables generalizing served index with
  | nil => rfl
  | cons t tables ih =>
      have here := Registry.length_admitted_add_refused served t.keys
      have later := ih (served.claimAll id t.keys) (index + 1)
      rw [List.flatMap_cons, Registry.admitted_append, shadowedFrom_cons]
      simp only [List.length_append, List.length_map]
      omega

/-- The registry that has the texts of tables refuses of a table what is a copy. -/
theorem refused_eq_copies
    (serves : ∀ key : RouteKey, served.Holds key ↔
      ∃ e ∈ front, ∃ k ∈ e.keys, k.text = key.text)
    (distinct : (t.keys.map RouteKey.text).Nodup) : served.refused t.keys = t.copies front := by
  rw [Registry.refused_eq_filter distinct, copies]
  refine List.filter_congr fun key _ => ?_
  rw [Bool.eq_iff_iff, decide_eq_true_iff, serves]
  simp

variable (front) in
theorem shadowedFrom_eq_copies
    (serves : ∀ key : RouteKey, served.Holds key ↔
      ∃ e ∈ front, ∃ k ∈ e.keys, k.text = key.text)
    (distinct : ∀ t ∈ tables, (t.keys.map RouteKey.text).Nodup) :
    shadowedFrom served front.length tables = (tables.zipIdx front.length).flatMap fun (t, i) =>
      (t.copies ((front ++ tables).take i)).map (Prod.mk i) := by
  induction tables generalizing served front with
  | nil => rfl
  | cons t tables ih =>
      obtain ⟨distinct_t, distinct⟩ := List.forall_mem_cons.mp distinct
      have serves' (key : RouteKey) : (served.claimAll id t.keys).Holds key ↔
          ∃ e ∈ front ++ [t], ∃ k ∈ e.keys, k.text = key.text := by
        rw [Registry.holds_claimAll_iff, serves]
        simp [or_and_right, exists_or, eq_comm]
      have later := ih (front ++ [t]) serves' distinct
      rw [List.length_append, List.length_singleton, List.append_assoc] at later
      rw [shadowedFrom_cons, refused_eq_copies serves distinct_t, later]
      simp only [List.zipIdx_cons, List.flatMap_cons, List.take_left]
      rfl

/-- Where no table has a text twice, the shadowed routes are the copies: table after table, and in
a table in mounting order. -/
theorem shadowed_eq_copies (distinct : ∀ t ∈ tables, (t.keys.map RouteKey.text).Nodup) :
    shadowed tables = tables.zipIdx.flatMap fun (t, i) =>
      (t.copies (tables.take i)).map (Prod.mk i) :=
  shadowedFrom_eq_copies [] (by simp) distinct

/-- A route is shadowed when its key is a copy in its table. -/
theorem mem_shadowed_iff (distinct : ∀ t ∈ tables, (t.keys.map RouteKey.text).Nodup)
    {key : RouteKey} : (index, key) ∈ shadowed tables ↔
      ∃ t, tables[index]? = some t ∧ key ∈ t.copies (tables.take index) := by
  rw [shadowed_eq_copies distinct, List.mem_flatMap]
  simp only [Prod.exists, List.mem_zipIdx_iff_getElem?, List.mem_map, Prod.mk.injEq]
  constructor
  · rintro ⟨t, _, found, _, copied, rfl, rfl⟩
    exact ⟨t, found, copied⟩
  · rintro ⟨t, found, copied⟩
    exact ⟨t, index, found, key, copied, rfl, rfl⟩

/-- Where no text is mounted twice, nothing is shadowed. -/
theorem shadowed_eq_nil (distinct : ((tables.flatMap keys).map RouteKey.text).Nodup) :
    shadowed tables = [] := by
  have fresh : Registry.empty.Fresh ((tables.flatMap keys).map id) := by
    rw [List.map_id]
    exact Registry.fresh_empty_iff.mpr distinct
  have counted := length_shadowedFrom .empty 0 tables
  rw [Registry.admitted_eq_self_iff.mpr fresh] at counted
  rw [shadowed, ← List.length_eq_zero_iff]
  omega

/-- What is shadowed does not depend on the policies of tables. -/
theorem shadowed_congr {tables tables' : List (Table H)}
    (same : tables.map Table.routes = tables'.map Table.routes) :
    shadowed tables = shadowed tables' := by
  suffices from_eq : ∀ served index,
      shadowedFrom served index tables = shadowedFrom served index tables' from from_eq .empty 0
  induction tables generalizing tables' with
  | nil =>
      obtain rfl := List.map_eq_nil_iff.mp same.symm
      exact fun _ _ => rfl
  | cons t tables ih =>
      obtain ⟨t', rest, rfl, routes_eq, rest_eq⟩ := List.map_eq_cons_iff.mp same.symm
      intro served index
      have keys_eq : t.keys = t'.keys := by rw [keys, keys, routes_eq]
      rw [shadowedFrom_cons, shadowedFrom_cons, keys_eq, ih rest_eq.symm]

end Table

end RpcRoutes
