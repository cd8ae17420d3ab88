import RpcRoutes.Proofs.Startup.Listing

/-!
# Rejected lists

Listing claims a text as soon as it lists it. When a duplicate ends the list, what was listed
before it stays claimed, although nothing comes of it; a tree that is mounted is checked first.

* `Manifest.listRules_stops` splits the rules of a rejected list at the duplicate.
* `Manifest.Accepts` holds of trees that are listed whole; `accepts_iff` says that their keys are
  fresh.
* `Manifest.rejected_untouched_iff`: a rejected list leaves its registry as it was exactly when
  its first rule is the duplicate, and what it leaves there is what later lists are refused for.
-/

namespace RpcRoutes

namespace Manifest

section Rules

variable {base : String} {s after : State} {e : ManifestError} {rs : List OwnedRule}

/-- A list is rejected at a rule whose text is claimed by then. The rules before it are fresh, and
stay claimed. -/
theorem listRules_stops (stops : listRules base .reject s rs = (after, .error e)) :
    ∃ listed r rest, rs = listed ++ r :: rest ∧ s.registry.Fresh (listed.map (ruleKey base)) ∧
      (s.registry.claimAll (ruleKey base) listed).Holds (ruleKey base r) ∧
      e = .duplicateRoute (ruleKey base r) ∧
      after = ⟨s.registry.claimAll (ruleKey base) listed,
        s.counters.addDuplicate r.rule.method⟩ := by
  induction rs generalizing s with
  | nil => cases stops
  | cons r rs ih =>
      by_cases held : s.registry.Holds (ruleKey base r)
      · rw [listRules_cons_of_reject held] at stops
        obtain ⟨rfl, same⟩ := Prod.mk.inj stops
        obtain rfl := Except.error.inj same
        exact ⟨[], r, rs, rfl, ⟨List.nodup_nil, nofun⟩, held, rfl, rfl⟩
      · rw [listRules_cons_of_new held] at stops
        rcases later : listRules base .reject
          ⟨(s.registry.claim (ruleKey base r)).1, s.counters⟩ rs with ⟨last, e' | entries⟩
        · rw [later] at stops
          obtain ⟨rfl, same⟩ := Prod.mk.inj stops
          obtain rfl := Except.error.inj same
          obtain ⟨listed, duplicate, rest, rfl, fresh, claimed, e_eq, last_eq⟩ := ih later
          refine ⟨r :: listed, duplicate, rest, rfl, ?_, claimed, e_eq, last_eq⟩
          rw [List.map_cons, Registry.fresh_cons]
          exact ⟨held, fresh⟩
        · rw [later] at stops
          cases (Prod.mk.inj stops).2

end Rules

/-- Where duplicates are errors, the whole tree is listed. -/
def Accepts (base : String) (s : State) (bindings : List ServiceBinding) : Prop :=
  ∃ after entries, list base .reject s bindings = (after, .ok entries)

theorem accepts_iff {base : String} {s : State} {bindings : List ServiceBinding} :
    Accepts base s bindings ↔ s.registry.Fresh ((Mount.rules bindings).map (ruleKey base)) := by
  rcases listRules_spec base .reject s (Mount.rules bindings) with
    ⟨fresh, counters, lists⟩ | ⟨_, taken, after, key, stops⟩
  · exact iff_of_true ⟨_, _, lists⟩ (fresh rfl)
  · refine iff_of_false ?_ taken
    rintro ⟨other, entries, lists⟩
    cases (Prod.mk.inj (stops.symm.trans lists)).2

/-- When a list is rejected, its registry holds what it held before and the rules that were listed
before the duplicate. So the registry is as it was exactly when the first rule is the duplicate.
Another tree is then accepted as it was before, unless it has a text of those rules. -/
theorem rejected_untouched_iff {base : String} {s after : State} {bindings : List ServiceBinding}
    {e : ManifestError} (rejected : list base .reject s bindings = (after, .error e)) :
    ((∀ key, after.registry.Holds key ↔ s.registry.Holds key) ↔
      ∃ r ∈ (Mount.rules bindings).head?, s.registry.Holds (ruleKey base r)) ∧
    ∃ listed r rest, Mount.rules bindings = listed ++ r :: rest ∧
      e = .duplicateRoute (ruleKey base r) ∧
      (∀ key, after.registry.Holds key ↔
        s.registry.Holds key ∨ ∃ q ∈ listed, key.text = (ruleKey base q).text) ∧
      ∀ corrected, Accepts base after corrected ↔ Accepts base s corrected ∧
        ∀ q ∈ Mount.rules corrected, ∀ q' ∈ listed,
          (ruleKey base q).text ≠ (ruleKey base q').text := by
  obtain ⟨listed, r, rest, split, fresh, claimed, e_eq, rfl⟩ := listRules_stops rejected
  change Mount.rules bindings = listed ++ r :: rest at split
  refine ⟨?_, listed, r, rest, split, e_eq, fun key => Registry.holds_claimAll_iff, ?_⟩
  · rw [split]
    cases listed with
    | nil => exact iff_of_true (fun key => Iff.rfl) ⟨r, rfl, claimed⟩
    | cons first listed =>
        have new : ¬ s.registry.Holds (ruleKey base first) := fresh.2 _ List.mem_cons_self
        have left : (s.registry.claimAll (ruleKey base) (first :: listed)).Holds
            (ruleKey base first) :=
          Registry.holds_claimAll_iff.mpr (Or.inr ⟨first, List.mem_cons_self, rfl⟩)
        refine iff_of_false (fun untouched => new ((untouched _).mp left)) ?_
        rintro ⟨_, ⟨⟩, held⟩
        exact new held
  · intro corrected
    rw [accepts_iff, accepts_iff, Registry.fresh_claimAll_iff, List.forall_mem_map]

/-- The first rule is claimed already: the new rule behind it is not reached, and can be listed
afterwards. -/
theorem rejected_untouched_iff_first :
    ∃ after, list "/v1" .reject ⟨⟨["GET /v1/x"]⟩, .zero⟩
        [⟨"a.A", [⟨"Get", [⟨"GET", "x", ""⟩, ⟨"PUT", "/y", ""⟩]⟩]⟩] =
          (after, .error (.duplicateRoute ⟨"GET", "/v1/x"⟩)) ∧
      (∀ key, after.registry.Holds key ↔ Registry.Holds ⟨["GET /v1/x"]⟩ key) ∧
      Accepts "/v1" after [⟨"a.A", [⟨"Put", [⟨"PUT", "/y", ""⟩]⟩]⟩] := by
  obtain ⟨after, rejected⟩ : ∃ after, list "/v1" .reject ⟨⟨["GET /v1/x"]⟩, .zero⟩
      [⟨"a.A", [⟨"Get", [⟨"GET", "x", ""⟩, ⟨"PUT", "/y", ""⟩]⟩]⟩] =
        (after, .error (.duplicateRoute ⟨"GET", "/v1/x"⟩)) := ⟨_, rfl⟩
  obtain ⟨untouched_iff, -⟩ := rejected_untouched_iff rejected
  have untouched := untouched_iff.mpr ⟨_, rfl, by decide⟩
  refine ⟨after, rejected, untouched, accepts_iff.mpr ⟨by decide, ?_⟩⟩
  simp only [untouched]
  decide

/-- Two services bind `GET /x`, and the tree is rejected. The first of them, which alone would
have been listed before, is then rejected as well. -/
theorem rejected_list_keeps_claims :
    ∃ after last,
      list "" .reject ⟨.empty, .zero⟩
        [⟨"a.A", [⟨"Get", [⟨"GET", "/x", ""⟩]⟩]⟩, ⟨"b.B", [⟨"Get", [⟨"GET", "/x", ""⟩]⟩]⟩] =
          (after, .error (.duplicateRoute ⟨"GET", "/x"⟩)) ∧
      after.registry.size ≠ Registry.empty.size ∧
      Accepts "" ⟨.empty, .zero⟩ [⟨"a.A", [⟨"Get", [⟨"GET", "/x", ""⟩]⟩]⟩] ∧
      list "" .reject after [⟨"a.A", [⟨"Get", [⟨"GET", "/x", ""⟩]⟩]⟩] =
        (last, .error (.duplicateRoute ⟨"GET", "/x"⟩)) :=
  ⟨_, _, rfl, by decide, ⟨_, _, rfl⟩, rfl⟩

end Manifest

end RpcRoutes
