import RpcRoutes.Program.Engine
import RpcRoutes.Proofs.Path.Filling

/-!
# The chosen values

Matching a path searches for values that fill the pattern to it. It finds some whenever there are
any, and of several it chooses those whose lengths come last in lexicographic order: the first
placeholder takes as much as it can, then the second, and so on.

* `capture_greatest`: whatever fills the tokens to a path, values that come no earlier are chosen.
* `params?_chosen`: a template matches the paths that its pattern can be filled to, and the
  parameters it gives are the greatest values that fill the pattern.
-/

namespace RpcRoutes

namespace Path

/-- The longest value is at least as long as any other whose rest satisfies `next`. -/
theorem stretch_longest {next : List Char → Option Values} {value rest : List Char}
    (isValue : IsValue value) (goes_on : (next rest).isSome) :
    ∃ longest values, stretch next (value ++ rest) = some (longest, values) ∧
      value.length ≤ longest.length := by
  obtain ⟨filled, inner⟩ := isValue
  induction value with
  | nil => exact absurd rfl filled
  | cons c value ih =>
      obtain ⟨differs, inner⟩ := not_or.mp (List.mem_cons.not.mp inner)
      rw [List.cons_append, stretch, if_neg (Ne.symm differs)]
      cases value with
      | cons d value =>
          obtain ⟨longest, values, found, longer⟩ := ih (List.cons_ne_nil d value) inner
          rw [found]
          exact ⟨c :: longest, values, rfl, Nat.succ_le_succ longer⟩
      | nil =>
          obtain ⟨values, given⟩ := Option.isSome_iff_exists.mp goes_on
          rw [List.nil_append]
          cases found : stretch next rest with
          | some more => exact ⟨c :: more.1, more.2, rfl, Nat.succ_le_succ (Nat.zero_le _)⟩
          | none => exact ⟨[c], values, by rw [given]; rfl, Nat.le_refl 1⟩

/-- Values come before others when the first that differ in length are shorter. -/
def Precede (values others : Values) : Prop := values.map List.length < others.map List.length

instance (values others : Values) : Decidable (Precede values others) :=
  inferInstanceAs (Decidable (_ < _))

theorem precede_cons_iff {value other : List Char} {values others : Values} :
    Precede (value :: values) (other :: others) ↔
      value.length < other.length ∨ value.length = other.length ∧ Precede values others :=
  List.cons_lt_cons_iff

/-- Where values fill the tokens to a path, these or later ones are chosen. -/
theorem capture_greatest {ts : List Token} {values : Values} {path : List Char}
    (filled : fill ts values = some path) (areValues : ∀ value ∈ values, IsValue value) :
    ∃ found, capture ts path = some found ∧ (values = found ∨ Precede values found) := by
  induction ts generalizing values path with
  | nil =>
      cases values with
      | nil =>
          obtain rfl := Option.some.inj filled
          exact ⟨[], rfl, Or.inl rfl⟩
      | cons value values => cases filled
  | cons t ts ih =>
      cases t with
      | char c =>
          obtain ⟨rest, filled', rfl⟩ := Option.map_eq_some_iff.mp filled
          rw [capture, if_pos rfl]
          exact ih filled' areValues
      | hole name =>
          cases values with
          | nil => cases filled
          | cons value values =>
              obtain ⟨rest, filled', rfl⟩ := Option.map_eq_some_iff.mp filled
              obtain ⟨isValue, areValues'⟩ := List.forall_mem_cons.mp areValues
              obtain ⟨found, captured, order⟩ := ih filled' areValues'
              obtain ⟨longest, others, stretched, longer⟩ :=
                stretch_longest isValue (Option.isSome_iff_exists.mpr ⟨found, captured⟩)
              refine ⟨longest :: others, by rw [capture, stretched]; rfl, ?_⟩
              rcases Nat.lt_or_eq_of_le longer with shorter | same
              · exact Or.inr (precede_cons_iff.mpr (Or.inl shorter))
              · -- The same value leaves the same rest, which decides the other values.
                obtain ⟨_, rest', split_eq, captured'⟩ := eq_append_of_stretch stretched
                obtain ⟨rfl, rfl⟩ := List.append_inj split_eq same
                obtain rfl := Option.some.inj (captured.symm.trans captured')
                rcases order with rfl | earlier
                · exact Or.inl rfl
                · exact Or.inr (precede_cons_iff.mpr (Or.inr ⟨rfl, earlier⟩))

/-- A path is matched exactly when the tokens can be filled to it. -/
theorem isSome_capture_iff {ts : List Token} {path : List Char} : (capture ts path).isSome ↔
    ∃ values, fill ts values = some path ∧ ∀ value ∈ values, IsValue value := by
  constructor
  · intro matched
    obtain ⟨values, captured⟩ := Option.isSome_iff_exists.mp matched
    exact ⟨values, fill_of_capture captured⟩
  · rintro ⟨values, filled, areValues⟩
    obtain ⟨found, captured, _⟩ := capture_greatest filled areValues
    exact Option.isSome_iff_exists.mpr ⟨found, captured⟩

end Path

def PathParams.values (params : PathParams) : Path.Values :=
  (params.entries.map Prod.snd).map String.toList

namespace Template

variable {t : Template} {path : String} {params : PathParams}

theorem isSome_params? : (t.params? path).isSome =
    (Path.capture (Path.tokens t.pattern.toList) path.toList).isSome := by
  rw [params?, Option.isSome_map, Path.values?_eq, t.tokens_eq]

/-- The parameters that a path gives a template hold the values that it captures. -/
theorem capture_of_params? (found : t.params? path = some params) :
    Path.capture (Path.tokens t.pattern.toList) path.toList = some params.values := by
  obtain ⟨values, captured, rfl⟩ := Option.map_eq_some_iff.mp found
  rw [Path.values?_eq] at captured
  have counted := Path.length_of_fill (Path.fill_of_capture captured).1
  have values_eq : (t.names.zip (values.map String.ofList)).map Prod.snd =
      values.map String.ofList :=
    List.map_snd_zip (Nat.le_of_eq (by rw [names, List.length_map, List.length_map, counted]))
  have back : String.toList ∘ String.ofList = id := funext fun _ => String.toList_ofList
  rw [PathParams.values, values_eq, List.map_map, back, List.map_id, ← t.tokens_eq, captured]

end Template

/-- A compiled template matches just the paths that its pattern can be filled to. The parameters
are named as the placeholders of the pattern, in their order; their values fill the pattern to
the path, and whatever else does comes before them. -/
theorem params?_chosen [PatternEngine] {pattern : String} {t : Template}
    (compiled : Template.compile? pattern = some t) (path : String) :
    ((t.params? path).isSome ↔ ∃ values, Path.Fills pattern.toList values path.toList) ∧
    ∀ params, t.params? path = some params →
      params.entries.map Prod.fst = Path.placeholders pattern ∧
      Path.Fills pattern.toList params.values path.toList ∧
      ∀ values, Path.Fills pattern.toList values path.toList →
        values = params.values ∨ Path.Precede values params.values := by
  obtain rfl := Template.pattern_of_compile? compiled
  simp only [Path.fills_iff]
  constructor
  · rw [Template.isSome_params?, Path.isSome_capture_iff]
  · intro params found
    have captured := Template.capture_of_params? found
    refine ⟨Template.names_of_params? found, Path.fill_of_capture captured, ?_⟩
    rintro values ⟨filled, areValues⟩
    obtain ⟨greatest, captured', order⟩ := Path.capture_greatest filled areValues
    rw [Option.some.inj (captured.symm.trans captured')]
    exact order

/-- Two placeholders in one segment, before a text that also occurs in the path: the first takes
all but the last character that the second needs. -/
theorem params?_chosen_adjacent :
    ∃ t params, Template.compile? "/{a}{b}:x" = some t ∧ t.params? "/1:x:x" = some params ∧
      params.entries = [("a", "1:"), ("b", "x")] ∧
      ∀ values, Path.Fills "/{a}{b}:x".toList values "/1:x:x".toList →
        values = params.values ∨ Path.Precede values params.values :=
  ⟨_, _, rfl, rfl, rfl, ((params?_chosen rfl "/1:x:x").2 _ rfl).2.2⟩

end RpcRoutes
