import Mathlib.Data.List.Nodup
import RpcRoutes.Proofs.Path.Parameters

/-!
# Repeated placeholders

A pattern may have several placeholders of one name, and a path may give them different values.
Then it matters whether the first or the last of them is read.

* `PathParams.last?` reads the last parameter of a name, as `PathParams.get?` reads the first.
* `Path.capture_of_fill_chars`: a path that fills each placeholder with one character leaves no
  choice of values.
* `Template.last?_eq_get?_iff`: the two readers agree on all paths exactly when the pattern repeats
  no name.
-/

namespace RpcRoutes

/-! ### Association lists -/

section Lookup

variable {α β : Type} [BEq α] [LawfulBEq α]

theorem isSome_lookup_iff_mem {entries : List (α × β)} {key : α} :
    (entries.lookup key).isSome ↔ key ∈ entries.map Prod.fst := by
  rw [List.lookup_isSome_iff, List.mem_map]
  refine exists_congr fun entry => and_congr_right fun _ => ?_
  rw [beq_iff_eq, eq_comm]

/-- Keys that all have one value are looked up with it. -/
theorem lookup_map_of_mem {keys : List α} {key : α} (mem : key ∈ keys) (value : β) :
    (keys.map fun k => (k, value)).lookup key = some value := by
  induction keys with
  | nil => cases mem
  | cons other keys ih =>
      rw [List.map_cons, List.lookup_cons]
      cases first : key == other with
      | true => rfl
      | false => exact ih ((List.mem_cons.mp mem).resolve_left (ne_of_beq_false first))

/-- Where every key occurs once, the order of the entries does not matter. -/
theorem lookup_perm {entries others : List (α × β)} (same : entries.Perm others)
    (distinct : (entries.map Prod.fst).Nodup) (key : α) :
    entries.lookup key = others.lookup key := by
  induction same with
  | nil => rfl
  | cons entry _ ih =>
      have distinct' := (List.nodup_cons.mp distinct).2
      rw [List.lookup_cons, List.lookup_cons, ih distinct']
  | swap entry other rest =>
      have differs : other.1 ≠ entry.1 := fun eq =>
        (List.nodup_cons.mp distinct).1 (by simp [eq])
      rw [List.lookup_cons, List.lookup_cons, List.lookup_cons, List.lookup_cons]
      cases first : key == other.1 with
      | true =>
          have second : (key == entry.1) = false :=
            beq_false_of_ne (eq_of_beq first ▸ differs)
          rw [second]
      | false => rfl
  | trans left _ ih ih' =>
      exact (ih distinct).trans (ih' ((left.map Prod.fst).nodup_iff.mp distinct))

end Lookup

/-! ### Paths without a choice -/

namespace Path

/-- A filled path has a character for each token at least. -/
theorem length_le_of_fill {ts : List Token} {values : Values} {path : List Char}
    (filled : fill ts values = some path) (areValues : ∀ value ∈ values, IsValue value) :
    ts.length ≤ path.length := by
  induction ts generalizing values path with
  | nil => exact Nat.zero_le _
  | cons t ts ih =>
      cases t with
      | char c =>
          obtain ⟨rest, filled', rfl⟩ := Option.map_eq_some_iff.mp filled
          exact Nat.succ_le_succ (ih filled' areValues)
      | hole name =>
          cases values with
          | nil => cases filled
          | cons value values =>
              obtain ⟨rest, filled', rfl⟩ := Option.map_eq_some_iff.mp filled
              obtain ⟨isValue, areValues'⟩ := List.forall_mem_cons.mp areValues
              have some_char := List.length_pos_iff.mpr isValue.1
              have later := ih filled' areValues'
              rw [List.length_cons, List.length_append]
              omega

/-- A placeholder takes one character when the tokens behind it need all others. -/
theorem stretch_capture_of_length_le {ts : List Token} {c : Char} {path : List Char}
    {values : Values} (plain : c ≠ '/') (captured : capture ts path = some values)
    (short : path.length ≤ ts.length) : stretch (capture ts) (c :: path) = some ([c], values) := by
  have no_more : stretch (capture ts) path = none := by
    rw [Option.eq_none_iff_forall_ne_some]
    rintro ⟨value, others⟩ stretched
    obtain ⟨isValue, rest, rfl, captured'⟩ := eq_append_of_stretch stretched
    obtain ⟨filled, areValues⟩ := fill_of_capture captured'
    have some_char := List.length_pos_iff.mpr isValue.1
    have needed := length_le_of_fill filled areValues
    rw [List.length_append] at short
    omega
  rw [stretch, if_neg plain, no_more]
  simp [captured]

/-- Values of one character each are captured as they were filled in: the path has no character
that another placeholder could do without. -/
theorem capture_of_fill_chars {ts : List Token} {cs path : List Char}
    (filled : fill ts (cs.map ([·])) = some path) (plain : '/' ∉ cs) :
    capture ts path = some (cs.map ([·])) ∧ path.length = ts.length := by
  induction ts generalizing cs path with
  | nil =>
      cases cs with
      | nil =>
          obtain rfl := Option.some.inj filled
          exact ⟨rfl, rfl⟩
      | cons c cs => cases filled
  | cons t ts ih =>
      cases t with
      | char c =>
          obtain ⟨rest, filled', rfl⟩ := Option.map_eq_some_iff.mp filled
          obtain ⟨captured, length_eq⟩ := ih filled' plain
          exact ⟨by rw [capture, if_pos rfl, captured], congrArg (· + 1) length_eq⟩
      | hole name =>
          cases cs with
          | nil => cases filled
          | cons c cs =>
              obtain ⟨differs, plain'⟩ := not_or.mp (List.mem_cons.not.mp plain)
              obtain ⟨rest, filled', rfl⟩ := Option.map_eq_some_iff.mp filled
              obtain ⟨captured, length_eq⟩ := ih filled' plain'
              have alone :=
                stretch_capture_of_length_le (Ne.symm differs) captured (Nat.le_of_eq length_eq)
              refine ⟨?_, congrArg (· + 1) length_eq⟩
              rw [capture, List.singleton_append, alone]
              rfl

/-- As many values as there are placeholders fill a list of tokens. -/
theorem exists_fill {ts : List Token} {values : Values}
    (counted : values.length = (ts.filterMap Token.name?).length) :
    ∃ path, fill ts values = some path := by
  induction ts generalizing values with
  | nil =>
      obtain rfl := List.length_eq_zero_iff.mp counted
      exact ⟨[], rfl⟩
  | cons t ts ih =>
      cases t with
      | char c =>
          obtain ⟨path, filled⟩ := ih counted
          exact ⟨c :: path, by rw [fill, filled]; rfl⟩
      | hole name =>
          cases values with
          | nil => cases counted
          | cons value values =>
              obtain ⟨path, filled⟩ := ih (Nat.succ.inj counted)
              exact ⟨value ++ path, by rw [fill, filled]; rfl⟩

end Path

/-! ### The first and the last parameter -/

/-- The value of the last parameter of a name. -/
def PathParams.last? (params : PathParams) (name : String) : Option String :=
  params.entries.reverse.lookup name

theorem PathParams.isSome_last?_iff {params : PathParams} {name : String} :
    (params.last? name).isSome ↔ name ∈ params.entries.map Prod.fst := by
  rw [last?, isSome_lookup_iff_mem, List.map_reverse, List.mem_reverse]

/-- Parameters with different names are read from either end. -/
theorem PathParams.last?_eq_get? {params : PathParams}
    (distinct : (params.entries.map Prod.fst).Nodup) (name : String) :
    params.last? name = params.get? name :=
  (lookup_perm params.entries.reverse_perm.symm distinct name).symm

namespace Template

/-- Wherever the placeholders are divided in two parts, some path gives those of the first part one
value and those of the second part another one. -/
theorem exists_params?_eq {t : Template} {front rest : List String}
    (split : t.names = front ++ rest) :
    ∃ path, t.params? path =
      some ⟨front.map (fun name => (name, "a")) ++ rest.map fun name => (name, "b")⟩ := by
  let cs := front.map (fun _ => 'a') ++ rest.map fun _ => 'b'
  have counted : (cs.map ([·])).length = (t.tokens.filterMap Path.Token.name?).length := by
    have total := congrArg List.length split
    rw [names, List.length_map] at total
    simp [cs, total]
  have plain : '/' ∉ cs := by simp [cs]
  obtain ⟨path, filled⟩ := Path.exists_fill counted
  obtain ⟨captured, -⟩ := Path.capture_of_fill_chars filled plain
  refine ⟨String.ofList path, ?_⟩
  have texts : (cs.map ([·])).map String.ofList =
      front.map (fun _ => "a") ++ rest.map fun _ => "b" := by
    simp [cs]
  rw [params?, Path.values?_eq, String.toList_ofList, captured, Option.map_some, texts, split,
    List.zip_append (List.length_map _).symm]
  simp [← List.zip_map']

/-- The first and the last parameter of a name have the same value for all paths exactly when no
name is repeated. -/
theorem last?_eq_get?_iff (t : Template) :
    (∀ (path : String) (params : PathParams), t.params? path = some params →
      ∀ name, params.last? name = params.get? name) ↔ (Path.placeholders t.pattern).Nodup := by
  constructor
  · intro agree
    rw [← names_eq, List.nodup_iff_sublist]
    intro name twice
    obtain ⟨front, rest, split, first, last⟩ := List.cons_sublist_iff.mp twice
    rw [List.singleton_sublist] at last
    obtain ⟨path, found⟩ := exists_params?_eq split
    have same := agree path _ found name
    -- The last parameter of the name is one of the second part, the first one of the first part.
    rw [PathParams.last?, PathParams.get?, List.reverse_append, ← List.map_reverse,
      List.lookup_append, List.lookup_append, lookup_map_of_mem (List.mem_reverse.mpr last),
      lookup_map_of_mem first, Option.some_or, Option.some_or] at same
    exact absurd same (by decide)
  · intro distinct path params found name
    rw [← names_of_params? found] at distinct
    exact PathParams.last?_eq_get? distinct name

end Template

end RpcRoutes
