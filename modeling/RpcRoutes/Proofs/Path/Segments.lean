import Mathlib.Data.List.Forall2
import RpcRoutes.Program.Engine
import RpcRoutes.Proofs.Path.Literal
import RpcRoutes.Proofs.Path.Parameters

/-!
# Segments

A slash of a pattern meets a slash of the path and nothing else does, since no value holds one. So
matching a whole path is matching what stands between the slashes, piece by piece, and the longest
choice for the whole is made of the longest choices for the pieces.

* `Path.segments` are the pieces of a text, `slash_induction` the way to reason about them.
* `capture_append_slash`: the values of a pattern and a path that are cut at a slash are those of
  the two parts.
* `PatternEngine.AcceptsSegments` is what matching by segments asks of an engine.
* `params?_iff_segments`: a template matches as the templates of its segments do, and captures
  what they capture.
-/

namespace RpcRoutes

namespace Path

/-- What stands between the slashes of a text; one more than there are slashes. -/
def segments (text : String) : List String := (text.toList.splitOn '/').map String.ofList

/-! ### Cutting at slashes -/

/-- What holds of all texts without a slash, and of a text when it holds behind its first slash,
holds of every text. -/
@[elab_as_elim]
theorem slash_induction {motive : List Char → Prop}
    (single : ∀ text, '/' ∉ text → motive text)
    (more : ∀ front rest, '/' ∉ front → motive rest → motive (front ++ '/' :: rest))
    (text : List Char) : motive text := by
  induction length : text.length using Nat.strongRecOn generalizing text with
  | ind n ih =>
      subst length
      by_cases slashed : '/' ∈ text
      · obtain ⟨front, rest, rfl, unslashed⟩ := List.eq_append_cons_of_mem slashed
        have shorter : rest.length < (front ++ '/' :: rest).length := by
          rw [List.length_append, List.length_cons]
          omega
        exact more front rest unslashed (ih rest.length shorter rest rfl)
      · exact single text slashed

theorem splitOn_of_unslashed {text : List Char} (unslashed : '/' ∉ text) :
    text.splitOn '/' = [text] :=
  List.splitOn_eq_singleton unslashed

theorem splitOn_append_slash {front : List Char} (unslashed : '/' ∉ front) (rest : List Char) :
    (front ++ '/' :: rest).splitOn '/' = front :: rest.splitOn '/' :=
  List.splitOn_append_cons_self_of_not_mem unslashed rest

/-- The placeholder names of a pattern are those of its segments. -/
theorem names_segments (pattern : List Char) :
    names pattern = (pattern.splitOn '/').flatMap names := by
  induction pattern using slash_induction with
  | single pattern unslashed =>
      rw [splitOn_of_unslashed unslashed, List.flatMap_singleton]
  | more front rest unslashed ih =>
      rw [splitOn_append_slash unslashed, List.flatMap_cons, names_append_slash, ih]

/-! ### Matching across a slash -/

/-- A character token is a character of the pattern. -/
theorem mem_of_char_mem_tokens {c : Char} {pattern : List Char} (mem : .char c ∈ tokens pattern) :
    c ∈ pattern := by
  rw [← flatMap_text_tokens pattern]
  exact List.mem_flatMap.mpr ⟨.char c, mem, List.mem_singleton_self c⟩

/-- Values hold no slash, so each slash of a path is one of the tokens. -/
theorem slash_mem_of_fill {ts : List Token} {values : Values} {path : List Char}
    (filled : fill ts values = some path) (areValues : ∀ value ∈ values, IsValue value)
    (slashed : '/' ∈ path) : .char '/' ∈ ts := by
  induction ts generalizing values path with
  | nil =>
      cases values with
      | nil =>
          obtain rfl := Option.some.inj filled
          cases slashed
      | cons value values => cases filled
  | cons t ts ih =>
      cases t with
      | char c =>
          obtain ⟨rest, filled', rfl⟩ := Option.map_eq_some_iff.mp filled
          rcases List.mem_cons.mp slashed with rfl | later
          · exact List.mem_cons_self
          · exact List.mem_cons_of_mem _ (ih filled' areValues later)
      | hole name =>
          cases values with
          | nil => cases filled
          | cons value values =>
              obtain ⟨rest, filled', rfl⟩ := Option.map_eq_some_iff.mp filled
              obtain ⟨isValue, areValues'⟩ := List.forall_mem_cons.mp areValues
              rcases List.mem_append.mp slashed with inside | later
              · exact absurd inside isValue.2
              · exact List.mem_cons_of_mem _ (ih filled' areValues' later)

/-- Tokens without a slash do not match a path that has one. -/
theorem capture_eq_none_of_slashed {ts : List Token} {path : List Char}
    (plain : .char '/' ∉ ts) (slashed : '/' ∈ path) : capture ts path = none := by
  rw [Option.eq_none_iff_forall_ne_some]
  intro values captured
  obtain ⟨filled, areValues⟩ := fill_of_capture captured
  exact plain (slash_mem_of_fill filled areValues slashed)

/-- Tokens with a slash do not match a path that has none. -/
theorem capture_eq_none_of_unslashed {ts : List Token} {path : List Char}
    (cut : .char '/' ∈ ts) (unslashed : '/' ∉ path) : capture ts path = none := by
  rw [Option.eq_none_iff_forall_ne_some]
  intro values captured
  exact unslashed (mem_of_capture cut captured)

section Cut

variable {front rest : List Char}

/-- A stretch ends before the next slash. Where what follows is cut there, so is the stretch. -/
theorem stretch_append_slash {next inner : List Char → Option Values} {others : Option Values}
    (cut : ∀ part, '/' ∉ part → next (part ++ '/' :: rest) =
      (inner part).bind fun values => others.map (values ++ ·))
    (unslashed : '/' ∉ front) : stretch next (front ++ '/' :: rest) =
      (stretch inner front).bind fun found =>
        others.map fun more => (found.1, found.2 ++ more) := by
  induction front with
  | nil => rfl
  | cons c front ih =>
      obtain ⟨differs, unslashed⟩ := not_or.mp (List.mem_cons.not.mp unslashed)
      rw [List.cons_append, stretch, stretch, if_neg (Ne.symm differs), if_neg (Ne.symm differs),
        ih unslashed, cut front unslashed]
      cases others with
      | none => cases stretch inner front <;> cases inner front <;> rfl
      | some more => cases stretch inner front <;> cases inner front <;> rfl

/-- A pattern and a path that are cut at a slash match when both parts do, with the values of the
first part and then those of the second. -/
theorem capture_append_slash {ts us : List Token} (plain : .char '/' ∉ ts)
    (unslashed : '/' ∉ front) : capture (ts ++ .char '/' :: us) (front ++ '/' :: rest) =
      (capture ts front).bind fun values => (capture us rest).map (values ++ ·) := by
  induction ts generalizing front with
  | nil =>
      cases front with
      | nil =>
          change (if '/' = '/' then capture us rest else none) = (capture us rest).map ([] ++ ·)
          rw [if_pos rfl]
          exact Option.map_id'.symm
      | cons c front =>
          have differs : '/' ≠ c := (not_or.mp (List.mem_cons.not.mp unslashed)).1
          exact if_neg differs
  | cons t ts ih =>
      have plain' : .char '/' ∉ ts := fun mem => plain (List.mem_cons_of_mem _ mem)
      cases t with
      | char c =>
          cases front with
          | nil =>
              have differs : c ≠ '/' := by
                rintro rfl
                exact plain List.mem_cons_self
              exact if_neg differs
          | cons d front =>
              have unslashed' : '/' ∉ front := fun mem => unslashed (List.mem_cons_of_mem _ mem)
              rw [List.cons_append, List.cons_append, capture, capture]
              by_cases same : c = d
              · rw [if_pos same, if_pos same, ih plain' unslashed']
              · rw [if_neg same, if_neg same]
                rfl
      | hole name =>
          have cut := stretch_append_slash (fun part unslashed => ih plain' unslashed) unslashed
          rw [List.cons_append, capture, capture, cut]
          cases stretch (capture ts) front <;> cases capture us rest <;> rfl

end Cut

/-! ### Captured parameters -/

/-- The placeholder names of a pattern with the values that a path gives them. -/
def entries? (pattern path : List Char) : Option (List (String × String)) :=
  (capture (tokens pattern) path).map fun values =>
    ((names pattern).map String.ofList).zip (values.map String.ofList)

section Entries

variable {pattern path front rest pathFront pathRest : List Char}

theorem entries?_eq_none_of_slashed (unslashed : '/' ∉ pattern) (slashed : '/' ∈ path) :
    entries? pattern path = none := by
  have plain : .char '/' ∉ tokens pattern := fun mem => unslashed (mem_of_char_mem_tokens mem)
  rw [entries?, capture_eq_none_of_slashed plain slashed, Option.map_none]

theorem entries?_eq_none_of_unslashed (unslashed : '/' ∉ path) :
    entries? (front ++ '/' :: rest) path = none := by
  have cut : .char '/' ∈ tokens (front ++ '/' :: rest) := by
    rw [tokens_append_slash]
    exact List.mem_append_right _ List.mem_cons_self
  rw [entries?, capture_eq_none_of_unslashed cut unslashed, Option.map_none]

theorem entries?_append_slash (unslashed : '/' ∉ front) (unslashed' : '/' ∉ pathFront) :
    entries? (front ++ '/' :: rest) (pathFront ++ '/' :: pathRest) =
      (entries? front pathFront).bind fun entries =>
        (entries? rest pathRest).map (entries ++ ·) := by
  have plain : .char '/' ∉ tokens front := fun mem => unslashed (mem_of_char_mem_tokens mem)
  rw [entries?, entries?, entries?, tokens_append_slash, capture_append_slash plain unslashed',
    names_append_slash]
  cases captured : capture (tokens front) pathFront with
  | none => rfl
  | some values =>
      cases capture (tokens rest) pathRest with
      | none => rfl
      | some others =>
          -- One value for each name of the first part keeps names and values in step.
          have counted : ((names front).map String.ofList).length =
              (values.map String.ofList).length := by
            rw [List.length_map, List.length_map, length_of_fill (fill_of_capture captured).1]
            rfl
          simp only [Option.map_some, Option.bind_some, List.map_append,
            List.zip_append counted]

/-- A pattern matches a path as its segments match those of the path, one by one, and captures
what they capture. -/
theorem entries?_eq_some_iff {entries : List (String × String)} :
    entries? pattern path = some entries ↔
      (pattern.splitOn '/').length = (path.splitOn '/').length ∧
      ∃ parts, List.Forall₂ (fun pair part => entries? pair.1 pair.2 = some part)
        ((pattern.splitOn '/').zip (path.splitOn '/')) parts ∧ entries = parts.flatten := by
  induction pattern using slash_induction generalizing path entries with
  | single pattern unslashed =>
      rw [splitOn_of_unslashed unslashed]
      induction path using slash_induction with
      | single path unslashed' =>
          rw [splitOn_of_unslashed unslashed']
          constructor
          · intro matched
            exact ⟨rfl, [entries], .cons matched .nil, List.flatten_singleton.symm⟩
          · rintro ⟨_, parts, each, rfl⟩
            obtain ⟨part, none, matched, ended, rfl⟩ := List.forall₂_cons_left_iff.mp each
            obtain rfl := List.forall₂_nil_left_iff.mp ended
            rwa [List.flatten_singleton]
      | more pathFront pathRest unslashed' _ =>
          have slashed : '/' ∈ pathFront ++ '/' :: pathRest :=
            List.mem_append_right _ List.mem_cons_self
          rw [entries?_eq_none_of_slashed unslashed slashed, splitOn_append_slash unslashed']
          simp
  | more front rest unslashed ih =>
      rw [splitOn_append_slash unslashed]
      induction path using slash_induction with
      | single path unslashed' =>
          rw [entries?_eq_none_of_unslashed unslashed', splitOn_of_unslashed unslashed']
          simp
      | more pathFront pathRest unslashed' _ =>
          rw [entries?_append_slash unslashed unslashed', splitOn_append_slash unslashed',
            List.zip_cons_cons, List.length_cons, List.length_cons, Nat.add_right_cancel_iff]
          constructor
          · intro matched
            obtain ⟨first, here, matched⟩ := Option.bind_eq_some_iff.mp matched
            obtain ⟨later, there, rfl⟩ := Option.map_eq_some_iff.mp matched
            obtain ⟨aligned, parts, each, rfl⟩ := ih.mp there
            exact ⟨aligned, first :: parts, .cons here each, rfl⟩
          · rintro ⟨aligned, parts, each, rfl⟩
            cases each with
            | cons here each =>
                rw [here, ih.mpr ⟨aligned, _, each, rfl⟩]
                rfl

end Entries

end Path

/-! ### Engines -/

namespace PatternEngine

/-- The engine accepts every segment of a pattern that it accepts. So does an engine with a limit
on the size of what it compiles: a segment compiles to a part of the whole. -/
def AcceptsSegments [PatternEngine] : Prop :=
  ∀ pattern, accepts pattern → ∀ segment ∈ Path.segments pattern, accepts segment

/-- A segment has no more placeholders than its pattern. -/
theorem acceptsSegments_bounded (limit : Nat) : @AcceptsSegments (bounded limit) := by
  intro pattern accepted segment mem
  obtain ⟨piece, inside, rfl⟩ := List.mem_map.mp mem
  have fewer : (Path.names piece).length ≤ (Path.names pattern.toList).length := by
    rw [Path.names_segments pattern.toList, List.flatMap_def]
    exact (List.sublist_flatten_of_mem (List.mem_map_of_mem inside)).length_le
  have small : (Path.placeholders pattern).length ≤ limit := of_decide_eq_true accepted
  apply decide_eq_true
  rw [Path.placeholders_eq, List.length_map] at small ⊢
  rw [String.toList_ofList]
  exact Nat.le_trans fewer small

end PatternEngine

/-! ### Templates -/

namespace Template

/-- What a template captures are the entries of its pattern. -/
theorem params?_eq_some_iff {t : Template} {path : String} {params : PathParams} :
    t.params? path = some params ↔
      Path.entries? t.pattern.toList path.toList = some params.entries := by
  have entries_eq : t.params? path = (Path.entries? t.pattern.toList path.toList).map .mk := by
    rw [params?, Path.values?_eq, Path.entries?, names_eq, Path.placeholders_eq, t.tokens_eq,
      Option.map_map]
    rfl
  rw [entries_eq, Option.map_eq_some_iff]
  constructor
  · rintro ⟨entries, matched, rfl⟩
    exact matched
  · intro matched
    exact ⟨params.entries, matched, rfl⟩

variable [PatternEngine]

/-- The template of a pattern captures these parameters of a path. -/
def Captures (pattern path : String) (params : PathParams) : Prop :=
  ∃ t, compile? pattern = some t ∧ t.params? path = some params

theorem captures_iff {pattern path : String} {params : PathParams} :
    Captures pattern path params ↔ (compile? pattern).isSome ∧
      Path.entries? pattern.toList path.toList = some params.entries := by
  constructor
  · rintro ⟨t, compiled, matched⟩
    rw [params?_eq_some_iff, pattern_of_compile? compiled] at matched
    exact ⟨Option.isSome_of_eq_some compiled, matched⟩
  · rintro ⟨compiles, matched⟩
    obtain ⟨t, compiled⟩ := Option.isSome_iff_exists.mp compiles
    refine ⟨t, compiled, ?_⟩
    rwa [params?_eq_some_iff, pattern_of_compile? compiled]

/-- Pieces that have templates capture parameters as they have entries. -/
theorem forall₂_captures_iff {patterns paths : List (List Char)}
    (compiles : ∀ piece ∈ patterns, (compile? (String.ofList piece)).isSome)
    {parts : List PathParams} :
    List.Forall₂ (fun pair part => Captures pair.1 pair.2 part)
        ((patterns.map String.ofList).zip (paths.map String.ofList)) parts ↔
      List.Forall₂ (fun pair part => Path.entries? pair.1 pair.2 = some part)
        (patterns.zip paths) (parts.map PathParams.entries) := by
  have here : ∀ pair ∈ patterns.zip paths, (compile? (String.ofList pair.1)).isSome := by
    intro pair mem
    exact compiles pair.1 (List.of_mem_zip mem).1
  simp only [List.zip_map, List.forall₂_map_left_iff, List.forall₂_map_right_iff, captures_iff,
    List.forall₂_and_left, Prod.map_fst, Prod.map_snd, String.toList_ofList]
  exact and_iff_right here

end Template

/-- Over an engine that accepts the segments of what it accepts, every segment of a pattern that
has a template has one of its own. A path matches the pattern with these parameters just when it
has as many segments, each of which matches the template of the pattern's segment at its place, and
the parameters are those of all segments in their order. -/
theorem params?_iff_segments [PatternEngine] (segmental : PatternEngine.AcceptsSegments)
    {pattern : String} {t : Template} (compiled : Template.compile? pattern = some t) :
    (∀ segment ∈ Path.segments pattern, (Template.compile? segment).isSome) ∧
    ∀ (path : String) (params : PathParams), t.params? path = some params ↔
      (Path.segments pattern).length = (Path.segments path).length ∧
      ∃ parts : List PathParams,
        List.Forall₂ (fun pair part => Template.Captures pair.1 pair.2 part)
          ((Path.segments pattern).zip (Path.segments path)) parts ∧
        params.entries = parts.flatMap PathParams.entries := by
  have accepted : PatternEngine.accepts pattern :=
    Template.isSome_compile?_iff.mp (Option.isSome_of_eq_some compiled)
  have compiles : ∀ segment ∈ Path.segments pattern, (Template.compile? segment).isSome := by
    intro segment mem
    exact Template.isSome_compile?_iff.mpr (segmental pattern accepted segment mem)
  refine ⟨compiles, ?_⟩
  intro path params
  have pieces_compile : ∀ piece ∈ pattern.toList.splitOn '/',
      (Template.compile? (String.ofList piece)).isSome := by
    intro piece mem
    exact compiles _ (List.mem_map_of_mem mem)
  rw [Template.params?_eq_some_iff, Template.pattern_of_compile? compiled,
    Path.entries?_eq_some_iff, Path.segments, Path.segments, List.length_map, List.length_map]
  simp only [Template.forall₂_captures_iff pieces_compile, List.flatMap_def]
  constructor
  · rintro ⟨aligned, parts, each, eq⟩
    have back : (parts.map PathParams.mk).map PathParams.entries = parts := by
      rw [List.map_map]
      exact List.map_id parts
    exact ⟨aligned, parts.map .mk, by rwa [back], by rwa [back]⟩
  · rintro ⟨aligned, parts, each, eq⟩
    exact ⟨aligned, _, each, eq⟩

/-- Two placeholders share a segment, an empty segment follows, and a brace pair around a slash is
no placeholder: its halves are segments that stand for themselves. -/
theorem params?_iff_segments_braced : PatternEngine.AcceptsSegments ∧
    ∃ t params, Template.compile? "/{a}-{b}//{x/y}" = some t ∧
      Path.segments "/{a}-{b}//{x/y}" = ["", "{a}-{b}", "", "\x7bx", "y\x7d"] ∧
      Path.segments "/1-2-3//{x/y}" = ["", "1-2-3", "", "\x7bx", "y\x7d"] ∧
      t.params? "/1-2-3//{x/y}" = some params ∧ params.entries = [("a", "1-2"), ("b", "3")] ∧
      ∃ parts : List PathParams,
        List.Forall₂ (fun pair part => Template.Captures pair.1 pair.2 part)
          ((Path.segments "/{a}-{b}//{x/y}").zip (Path.segments "/1-2-3//{x/y}")) parts ∧
        params.entries = parts.flatMap PathParams.entries := by
  have segmental : PatternEngine.AcceptsSegments :=
    PatternEngine.acceptsSegments_bounded 10000
  refine ⟨segmental, _, _, rfl, by decide, by decide, rfl, by decide, ?_⟩
  exact (((params?_iff_segments segmental rfl).2 "/1-2-3//{x/y}" _).mp rfl).2

end RpcRoutes
