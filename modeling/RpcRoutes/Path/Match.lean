import RpcRoutes.Path.Placeholder

/-!
# Matching a path

A path matches a list of tokens when every character token meets its character and every
placeholder meets a value that is not empty and holds no slash. Of several ways to choose the
values the leftmost placeholder takes the longest value it can, then the next, and so on.

* `Path.fill` puts values in the place of placeholders, the way back from values to a path.
* `Path.capture` says which values are chosen; it is defined by recursion on the tokens.
  `fill_of_capture` says that the chosen values give back the path.
* `Path.chart` lists the answers of `capture` for a path and for all that is left of it after
  each of its characters, in time proportional to tokens times characters. `chart_eq` says so.
-/

namespace RpcRoutes.Path

/-- The values of the placeholders, in pattern order. -/
abbrev Values := List (List Char)

/-- The path that a list of tokens becomes when each placeholder is replaced by its value; none
when there are more or fewer values than placeholders. -/
def fill : List Token → Values → Option (List Char)
  | [], [] => some []
  | [], _ :: _ => none
  | .char c :: ts, values => (fill ts values).map (c :: ·)
  | .hole _ :: _, [] => none
  | .hole _ :: ts, value :: values => (fill ts values).map (value ++ ·)

/-- A value that a placeholder can take: it is not empty and holds no slash. -/
def IsValue (value : List Char) : Prop := value ≠ [] ∧ '/' ∉ value

instance (value : List Char) : Decidable (IsValue value) := inferInstanceAs (Decidable (_ ∧ _))

/-- The longest value that can start a path when the remaining path has to satisfy `next`,
with the values that `next` then gives. -/
def stretch (next : List Char → Option Values) : List Char → Option (List Char × Values)
  | [] => none
  | c :: rest =>
    if c = '/' then none
    else
      match stretch next rest with
      | some (value, values) => some (c :: value, values)
      | none => (next rest).map fun values => ([c], values)

/-- The values with which a path matches, the leftmost as long as possible, or none. -/
def capture : List Token → List Char → Option Values
  | [], [] => some []
  | [], _ :: _ => none
  | .char _ :: _, [] => none
  | .char c :: ts, d :: path => if c = d then capture ts path else none
  | .hole _ :: ts, path => (stretch (capture ts) path).map fun (value, values) => value :: values

/-- A stretch takes a value off the front of a path and leaves a rest that satisfies `next`. -/
theorem eq_append_of_stretch {next : List Char → Option Values} {path value : List Char}
    {values : Values} (h : stretch next path = some (value, values)) :
    IsValue value ∧ ∃ rest, path = value ++ rest ∧ next rest = some values := by
  induction path generalizing value with
  | nil => simp [stretch] at h
  | cons c path ih =>
    rw [stretch] at h
    split at h
    · simp at h
    · rename_i hc
      split at h
      · rename_i longer found hlonger
        injection h with h
        obtain ⟨rfl, rfl⟩ := Prod.mk.inj h
        obtain ⟨⟨_, hslash⟩, rest, hpath, hnext⟩ := ih hlonger
        have hfresh : '/' ∉ c :: longer := by
          simp only [List.mem_cons, not_or]
          exact ⟨fun heq => hc heq.symm, hslash⟩
        exact ⟨⟨by simp, hfresh⟩, rest, by rw [hpath]; rfl, hnext⟩
      · obtain ⟨found, hfound, heq⟩ := Option.map_eq_some_iff.mp h
        obtain ⟨rfl, rfl⟩ := Prod.mk.inj heq
        have hfresh : '/' ∉ [c] := by
          simp only [List.mem_singleton]
          exact fun heq => hc heq.symm
        exact ⟨⟨by simp, hfresh⟩, path, rfl, hfound⟩

/-- The chosen values are values that placeholders can take, and give back the path. -/
theorem fill_of_capture {ts : List Token} {path : List Char} {values : Values}
    (h : capture ts path = some values) :
    fill ts values = some path ∧ ∀ value ∈ values, IsValue value := by
  induction ts generalizing path values with
  | nil =>
    cases path with
    | nil =>
      obtain rfl := Option.some.inj h
      exact ⟨rfl, by simp⟩
    | cons c path => simp [capture] at h
  | cons t ts ih =>
    cases t with
    | char c =>
      cases path with
      | nil => simp [capture] at h
      | cons d path =>
        rw [capture] at h
        split at h
        · rename_i hcd
          obtain ⟨hfill, hvalues⟩ := ih h
          exact ⟨by rw [fill, hfill, hcd]; rfl, hvalues⟩
        · simp at h
    | hole name =>
      rw [capture] at h
      obtain ⟨⟨value, found⟩, hstretch, rfl⟩ := Option.map_eq_some_iff.mp h
      obtain ⟨hvalue, rest, rfl, hrest⟩ := eq_append_of_stretch hstretch
      obtain ⟨hfill, hvalues⟩ := ih hrest
      refine ⟨by rw [fill, hfill]; rfl, ?_⟩
      intro v hv
      rcases List.mem_cons.mp hv with rfl | hv
      · exact hvalue
      · exact hvalues v hv

/-- The answers for an empty list of tokens: only an empty rest matches. -/
def chartEnd : List Char → List (Option Values)
  | [] => [some []]
  | _ :: path => none :: chartEnd path

/-- The answers for a character followed by tokens, from the answers for those tokens. -/
def chartChar (c : Char) : List Char → List (Option Values) → List (Option Values)
  | [], _ => [none]
  | d :: path, next => (if c = d then next.tail.head?.join else none) :: chartChar c path next.tail

/-- The longest values that can start each rest of a path, from the answers for what follows. -/
def chartStretch : List Char → List (Option Values) → List (Option (List Char × Values))
  | [], _ => [none]
  | c :: path, next =>
    let later := chartStretch path next.tail
    let here :=
      if c = '/' then none
      else
        match later.head?.join with
        | some (value, values) => some (c :: value, values)
        | none => next.tail.head?.join.map fun values => ([c], values)
    here :: later

/-- The answers of `capture` for a path and for each of its rests, the whole path first. -/
def chart : List Token → List Char → List (Option Values)
  | [], path => chartEnd path
  | .char c :: ts, path => chartChar c path (chart ts path)
  | .hole _ :: ts, path =>
    (chartStretch path (chart ts path)).map (·.map fun (value, values) => value :: values)

/-- The values with which a path matches. Characters before the first placeholder are compared
one by one; from there on the answer is read off the chart. -/
def values? : List Token → List Char → Option Values
  | .char _ :: _, [] => none
  | .char c :: ts, d :: path => if c = d then values? ts path else none
  | ts, path => (chart ts path).head?.join

/-- A function applied to a path and to each of its rests. -/
def overRests {α : Type} (f : List Char → α) : List Char → List α
  | [] => [f []]
  | c :: path => f (c :: path) :: overRests f path

@[simp] theorem head?_overRests {α : Type} (f : List Char → α) (path : List Char) :
    (overRests f path).head? = some (f path) := by
  cases path <;> rfl

theorem map_overRests {α β : Type} (f : List Char → α) (g : α → β) (path : List Char) :
    (overRests f path).map g = overRests (fun p => g (f p)) path := by
  induction path with
  | nil => rfl
  | cons c path ih => simp [overRests, ih]

theorem chartStretch_overRests (next : List Char → Option Values) (path : List Char) :
    chartStretch path (overRests next path) = overRests (stretch next) path := by
  induction path with
  | nil => rfl
  | cons c path ih =>
    simp only [overRests, chartStretch, List.tail_cons, ih, head?_overRests, Option.join_some,
      stretch]

theorem chartChar_overRests (c : Char) (ts : List Token) (path : List Char) :
    chartChar c path (overRests (capture ts) path) = overRests (capture (.char c :: ts)) path := by
  induction path with
  | nil => rfl
  | cons d path ih =>
    simp only [overRests, chartChar, List.tail_cons, ih, head?_overRests, Option.join_some,
      capture]

/-- The chart holds the answers of `capture` for a path and each of its rests. -/
theorem chart_eq (ts : List Token) (path : List Char) :
    chart ts path = overRests (capture ts) path := by
  induction ts with
  | nil =>
    rw [chart]
    induction path with
    | nil => rfl
    | cons c path ih => simp only [chartEnd, ih, overRests, capture]
  | cons t ts ih =>
    cases t with
    | char c => rw [chart, ih, chartChar_overRests]
    | hole name =>
      rw [chart, ih, chartStretch_overRests, map_overRests]
      rfl

/-- Reading the chart gives the values that `capture` chooses. -/
@[simp] theorem values?_eq (ts : List Token) (path : List Char) :
    values? ts path = capture ts path := by
  fun_induction values? ts path with
  | case1 => rw [capture]
  | case2 c ts path ih => rw [capture, if_pos rfl, ih]
  | case3 c ts d path h => rw [capture, if_neg h]
  | case4 ts path => simp [chart_eq]

end RpcRoutes.Path
