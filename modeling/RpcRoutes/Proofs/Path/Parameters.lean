import Mathlib.Data.List.Induction
import RpcRoutes.Path.Join
import RpcRoutes.Path.Template

/-!
# Parameters of joined paths

No placeholder reaches across a slash, so what stands on both sides of one is read apart. Joining
only moves slashes: it makes no placeholder, merges none and loses none.

* `tokens_append_slash`: a slash divides a pattern into two that are read on their own.
* `placeholders_join`: a joined path has the placeholders of its two sides, in this order;
  `placeholders_foldl_nest` says the same of a base inside others.
* `Template.names_of_params?`: what a path gives a template is named as its placeholders are.
-/

namespace RpcRoutes.Path

/-! ### Reading across a slash -/

namespace Scan

variable {s : Scan} {below : List Token} {c : Char}

/-- A scan on top of tokens that were settled before it. -/
def onTop (below : List Token) (s : Scan) : Scan := ⟨s.settled ++ below, s.pending⟩

@[simp] theorem giveUp_onTop : (s.onTop below).giveUp = s.giveUp ++ below := by
  rcases s with ⟨settled, _ | name⟩
  · rfl
  · simp [onTop, giveUp]

/-- Tokens that were settled before a scan stay below what it settles. -/
theorem feed_onTop : (s.onTop below).feed c = (s.feed c).onTop below := by
  unfold feed
  rw [giveUp_onTop]
  split
  · rfl
  · rcases s with ⟨settled, _ | name⟩
    · rfl
    · simp only [onTop]
      split
      · rfl
      · split
        · cases name <;> rfl
        · rfl

theorem foldl_feed_onTop (cs : List Char) :
    cs.foldl feed (s.onTop below) = (cs.foldl feed s).onTop below := by
  induction cs generalizing s with
  | nil => rfl
  | cons c cs ih => rw [List.foldl_cons, feed_onTop, ih, List.foldl_cons]

/-- A slash settles what is pending, and behind it the scan starts anew. -/
theorem feed_slash (s : Scan) : s.feed '/' = start.onTop (.char '/' :: s.giveUp) := by
  rcases s with ⟨settled, _ | name⟩ <;> rfl

end Scan

/-- A slash divides a pattern into two that are read on their own. -/
theorem tokens_append_slash (front rest : List Char) :
    tokens (front ++ '/' :: rest) = tokens front ++ .char '/' :: tokens rest := by
  simp only [tokens, List.foldl_append, List.foldl_cons, Scan.feed_slash, Scan.foldl_feed_onTop,
    Scan.giveUp_onTop, List.reverse_append, List.reverse_cons, List.append_assoc,
    List.singleton_append]

/-! ### Placeholders of joined paths -/

/-- The placeholder names of a list of characters. -/
def names (pattern : List Char) : List (List Char) := (tokens pattern).filterMap Token.name?

theorem placeholders_eq (pattern : String) :
    placeholders pattern = (names pattern.toList).map String.ofList := rfl

theorem names_append_slash (front rest : List Char) :
    names (front ++ '/' :: rest) = names front ++ names rest := by
  rw [names, tokens_append_slash, List.filterMap_append]
  rfl

theorem names_dropLeading (cs : List Char) : names (dropLeading cs) = names cs := by
  induction cs with
  | nil => rfl
  | cons c cs ih =>
      by_cases slash : c = '/'
      · subst slash
        exact ih.trans (names_append_slash [] cs).symm
      · have kept : dropLeading (c :: cs) = c :: cs :=
          List.dropWhile_cons_of_neg (by simpa using slash)
        rw [kept]

theorem dropTrailing_concat_slash (cs : List Char) :
    dropTrailing (cs ++ ['/']) = dropTrailing cs := by
  simp [dropTrailing]

theorem dropTrailing_concat_of_ne {c : Char} (cs : List Char) (open_ended : c ≠ '/') :
    dropTrailing (cs ++ [c]) = cs ++ [c] := by
  simp [dropTrailing, open_ended]

theorem names_dropTrailing (cs : List Char) : names (dropTrailing cs) = names cs := by
  induction cs using List.reverseRecOn with
  | nil => rfl
  | append_singleton cs c ih =>
      by_cases slash : c = '/'
      · subst slash
        have last : names (cs ++ ['/']) = names cs ++ names [] := names_append_slash cs []
        rw [dropTrailing_concat_slash, ih, last]
        exact (List.append_nil _).symm
      · rw [dropTrailing_concat_of_ne cs slash]

theorem names_joinChars (base fragment : List Char) :
    names (joinChars base fragment) = names base ++ names fragment := by
  rw [← names_dropTrailing base, ← names_dropLeading fragment, joinChars]
  split
  · rename_i empty empty'
    rw [empty, empty']
    rfl
  · rename_i c cs start empty
    rw [start, empty]
    exact (List.append_nil _).symm
  · exact names_append_slash _ _

/-- A joined path has the placeholders of its base and then those of its fragment. -/
theorem placeholders_join (base fragment : String) :
    placeholders (join base fragment) = placeholders base ++ placeholders fragment := by
  rw [placeholders_eq, toList_join, names_joinChars, List.map_append]
  rfl

theorem placeholders_nest (parent fragment : String) :
    placeholders (nest parent fragment) = placeholders parent ++ placeholders fragment := by
  rw [placeholders_eq, toList_nest, names_dropTrailing, names_joinChars, List.map_append]
  rfl

/-- A base inside others has the placeholders of all of them, from the outermost. -/
theorem placeholders_foldl_nest (parent : String) (fragments : List String) :
    placeholders (fragments.foldl nest parent) =
      placeholders parent ++ fragments.flatMap placeholders := by
  induction fragments generalizing parent with
  | nil => exact (List.append_nil _).symm
  | cons fragment fragments ih =>
      rw [List.foldl_cons, ih, placeholders_nest, List.flatMap_cons, List.append_assoc]

/-- Every placeholder starts with a brace. -/
theorem placeholders_eq_nil {pattern : String} (unbraced : '{' ∉ pattern.toList) :
    placeholders pattern = [] := by
  suffices none_named : names pattern.toList = [] by rw [placeholders_eq, none_named, List.map_nil]
  rw [names, List.filterMap_eq_nil_iff]
  intro t mem
  cases t with
  | char c => rfl
  | hole name =>
      refine absurd ?_ unbraced
      rw [← flatMap_text_tokens pattern.toList]
      exact List.mem_flatMap.mpr ⟨.hole name, mem, List.mem_cons_self⟩

/-! ### Captured names -/

/-- There is one value for each placeholder. -/
theorem length_of_fill {ts : List Token} {values : Values} {path : List Char}
    (filled : fill ts values = some path) :
    values.length = (ts.filterMap Token.name?).length := by
  induction ts generalizing values path with
  | nil =>
      cases values with
      | nil => rfl
      | cons value values => cases filled
  | cons t ts ih =>
      cases t with
      | char c =>
          obtain ⟨rest, filled', _⟩ := Option.map_eq_some_iff.mp filled
          exact ih filled'
      | hole name =>
          cases values with
          | nil => cases filled
          | cons value values =>
              obtain ⟨rest, filled', _⟩ := Option.map_eq_some_iff.mp filled
              exact congrArg (· + 1) (ih filled')

end RpcRoutes.Path

namespace RpcRoutes

/-- What a path gives a template is named as the placeholders of its pattern, in their order. -/
theorem Template.names_of_params? {t : Template} {path : String} {params : PathParams}
    (found : t.params? path = some params) :
    params.entries.map Prod.fst = Path.placeholders t.pattern := by
  obtain ⟨values, captured, rfl⟩ := Option.map_eq_some_iff.mp found
  rw [Path.values?_eq] at captured
  have counted := Path.length_of_fill (Path.fill_of_capture captured).1
  rw [← names_eq]
  refine List.map_fst_zip (Nat.le_of_eq ?_)
  rw [names, List.length_map, List.length_map, counted]

end RpcRoutes
