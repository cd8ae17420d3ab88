import RpcRoutes.Path.Template

/-!
# Literal characters

Which characters of a pattern a path has to repeat. A character token stands for itself, so a
path that matches has it; a blank right before a slash is such a token, since no placeholder
holds a slash.

* `char_mem_tokens_of_slash`: a character before a slash is no part of a placeholder.
* `mem_of_capture`: what matches has every character that stands for itself.
-/

namespace RpcRoutes.Path

/-! ### Reading a pattern -/

section Scan

variable {s : Scan} {c : Char} {t : Token}

theorem Scan.mem_giveUp (mem : t ∈ s.settled) : t ∈ s.giveUp := by
  cases pending : s.pending with
  | none => simpa only [giveUp, pending] using mem
  | some name =>
      simp only [giveUp, pending]
      exact List.mem_append_right _ (List.mem_cons_of_mem _ mem)

/-- A settled token stays settled. -/
theorem Scan.mem_settled_feed (mem : t ∈ s.settled) : t ∈ (s.feed c).settled := by
  have given := mem_giveUp mem
  unfold feed
  split
  · exact given
  · cases s.pending with
    | none => exact List.mem_cons_of_mem _ mem
    | some name =>
        dsimp only
        split
        · exact List.mem_cons_of_mem _ given
        · split
          · cases name with
            | nil => exact List.mem_cons_of_mem _ given
            | cons d name => exact List.mem_cons_of_mem _ mem
          · exact mem

theorem mem_settled_foldl_feed {rest : List Char} (mem : t ∈ s.settled) :
    t ∈ (rest.foldl Scan.feed s).settled := by
  induction rest generalizing s with
  | nil => exact mem
  | cons c rest ih => exact ih (Scan.mem_settled_feed mem)

/-- A slash settles the character before it. -/
theorem Scan.char_mem_settled_of_slash (left : c ≠ '{') (right : c ≠ '}') (slash : c ≠ '/') :
    .char c ∈ ((s.feed c).feed '/').settled := by
  rcases s with ⟨settled, pending⟩
  cases pending with
  | none => simp [feed, left]
  | some name => simp [feed, left, right, slash, giveUp]

end Scan

/-- A character other than a brace that comes before a slash stands for itself. -/
theorem char_mem_tokens_of_slash {c : Char} {front rest : List Char} (left : c ≠ '{')
    (right : c ≠ '}') (slash : c ≠ '/') : .char c ∈ tokens (front ++ c :: '/' :: rest) := by
  rw [tokens, List.foldl_append, List.foldl_cons, List.foldl_cons, List.mem_reverse]
  refine Scan.mem_giveUp (mem_settled_foldl_feed ?_)
  exact Scan.char_mem_settled_of_slash left right slash

/-! ### Matching a path -/

theorem mem_of_fill {c : Char} {ts : List Token} {values : Values} {path : List Char}
    (mem : .char c ∈ ts) (filled : fill ts values = some path) : c ∈ path := by
  induction ts generalizing values path with
  | nil => cases mem
  | cons t ts ih =>
      cases t with
      | char d =>
          obtain ⟨rest, filled', rfl⟩ := Option.map_eq_some_iff.mp filled
          rcases List.mem_cons.mp mem with same | later
          · obtain rfl := Token.char.inj same
            exact List.mem_cons_self
          · exact List.mem_cons_of_mem _ (ih later filled')
      | hole name =>
          cases values with
          | nil => simp [fill] at filled
          | cons value values =>
              obtain ⟨rest, filled', rfl⟩ := Option.map_eq_some_iff.mp filled
              rcases List.mem_cons.mp mem with same | later
              · cases same
              · exact List.mem_append_right _ (ih later filled')

/-- A path that matches has every character that stands for itself. -/
theorem mem_of_capture {c : Char} {ts : List Token} {values : Values} {path : List Char}
    (mem : .char c ∈ ts) (found : capture ts path = some values) : c ∈ path :=
  mem_of_fill mem (fill_of_capture found).1

end RpcRoutes.Path
