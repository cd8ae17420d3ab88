import RpcRoutes.Proofs.Path.Literal
import RpcRoutes.Proofs.Path.Rooted
import RpcRoutes.Routing.Table

/-!
# Keys that answer a request

A key answers a method and a path when the method is its own and its pattern matches the path.
A registry knows keys by their texts only, and different keys may have one text: `A` with `/b /c`
and `A /b` with `/c`. No request without blanks is answered by either of them.

* `RouteKey.params?` gives the parameters with which a key answers.
* `RouteKey.Overlaps` holds of two different keys of one text; `RouteKey.text_eq_iff` says that
  there are no others.
* `RouteKey.eq_of_text_eq`: where a key answers a request without blanks, no other key with a
  rooted pattern has its text.
-/

namespace RpcRoutes

/-- The parameters that a path gives the placeholders of a pattern, whether or not it compiles. -/
def Path.params? (pattern path : String) : Option PathParams :=
  (capture (tokens pattern.toList) path.toList).map fun values =>
    ⟨(placeholders pattern).zip (values.map String.ofList)⟩

theorem Template.params?_eq (t : Template) (path : String) :
    t.params? path = Path.params? t.pattern path := by
  rw [params?, Path.params?, Path.values?_eq, names_eq, t.tokens_eq]

namespace RouteKey

/-- The parameters with which a key answers a method and a path. -/
def params? (key : RouteKey) (method path : String) : Option PathParams :=
  if key.method = method then Path.params? key.pattern path else none

theorem toList_text (key : RouteKey) :
    key.text.toList = key.method.toList ++ ' ' :: key.pattern.toList := by
  simp [text]

/-! ### Keys of one text -/

/-- The method of the first key goes on, behind the method of the second and a blank, with what the
pattern of the second starts with. -/
def Overlaps (key other : RouteKey) : Prop :=
  ∃ part : String, key.method = other.method ++ " " ++ part ∧
    other.pattern = part ++ " " ++ key.pattern

section Overlap

variable {key other : RouteKey}

theorem eq_of_toList (method_eq : key.method.toList = other.method.toList)
    (pattern_eq : key.pattern.toList = other.pattern.toList) : key = other := by
  cases key
  cases other
  rw [mk.injEq]
  exact ⟨String.toList_inj.mp method_eq, String.toList_inj.mp pattern_eq⟩

theorem Overlaps.text_eq (overlaps : key.Overlaps other) : key.text = other.text := by
  obtain ⟨part, method_eq, pattern_eq⟩ := overlaps
  rw [text, text, method_eq, pattern_eq]
  simp only [String.append_assoc]

/-- An overlap is between different keys: one method is longer. -/
theorem Overlaps.ne (overlaps : key.Overlaps other) : key ≠ other := by
  rintro rfl
  obtain ⟨part, method_eq, -⟩ := overlaps
  have lengths := congrArg String.length method_eq
  rw [String.length_append, String.length_append] at lengths
  have blank : " ".length = 1 := rfl
  omega

/-- Where the longer method of two keys of one text goes on, it overlaps the other key. -/
theorem overlaps_of_text {more : List Char}
    (method_eq : key.method.toList = other.method.toList ++ more)
    (rest_eq : ' ' :: other.pattern.toList = more ++ ' ' :: key.pattern.toList) :
    key = other ∨ key.Overlaps other := by
  cases more with
  | nil =>
      rw [List.append_nil] at method_eq
      exact Or.inl (eq_of_toList method_eq (List.cons.inj rest_eq).2.symm)
  | cons c part =>
      obtain ⟨rfl, pattern_eq⟩ := List.cons.inj rest_eq
      refine Or.inr ⟨String.ofList part, ?_, ?_⟩
      · simp [← String.toList_inj, method_eq]
      · simp [← String.toList_inj, pattern_eq]

/-- Keys have one text when they are equal or overlap. -/
theorem text_eq_iff : key.text = other.text ↔
    key = other ∨ key.Overlaps other ∨ other.Overlaps key := by
  constructor
  · intro same
    have chars := congrArg String.toList same
    rw [toList_text, toList_text, List.append_eq_append_iff] at chars
    rcases chars with ⟨more, method_eq, rest_eq⟩ | ⟨more, method_eq, rest_eq⟩
    · rcases overlaps_of_text method_eq rest_eq with rfl | overlaps
      · exact Or.inl rfl
      · exact Or.inr (Or.inr overlaps)
    · rcases overlaps_of_text method_eq rest_eq with rfl | overlaps
      · exact Or.inl rfl
      · exact Or.inr (Or.inl overlaps)
  · rintro (rfl | overlaps | overlaps)
    · rfl
    · exact overlaps.text_eq
    · exact overlaps.text_eq.symm

/-- A method that overlaps a key with a rooted pattern has a blank before a slash. -/
theorem Overlaps.blank_slash (overlaps : key.Overlaps other)
    (rooted : Path.IsRooted other.pattern) : [' ', '/'] <:+: key.method.toList := by
  obtain ⟨part, method_eq, pattern_eq⟩ := overlaps
  rw [Path.IsRooted, pattern_eq] at rooted
  rw [method_eq]
  cases start : part.toList with
  | nil => simp [start] at rooted
  | cons c rest =>
      have slash : c = '/' := by simpa [start] using rooted
      exact ⟨other.method.toList, rest, by simp [start, slash]⟩

end Overlap

/-! ### Answers -/

section Answers

variable {key other : RouteKey} {method path : String} {params : PathParams}

theorem method_eq_of_params? (answers : key.params? method path = some params) :
    key.method = method := by
  rw [params?] at answers
  split at answers
  · assumption
  · cases answers

theorem capture_of_params? (answers : key.params? method path = some params) :
    ∃ values, Path.capture (Path.tokens key.pattern.toList) path.toList = some values := by
  rw [params?, if_pos (method_eq_of_params? answers)] at answers
  obtain ⟨values, found, _⟩ := Option.map_eq_some_iff.mp answers
  exact ⟨values, found⟩

/-- A key with a rooted pattern that has the text of a key that answers a request without blanks
is that key. -/
theorem eq_of_text_eq (same : other.text = key.text) (rooted : Path.IsRooted other.pattern)
    (answers : key.params? method path = some params) (plain : ' ' ∉ method.toList)
    (plain' : ' ' ∉ path.toList) : other = key := by
  rcases text_eq_iff.mp same with eq | ⟨part, _, pattern_eq⟩ | ⟨part, method_eq, _⟩
  · exact eq
  · -- the pattern of the key holds a blank before a slash, which no name can take in
    obtain ⟨tail, start⟩ := List.head?_eq_some_iff.mp rooted
    obtain ⟨values, found⟩ := capture_of_params? answers
    have literal : Path.Token.char ' ' ∈ Path.tokens key.pattern.toList := by
      rw [pattern_eq, String.toList_append, String.toList_append, start, List.append_assoc]
      exact Path.char_mem_tokens_of_slash (by decide) (by decide) (by decide)
    exact absurd (Path.mem_of_capture literal found) plain'
  · refine absurd ?_ plain
    rw [← method_eq_of_params? answers, method_eq]
    simp

end Answers

end RouteKey

end RpcRoutes
