/-!
# Placeholders

A placeholder is a brace pair with a name in between that is not empty and holds no slash and
no brace. A pattern is read from left to right into tokens, one for each placeholder and one
for each other character; a brace that belongs to no placeholder is a character like any other.

* `Path.tokens` reads a pattern, `Path.placeholders` lists the names it finds.
* `Path.Token.text` is a token as it is written. `flatMap_text_tokens` says that the texts of a
  pattern's tokens give back the pattern.
-/

namespace RpcRoutes.Path

/-- One step of a pattern. -/
inductive Token where
  /-- A character that stands for itself. -/
  | char (c : Char)
  | hole (name : List Char)
  deriving DecidableEq, Repr

/-- A token as a pattern writes it. -/
def Token.text : Token → List Char
  | .char c => [c]
  | .hole name => '{' :: (name ++ ['}'])

def Token.name? : Token → Option (List Char)
  | .char _ => none
  | .hole name => some name

/-- A pattern read up to some place: the tokens that are settled, the latest first, and the
characters since an open brace that may yet become a placeholder, the latest first. -/
structure Scan where
  /-- The settled tokens, the latest first. -/
  settled : List Token
  /-- What follows an open brace, if one is pending. -/
  pending : Option (List Char)
  deriving DecidableEq, Repr

namespace Scan

def start : Scan := ⟨[], none⟩

/-- The settled tokens when a pending brace turns out to be an ordinary character. -/
def giveUp (s : Scan) : List Token :=
  match s.pending with
  | none => s.settled
  | some name => name.map .char ++ .char '{' :: s.settled

def feed (s : Scan) (c : Char) : Scan :=
  if c = '{' then ⟨s.giveUp, some []⟩
  else
    match s.pending with
    | none => ⟨.char c :: s.settled, none⟩
    | some name =>
      if c = '/' then ⟨.char c :: s.giveUp, none⟩
      else if c = '}' then
        match name with
        | [] => ⟨.char c :: s.giveUp, none⟩
        | _ :: _ => ⟨.hole name.reverse :: s.settled, none⟩
      else ⟨s.settled, some (c :: name)⟩

/-- The text read so far. -/
def source (s : Scan) : List Char := s.giveUp.reverse.flatMap Token.text

theorem source_of_pending {settled : List Token} {name : List Char} :
    source ⟨settled, some name⟩ = settled.reverse.flatMap Token.text ++ '{' :: name.reverse := by
  have hname : (name.reverse.map Token.char).flatMap Token.text = name.reverse := by
    rw [List.flatMap_map]
    exact List.flatMap_singleton' _
  simp only [source, giveUp, List.reverse_append, List.reverse_cons, List.append_assoc,
    List.flatMap_append, List.singleton_append, List.flatMap_cons, Token.text,
    ← List.map_reverse, hname]

/-- Reading a character adds it to the text. -/
theorem source_feed (s : Scan) (c : Char) : (s.feed c).source = s.source ++ [c] := by
  obtain ⟨settled, pending⟩ := s
  unfold feed
  split
  · rename_i hopen
    rw [source_of_pending, hopen]
    rfl
  · cases pending with
    | none => simp [source, giveUp, Token.text]
    | some name =>
      dsimp only
      split
      · simp [source, Token.text, giveUp]
      · split
        · rename_i hclose
          cases name with
          | nil => simp [source, Token.text, giveUp]
          | cons d name =>
            rw [source_of_pending]
            simp [source, Token.text, giveUp, hclose]
        · rw [source_of_pending, source_of_pending]
          simp

end Scan

/-- The tokens of a pattern, from left to right. -/
def tokens (pattern : List Char) : List Token :=
  (pattern.foldl Scan.feed Scan.start).giveUp.reverse

theorem source_foldl_feed (pattern : List Char) (s : Scan) :
    (pattern.foldl Scan.feed s).source = s.source ++ pattern := by
  induction pattern generalizing s with
  | nil => simp
  | cons c pattern ih => rw [List.foldl_cons, ih, Scan.source_feed, List.append_assoc]; rfl

/-- The tokens of a pattern spell the pattern. -/
@[simp] theorem flatMap_text_tokens (pattern : List Char) :
    (tokens pattern).flatMap Token.text = pattern :=
  source_foldl_feed pattern .start

/-- The placeholder names of a pattern, in order of position and once per occurrence. -/
def placeholders (pattern : String) : List String :=
  ((tokens pattern.toList).filterMap Token.name?).map String.ofList

end RpcRoutes.Path
