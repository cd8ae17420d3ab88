/-!
# Joining paths

A full path is a base and a fragment with exactly one slash between them. The slashes that a
base ends in and those that a fragment starts with do not count; an empty side disappears, and
two empty sides give the root `/`.

* `Path.join` joins two texts, `Path.joinChars` is the same on lists of characters.
* `Path.nest` is the base that a group has inside its parent: a joined path that does not end
  in a slash.
-/

namespace RpcRoutes.Path

/-- A list of characters without the slashes it starts with. -/
def dropLeading (cs : List Char) : List Char := cs.dropWhile (· == '/')

/-- A list of characters without the slashes it ends in. -/
def dropTrailing (cs : List Char) : List Char := (cs.reverse.dropWhile (· == '/')).reverse

/-- A base and a fragment with exactly one slash between them, as characters. -/
def joinChars (base fragment : List Char) : List Char :=
  match dropTrailing base, dropLeading fragment with
  | [], [] => ['/']
  | c :: cs, [] => c :: cs
  | head, tail => head ++ '/' :: tail

/-- A base and a fragment with exactly one slash between them. -/
def join (base fragment : String) : String :=
  String.ofList (joinChars base.toList fragment.toList)

/-- The base of a group inside a parent: joined, and without the slashes it then ends in, so
that the root gives the empty base. -/
def nest (parent fragment : String) : String :=
  String.ofList (dropTrailing (joinChars parent.toList fragment.toList))

@[simp] theorem toList_join (base fragment : String) :
    (join base fragment).toList = joinChars base.toList fragment.toList :=
  String.toList_ofList

@[simp] theorem toList_nest (parent fragment : String) :
    (nest parent fragment).toList = dropTrailing (joinChars parent.toList fragment.toList) :=
  String.toList_ofList

end RpcRoutes.Path
