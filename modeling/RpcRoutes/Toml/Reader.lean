import RpcRoutes.Toml.Document
import RpcRoutes.Toml.Scalar

/-!
# Reading TOML

A document is read line by line into statements. Arrays and tables in braces may nest; an array
may go over several lines, a table in braces stays on one. Nesting and dotted keys are limited.

* `Toml.read?` reads a document into the members of its top level.
-/

namespace RpcRoutes.Toml

/-- How many arrays and braces may be open at a time, and how many names a key may have. -/
def maxLevels : Nat := 79

/-! ### Keys -/

/-- The characters of a key without quotes. -/
def isBareChar (c : Char) : Bool := c.isAlphanum || c == '_' || c == '-'

def name? : Reader String
  | '"' :: cs => simpleString? ('"' :: cs)
  | '\'' :: cs => simpleString? ('\'' :: cs)
  | cs =>
    let bare := cs.takeWhile isBareChar
    if bare.isEmpty then none else some (String.ofList bare, cs.dropWhile isBareChar)

/-- Reads the names of a key with dots between them, blanks around each; `bound` limits their
number. -/
def names? : (bound : Nat) → Reader (List String)
  | 0, _ => none
  | bound + 1, cs => do
    let (name, rest) ← name? (skipBlank cs)
    match skipBlank rest with
    | '.' :: rest =>
      let (names, rest) ← names? bound rest
      pure (name :: names, rest)
    | rest => pure ([name], rest)

/-- Reads a key: the names before the last one, and the last one. -/
def key? : Reader (List String × String) := fun cs => do
  let (names, rest) ← names? maxLevels cs
  pure ((names.dropLast, ← names.getLast?), rest)

/-! ### Values -/

/-- Text without the blanks, line ends and comments it starts with. Inside a comment everything
up to the end of the line counts for nothing, but control characters are refused. -/
def skipLayout? : (inComment : Bool) → List Char → Option (List Char)
  | false, [] => some []
  | true, [] => none
  | _, '\n' :: cs => skipLayout? false cs
  | inComment, c :: cs =>
    if c = '\r' then if cs.head? = some '\n' then skipLayout? inComment cs else none
    else if inComment then if isTextChar c then skipLayout? true cs else none
    else if isBlank c then skipLayout? false cs
    else if c = '#' then skipLayout? true cs
    else some (c :: cs)

/-- Reads the items of an array up to its closing bracket; `bound` limits their number. -/
def items? (value : Reader Node) : (bound : Nat) → (seen : List Node) → Reader (List Node)
  | 0, _, _ => none
  | bound + 1, seen, cs => do
    match ← skipLayout? false cs with
    | ']' :: rest => pure (seen.reverse, rest)
    | cs =>
      let (v, rest) ← value cs
      match ← skipLayout? false rest with
      | ',' :: rest => items? value bound (v :: seen) rest
      | ']' :: rest => pure ((v :: seen).reverse, rest)
      | _ => none

/-- Reads a key, an equals sign and a value. -/
def pair? (value : Reader Node) : Reader Pair := fun cs => do
  let ((path, name), rest) ← key? cs
  match rest with
  | '=' :: rest =>
    let (v, rest) ← value (skipBlank rest)
    pure (⟨path, name, v⟩, rest)
  | _ => none

/-- Reads the pairs of a table in braces, of which there is at least one, up to its closing
brace; `bound` limits their number. -/
def pairs? (value : Reader Node) : (bound : Nat) → Members → Reader Members
  | 0, _, _ => none
  | bound + 1, members, cs => do
    let (pair, rest) ← pair? value cs
    let members ← insertPair members pair
    match skipBlank rest with
    | ',' :: rest => pairs? value bound members rest
    | '}' :: rest => pure (members, rest)
    | _ => none

/-- Reads a value that is neither an array nor a table. -/
def scalarNode? : Reader Node
  | '"' :: cs => (string? ('"' :: cs)).map fun (s, rest) => (.text s, rest)
  | '\'' :: cs => (string? ('\'' :: cs)).map fun (s, rest) => (.text s, rest)
  | 't' :: 'r' :: 'u' :: 'e' :: rest => some (.other, rest)
  | 'f' :: 'a' :: 'l' :: 's' :: 'e' :: rest => some (.other, rest)
  | cs =>
    ((moment? cs).map fun (_, rest) => (.moment, rest)).or
      ((number? cs).map fun (_, rest) => (.other, rest))

/-- Reads a value in which at most `levels` arrays and braces are open at a time; `bound` limits
the number of items of each. -/
def value? (bound : Nat) : (levels : Nat) → Reader Node
  | 0, '[' :: _ => none
  | 0, '{' :: _ => none
  | levels + 1, '[' :: cs =>
    (items? (value? bound levels) bound [] cs).map fun (vs, rest) => (.array vs, rest)
  | levels + 1, '{' :: cs =>
    match skipBlank cs with
    | '}' :: rest => some (.table .closed [], rest)
    | cs =>
      (pairs? (value? bound levels) bound [] cs).map fun (ms, rest) => (.table .closed ms, rest)
  | _, cs => scalarNode? cs

/-! ### Lines -/

/-- What follows the end of a line, before which blanks and a comment may stand. -/
def lineEnd? (cs : List Char) : Option (List Char) :=
  let cs := skipBlank cs
  let cs := match cs with | '#' :: cs => cs.dropWhile isTextChar | cs => cs
  match cs with
  | [] => some []
  | cs => newline? cs

/-- Reads a header after its opening brackets, up to the brackets that close it. -/
def header? (closing : List Char) : Reader (List String × String) := fun cs => do
  let (key, rest) ← key? cs
  if closing.isPrefixOf rest then pure (key, rest.drop closing.length) else none

/-- Reads the statement of a line, if there is one, and gives what follows it in the line. -/
def statement? (bound : Nat) : Reader (Option Statement)
  | '[' :: '[' :: cs => do
    let ((path, name), rest) ← header? [']', ']'] cs
    pure (some (.listHeader path name), rest)
  | '[' :: cs => do
    let ((path, name), rest) ← header? [']'] cs
    pure (some (.header path name), rest)
  | cs =>
    match lineEnd? cs with
    | some _ => some (none, cs)
    | none => do
      let (pair, rest) ← pair? (value? bound maxLevels) cs
      pure (some (.pair pair), rest)

/-- Reads lines up to the end of a text; `bound` limits their number. -/
def statements? : (bound : Nat) → (seen : List Statement) → List Char → Option (List Statement)
  | 0, _, _ => none
  | _, seen, [] => some seen.reverse
  | bound + 1, seen, cs => do
    let (statement, rest) ← statement? cs.length (skipBlank cs)
    statements? bound (statement.toList ++ seen) (← lineEnd? rest)

/-- Reads a document, which may start with a byte order mark. Every line but the last one has a
character, so the length of the text bounds the lines. -/
def read? (text : String) : Option Members := do
  let cs := match text.toList with | '\uFEFF' :: cs => cs | cs => cs
  build (← statements? (cs.length + 1) [] cs)

end RpcRoutes.Toml
