import RpcRoutes.Json.Number
import RpcRoutes.Json.Value

/-!
# Reading JSON

JSON text is read by the standard's grammar. Some values follow the grammar and still cannot be
used: a number out of the range of a double, a string whose escapes form no text, an object with
such a name, and an array or object inside 127 others. They are kept as their text, so that it is
up to the reader of the value whether they matter (`Json.isUsable`).

* `Json.read?` reads one value and gives what follows it.
* `Json.isBlank` is the white space of JSON, which may stand around every token.
* `Json.passOver` passes over a value without building it up.
-/

namespace RpcRoutes.Json

/-- JSON's white space. -/
def isBlank (c : Char) : Bool := c == ' ' || c == '\n' || c == '\t' || c == '\r'

/-- Text without the white space it starts with. -/
def skipBlank (cs : List Char) : List Char := cs.dropWhile isBlank

/-! ### Strings -/

def hexDigit? (c : Char) : Option Nat :=
  if '0' ≤ c ∧ c ≤ '9' then some (c.toNat - '0'.toNat)
  else if 'a' ≤ c ∧ c ≤ 'f' then some (c.toNat - 'a'.toNat + 10)
  else if 'A' ≤ c ∧ c ≤ 'F' then some (c.toNat - 'A'.toNat + 10)
  else none

def hex4? (a b c d : Char) : Option Nat := do
  let a ← hexDigit? a
  let b ← hexDigit? b
  let c ← hexDigit? c
  let d ← hexDigit? d
  pure (((a * 16 + b) * 16 + c) * 16 + d)

/-- A piece of a string: a character, or a sixteen-bit unit that a numeric escape writes. -/
inductive StringPiece where
  | char (c : Char)
  | unit (n : Nat)

/-- The character that a short escape writes. -/
def shortEscape? : Char → Option Char
  | '"' => some '"'
  | '\\' => some '\\'
  | '/' => some '/'
  | 'b' => some '\x08'
  | 'f' => some '\x0c'
  | 'n' => some '\n'
  | 'r' => some '\r'
  | 't' => some '\t'
  | _ => none

/-- Reads the pieces of a string up to its closing quote and gives what follows; `seen` holds
the pieces read before, the latest first. -/
def pieces? (seen : List StringPiece) : List Char → Option (List StringPiece × List Char)
  | [] => none
  | '"' :: rest => some (seen.reverse, rest)
  | '\\' :: 'u' :: a :: b :: c :: d :: rest => do
    let n ← hex4? a b c d
    pieces? (.unit n :: seen) rest
  | '\\' :: e :: rest => do
    let c ← shortEscape? e
    pieces? (.char c :: seen) rest
  | c :: rest => if c = '\\' ∨ c.toNat < 0x20 then none else pieces? (.char c :: seen) rest

/-- The text of string pieces. Two numeric escapes may form one character as a surrogate pair,
and a surrogate occurs in no other place. -/
def textOfPieces? : List StringPiece → Option (List Char)
  | [] => some []
  | .char c :: ps => (textOfPieces? ps).map (c :: ·)
  | .unit n :: ps =>
    if 0xD800 ≤ n ∧ n < 0xDC00 then
      match ps with
      | .unit m :: ps =>
        if 0xDC00 ≤ m ∧ m < 0xE000 then
          (textOfPieces? ps).map
            (Char.ofNat (0x10000 + (n - 0xD800) * 0x400 + (m - 0xDC00)) :: ·)
        else none
      | _ => none
    else if 0xDC00 ≤ n ∧ n < 0xE000 then none
    else (textOfPieces? ps).map (Char.ofNat n :: ·)

/-- Reads a string after its opening quote and gives what follows: the text of the string, unless
its escapes form none. -/
def text?From (cs : List Char) : Option (Option String × List Char) := do
  let (ps, rest) ← pieces? [] cs
  pure ((textOfPieces? ps).map String.ofList, rest)

/-! ### Values -/

/-- What a value reader gives: a value and the text after it. -/
abbrev ReadStep := List Char → Option (Json × List Char)

/-- The text between two places, from the first up to the second. -/
def textBetween (start stop : List Char) : String :=
  String.ofList (start.take (start.length - stop.length))

/-- Reads a value that is neither an array nor an object. -/
def scalar? : ReadStep
  | '"' :: cs => do
    let (text, rest) ← text?From cs
    match text with
    | some text => pure (.string text, rest)
    | none => pure (.raw (textBetween ('"' :: cs) rest), rest)
  | 'n' :: 'u' :: 'l' :: 'l' :: rest => some (.null, rest)
  | 't' :: 'r' :: 'u' :: 'e' :: rest => some (.bool true, rest)
  | 'f' :: 'a' :: 'l' :: 's' :: 'e' :: rest => some (.bool false, rest)
  | cs => do
    let (numeral, rest) ← numeral? cs
    pure (if numeral.inRange then .number numeral.text else .raw numeral.text, rest)

/-- The name of a member with the colon after it; gives what follows. -/
def name? (cs : List Char) : Option (Option String × List Char) :=
  match skipBlank cs with
  | '"' :: cs => do
    let (name, rest) ← text?From cs
    match skipBlank rest with
    | ':' :: rest => pure (name, rest)
    | _ => none
  | _ => none

/-- Reads the items of an array that has at least one, up to the closing bracket; `bound` limits
their number. -/
def items?From (value : ReadStep) :
    (bound : Nat) → List Json → List Char → Option (List Json × List Char)
  | 0, _, _ => none
  | bound + 1, seen, cs => do
    let (v, rest) ← value (skipBlank cs)
    match skipBlank rest with
    | ',' :: rest => items?From value bound (v :: seen) rest
    | ']' :: rest => pure ((v :: seen).reverse, rest)
    | _ => none

/-- The members of an object. A name may have no text. -/
abbrev ReadMembers := List (Option String × Json)

/-- Reads the members of an object that has at least one, up to the closing brace; `bound` limits
their number. -/
def members?From (value : ReadStep) :
    (bound : Nat) → ReadMembers → List Char → Option (ReadMembers × List Char)
  | 0, _, _ => none
  | bound + 1, seen, cs => do
    let (name, rest) ← name? cs
    let (v, rest) ← value (skipBlank rest)
    match skipBlank rest with
    | ',' :: rest => members?From value bound ((name, v) :: seen) rest
    | '}' :: rest => pure (((name, v) :: seen).reverse, rest)
    | _ => none

/-- Reads an array after its opening bracket. -/
def array?From (value : ReadStep) (bound : Nat) : ReadStep := fun cs =>
  match skipBlank cs with
  | ']' :: rest => some (.array [], rest)
  | cs => do
    let (vs, rest) ← items?From value bound [] cs
    pure (.array vs, rest)

/-- Reads the members of an object after its opening brace. -/
def object?From (value : ReadStep) (bound : Nat) :
    List Char → Option (ReadMembers × List Char) := fun cs =>
  match skipBlank cs with
  | '}' :: rest => some ([], rest)
  | cs => members?From value bound [] cs

/-- The members of an object when all of their names have a text. -/
def namedMembers? (members : ReadMembers) : Option (List (String × Json)) :=
  members.mapM fun (name, v) => name.map fun name => (name, v)

/-! ### Passing over

A value that nests too deeply is passed over without being built up, however deep it is. -/

inductive Bracket where
  | array
  | object
  deriving DecidableEq

namespace Bracket

def closing : Bracket → Char
  | array => ']'
  | object => '}'

/-- What follows the part of an item that stands before its value. -/
def item? : Bracket → List Char → Option (List Char)
  | array, cs => some cs
  | object, cs => (name? cs).map (·.2)

end Bracket

inductive Expected where
  | value
  /-- The first item of a bracket, or its end. -/
  | first
  /-- A further item of a bracket, or its end. -/
  | next

/-- Passes over text until all open brackets are closed, and gives what follows. Every character
takes two steps at most, of which `bound` limits the number. -/
def passOver : (bound : Nat) → List Bracket → Expected → List Char → Option (List Char)
  | 0, _, _, _ => none
  | bound + 1, brackets, .value, cs =>
    match skipBlank cs with
    | '[' :: rest => passOver bound (.array :: brackets) .first rest
    | '{' :: rest => passOver bound (.object :: brackets) .first rest
    | cs =>
      match scalar? cs with
      | some (_, rest) => passOver bound brackets .next rest
      | none => none
  | _, [], _, cs => some cs
  | bound + 1, b :: brackets, expected, cs =>
    match skipBlank cs, expected with
    | [], _ => none
    | c :: rest, expected =>
      if c = b.closing then passOver bound brackets .next rest
      else
        match expected with
        | .first =>
          match b.item? (c :: rest) with
          | some rest => passOver bound (b :: brackets) .value rest
          | none => none
        | _ =>
          if c = ',' then
            match b.item? rest with
            | some rest => passOver bound (b :: brackets) .value rest
            | none => none
          else none

/-- Reads an array or an object as its text. -/
def rawValue? : ReadStep := fun cs =>
  (passOver (2 * cs.length + 2) [] .value cs).map fun rest => (.raw (textBetween cs rest), rest)

/-- Reads a value in which at most `levels` arrays and objects are open at a time, deeper ones
being kept as their text; `bound` limits the number of items of each. -/
def value?From (bound : Nat) : (levels : Nat) → ReadStep
  | 0, '[' :: cs => rawValue? ('[' :: cs)
  | 0, '{' :: cs => rawValue? ('{' :: cs)
  | levels + 1, '[' :: cs => array?From (value?From bound levels) bound cs
  | levels + 1, '{' :: cs => do
    let (members, rest) ← object?From (value?From bound levels) bound cs
    match namedMembers? members with
    | some members => pure (.object members, rest)
    | none => pure (.raw (textBetween ('{' :: cs) rest), rest)
  | _, cs => scalar? cs

/-- How many arrays and objects may be open at a time. -/
def maxLevels : Nat := 127

/-- Reads one value, white space before it, and gives what follows. A text has no more items
than characters, so its length bounds them. -/
def read? (text : List Char) : Option (Json × List Char) :=
  value?From text.length maxLevels (skipBlank text)

end RpcRoutes.Json
