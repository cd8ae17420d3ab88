import RpcRoutes.Json.Reader

/-!
# TOML scalars

Strings, numbers, dates and times of a TOML document. A reader takes what it reads off the front
of a text and gives the rest; it fails when the front is malformed.

* `Toml.string?` reads a string of any of the four kinds.
* `Toml.number?` and `Toml.moment?` check the form of a number and of a date or time.
-/

namespace RpcRoutes.Toml

/-- A reader of values. -/
abbrev Reader (α : Type) := List Char → Option (α × List Char)

/-- Blanks within a line. -/
def isBlank (c : Char) : Bool := c == ' ' || c == '\t'

/-- Text without the blanks it starts with. -/
def skipBlank (cs : List Char) : List Char := cs.dropWhile isBlank

/-- The characters of comments and strings: all but control characters, tabs allowed. -/
def isTextChar (c : Char) : Bool := c == '\t' || (0x20 ≤ c.toNat && c.toNat != 0x7F)

/-- What follows the end of a line. -/
def newline? : List Char → Option (List Char)
  | '\n' :: cs => some cs
  | '\r' :: '\n' :: cs => some cs
  | _ => none

/-! ### Strings -/

/-- The character of a code point. -/
def scalar? (n : Nat) : Option Char :=
  if n < 0xD800 ∨ (0xE000 ≤ n ∧ n < 0x110000) then some (Char.ofNat n) else none

/-- The character that a short escape writes. -/
def shortEscape? : Char → Option Char
  | 'b' => some '\x08'
  | 't' => some '\t'
  | 'n' => some '\n'
  | 'f' => some '\x0c'
  | 'r' => some '\r'
  | '"' => some '"'
  | '\\' => some '\\'
  | _ => none

/-- Reads an escape after its backslash. -/
def escape? : Reader Char
  | 'u' :: a :: b :: c :: d :: rest => do
    pure (← scalar? (← Json.hex4? a b c d), rest)
  | 'U' :: a :: b :: c :: d :: e :: f :: g :: h :: rest => do
    pure (← scalar? ((← Json.hex4? a b c d) * 0x10000 + (← Json.hex4? e f g h)), rest)
  | e :: rest => (shortEscape? e).map (·, rest)
  | [] => none

/-- How many characters an escape has after its backslash. -/
def escapeLength : List Char → Nat
  | 'u' :: _ => 5
  | 'U' :: _ => 9
  | _ => 1

/-- Whether a backslash before this text joins lines: only blanks are left in the line. -/
def joinsLines (cs : List Char) : Bool := (newline? (skipBlank cs)).isSome

/-- Reads a basic string after its opening quote. `skip` characters belong to an escape that is
read already, `seen` holds the characters read, the latest first. -/
def basicFrom (skip : Nat) (seen : List Char) : Reader String
  | [] => none
  | c :: cs =>
    match skip with
    | skip + 1 => basicFrom skip seen cs
    | 0 =>
      if c = '"' then some (String.ofList seen.reverse, cs)
      else if c = '\\' then
        match escape? cs with
        | none => none
        | some (d, _) => basicFrom (escapeLength cs) (d :: seen) cs
      else if isTextChar c then basicFrom 0 (c :: seen) cs
      else none

/-- Reads a literal string after its opening quote. -/
def literal? : Reader String := fun cs =>
  let body := cs.takeWhile fun c => c != '\'' && isTextChar c
  match cs.dropWhile fun c => c != '\'' && isTextChar c with
  | '\'' :: rest => some (String.ofList body, rest)
  | _ => none

/-- How a string of several lines goes on after a character. -/
inductive LineState where
  | text
  /-- With characters that belong to an escape that is read already. -/
  | skip (n : Nat)
  /-- With blanks and line ends that count for nothing, after a backslash at the end of a line. -/
  | joining

/-- What is left of a string of several lines before its closing quotes, when it ends here: two
quotes more than the three that close it belong to the text. -/
def closing? (quote : Char) (cs : List Char) : Option (Nat × List Char) :=
  let run := (cs.takeWhile (· == quote)).length
  if 3 ≤ run then some (min (run - 3) 2, cs.drop (min run 5)) else none

/-- Reads a basic string of several lines after its opening quotes. -/
def multiBasicFrom (state : LineState) (seen : List Char) : Reader String
  | [] => none
  | c :: cs =>
    match state with
    | .skip (n + 1) => multiBasicFrom (if n = 0 then .text else .skip n) seen cs
    | .skip 0 => multiBasicFrom .text seen cs
    | .joining =>
      if isBlank c || c == '\n' then multiBasicFrom .joining seen cs
      else if c == '\r' && cs.head? == some '\n' then multiBasicFrom .joining seen cs
      else step c cs
    | .text => step c cs
where
  /-- Reads a character that belongs to the text. -/
  step (c : Char) (cs : List Char) : Option (String × List Char) :=
    match closing? '"' (c :: cs) with
    | some (quotes, rest) =>
      some (String.ofList (List.replicate quotes '"' ++ seen).reverse, rest)
    | none =>
      if c = '\\' then
        if joinsLines cs then multiBasicFrom .joining seen cs
        else
          match escape? cs with
          | none => none
          | some (d, _) => multiBasicFrom (.skip (escapeLength cs)) (d :: seen) cs
      else if c = '\r' then
        if cs.head? = some '\n' then multiBasicFrom .text seen cs else none
      else if c = '\n' ∨ isTextChar c = true then multiBasicFrom .text (c :: seen) cs
      else none

/-- Reads a literal string of several lines after its opening quotes. -/
def multiLiteralFrom (seen : List Char) : Reader String
  | [] => none
  | c :: cs =>
    match closing? '\'' (c :: cs) with
    | some (quotes, rest) =>
      some (String.ofList (List.replicate quotes '\'' ++ seen).reverse, rest)
    | none =>
      if c = '\r' then if cs.head? = some '\n' then multiLiteralFrom seen cs else none
      else if c = '\n' ∨ isTextChar c = true then multiLiteralFrom (c :: seen) cs
      else none

/-- Text without a line end at its front. -/
def dropNewline (cs : List Char) : List Char := (newline? cs).getD cs

/-- Reads a string of one line. -/
def simpleString? : Reader String
  | '"' :: cs => basicFrom 0 [] cs
  | '\'' :: cs => literal? cs
  | _ => none

def string? : Reader String
  | '"' :: '"' :: '"' :: cs => multiBasicFrom .text [] (dropNewline cs)
  | '\'' :: '\'' :: '\'' :: cs => multiLiteralFrom [] (dropNewline cs)
  | cs => simpleString? cs

/-! ### Numbers -/

/-- No two underscores stand side by side. -/
def singleUnderscores : List Char → Bool
  | '_' :: '_' :: _ => false
  | _ :: cs => singleUnderscores cs
  | [] => true

/-- Reads digits, between which single underscores may stand. -/
def digits? (isDigit : Char → Bool) : Reader (List Char) := fun cs =>
  let belongs := fun c => isDigit c || c == '_'
  let run := cs.takeWhile belongs
  if run.head?.any isDigit && run.getLast?.any isDigit && singleUnderscores run then
    some (run.filter isDigit, cs.dropWhile belongs)
  else none

def valueIn (base : Nat) (digits : List Char) : Nat :=
  digits.foldl (fun n c => n * base + (Json.hexDigit? c).getD 0) 0

def isDigitOf (base : Nat) (c : Char) : Bool := (Json.hexDigit? c).any (· < base)

/-- Integers have 64 bits: the first magnitude that is out of range. -/
def integerEnd (negative : Bool) : Nat := if negative then Nat.pow 2 63 + 1 else Nat.pow 2 63

/-- Reads the integer after the mark of its base. -/
def based? (base : Nat) : Reader Unit := fun cs => do
  let (ds, rest) ← digits? (isDigitOf base) cs
  if valueIn base ds < integerEnd false then pure ((), rest) else none

/-- Reads the digits after a point. -/
def fraction? : Reader (Option (List Char))
  | '.' :: cs => do
    let (ds, rest) ← digits? Char.isDigit cs
    pure (some ds, rest)
  | cs => some (none, cs)

/-- Reads the digits of an exponent after its letter. -/
def exponentDigits? : Reader Int
  | '-' :: cs => do
    let (ds, rest) ← digits? Char.isDigit cs
    pure (-(Decimal.valueOf ds : Int), rest)
  | '+' :: cs => do
    let (ds, rest) ← digits? Char.isDigit cs
    pure ((Decimal.valueOf ds : Int), rest)
  | cs => do
    let (ds, rest) ← digits? Char.isDigit cs
    pure ((Decimal.valueOf ds : Int), rest)

/-- Reads an exponent, if there is one. -/
def exponent? : Reader (Option Int)
  | 'e' :: cs => (exponentDigits? cs).map fun (n, rest) => (some n, rest)
  | 'E' :: cs => (exponentDigits? cs).map fun (n, rest) => (some n, rest)
  | cs => some (none, cs)

/-- Reads a decimal number after its sign: an integer, or a number with a point or an exponent,
which must not be too great to be told from infinity. -/
def decimal? (negative : Bool) : Reader Unit := fun cs => do
  let (whole, rest) ← digits? Char.isDigit cs
  if whole.length ≠ 1 ∧ whole.head? = some '0' then none
  else
    let (places, rest) ← fraction? rest
    let (power, rest) ← exponent? rest
    if places = none ∧ power = none then
      if Decimal.valueOf whole < integerEnd negative then pure ((), rest) else none
    else
      let places := places.getD []
      let value : Decimal := ⟨whole ++ places, power.getD 0 - places.length⟩
      if negative || value.inRange then pure ((), rest) else none

/-- Reads a number after its sign. -/
def magnitude? (negative : Bool) : Reader Unit
  | 'i' :: 'n' :: 'f' :: rest => some ((), rest)
  | 'n' :: 'a' :: 'n' :: rest => some ((), rest)
  | cs => decimal? negative cs

def number? : Reader Unit
  | '0' :: 'x' :: cs => based? 16 cs
  | '0' :: 'o' :: cs => based? 8 cs
  | '0' :: 'b' :: cs => based? 2 cs
  | '-' :: cs => magnitude? true cs
  | '+' :: cs => magnitude? false cs
  | cs => magnitude? false cs

/-! ### Dates and times -/

/-- Reads exactly `count` digits as a number. -/
def fixed? (count : Nat) : Reader Nat := fun cs =>
  let ds := cs.take count
  if ds.length = count ∧ ds.all Char.isDigit = true then some (Decimal.valueOf ds, cs.drop count)
  else none

def char? (c : Char) : List Char → Option (List Char)
  | [] => none
  | d :: cs => if c = d then some cs else none

def daysOf (year month : Nat) : Nat :=
  if month = 2 then
    if year % 4 = 0 ∧ (year % 100 ≠ 0 ∨ year % 400 = 0) then 29 else 28
  else if month ∈ [4, 6, 9, 11] then 30
  else 31

def date? (cs : List Char) : Option (List Char) := do
  let (year, cs) ← fixed? 4 cs
  let (month, cs) ← fixed? 2 (← char? '-' cs)
  let (day, cs) ← fixed? 2 (← char? '-' cs)
  if 1 ≤ month ∧ month ≤ 12 ∧ 1 ≤ day ∧ day ≤ daysOf year month then pure cs else none

/-- Reads hours and minutes. -/
def clock? (cs : List Char) : Option (List Char) := do
  let (hour, cs) ← fixed? 2 cs
  let (minute, cs) ← fixed? 2 (← char? ':' cs)
  if hour < 24 ∧ minute < 60 then pure cs else none

def time? (cs : List Char) : Option (List Char) := do
  let (second, cs) ← fixed? 2 (← char? ':' (← clock? cs))
  if 60 < second then none
  else
    match cs with
    | '.' :: cs => if cs.head?.any Char.isDigit then pure (cs.dropWhile Char.isDigit) else none
    | cs => pure cs

def offset? : List Char → Option (List Char)
  | 'Z' :: cs => some cs
  | 'z' :: cs => some cs
  | '+' :: cs => clock? cs
  | '-' :: cs => clock? cs
  | _ => none

/-- Reads the time of a date, which may be missing. -/
def timeOfDate : List Char → List Char
  | c :: cs =>
    if c = 'T' ∨ c = 't' ∨ c = ' ' then
      match time? cs with
      | some rest => (offset? rest).getD rest
      | none => c :: cs
    else c :: cs
  | [] => []

/-- Reads a date, a time, or both with or without an offset. -/
def moment? : Reader Unit := fun cs =>
  match date? cs with
  | some rest => some ((), timeOfDate rest)
  | none => (time? cs).map ((), ·)

end RpcRoutes.Toml
