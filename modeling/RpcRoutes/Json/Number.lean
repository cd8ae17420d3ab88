import RpcRoutes.Decimal.Range

/-!
# JSON numbers

A number is an integral part without needless zeros, a fraction and an exponent, the last two of
which may be missing. Its value is computed from its parts as a double, and only a finite one
can be used.

* `Json.numeral?` reads a number and gives what follows it.
* `Json.Numeral.text` is a number as it is written, `Json.Numeral.inRange` says whether it can be
  used.
-/

namespace RpcRoutes.Json

/-- An exponent, as it is written and as the power of ten that it means. -/
structure Exponent where
  /-- Letter, sign and digits; empty when there is no exponent. -/
  text : List Char
  power : Int

structure Numeral where
  /-- Whether it has a sign. -/
  negative : Bool
  /-- The digits before the point. -/
  whole : List Char
  /-- The digits after the point; empty when there is no point. -/
  places : List Char
  exponent : Exponent

namespace Numeral

def text (n : Numeral) : String :=
  let sign := if n.negative then ['-'] else []
  let fraction := if n.places.isEmpty then [] else '.' :: n.places
  String.ofList (sign ++ n.whole ++ fraction ++ n.exponent.text)

/-- Whether a number has a value. -/
def inRange (n : Numeral) : Bool :=
  Decimal.inRangeOfParts n.whole n.places n.exponent.power

end Numeral

/-- The digits that text starts with, and what follows. -/
def spanDigits (cs : List Char) : List Char × List Char :=
  (cs.takeWhile Char.isDigit, cs.dropWhile Char.isDigit)

/-- The integral part of a number: a single zero, or digits that do not start with zero. -/
def integral? (cs : List Char) : Option (List Char × List Char) :=
  match spanDigits cs with
  | ([], _) => none
  | ('0' :: _ :: _, _) => none
  | found => some found

/-- The digits after a point; none when a point is followed by no digit. -/
def fraction? : List Char → Option (List Char × List Char)
  | '.' :: cs =>
    match spanDigits cs with
    | ([], _) => none
    | found => some found
  | cs => some ([], cs)

/-- Reads an exponent after its letter. -/
def exponentAfter? (letter : Char) (cs : List Char) : Option (Exponent × List Char) :=
  let (sign, cs) :=
    match cs with
    | '-' :: cs => (['-'], cs)
    | '+' :: cs => (['+'], cs)
    | cs => ([], cs)
  match spanDigits cs with
  | ([], _) => none
  | (ds, rest) =>
    let power : Int := Decimal.valueOf ds
    some (⟨letter :: (sign ++ ds), if sign = ['-'] then -power else power⟩, rest)

/-- Reads an exponent, if there is one. -/
def exponent? : List Char → Option (Exponent × List Char)
  | 'e' :: cs => exponentAfter? 'e' cs
  | 'E' :: cs => exponentAfter? 'E' cs
  | cs => some (⟨[], 0⟩, cs)

/-- Reads a number and gives what follows it. -/
def numeral? (cs : List Char) : Option (Numeral × List Char) := do
  let (negative, rest) := match cs with | '-' :: cs => (true, cs) | cs => (false, cs)
  let (whole, rest) ← integral? rest
  let (places, rest) ← fraction? rest
  let (exponent, rest) ← exponent? rest
  pure (⟨negative, whole, places, exponent⟩, rest)

end RpcRoutes.Json
