/-!
# Decimal numbers and the range of doubles

A written number is a row of decimal digits and a power of ten. It lies in the range of a double
when the double nearest to it is finite.

* `Decimal.inRange` decides this exactly.
* `Decimal.inRangeOfParts` decides it for a number that is computed from its parts: the leading
  digits and the power of ten are each taken as the nearest double, and their product is what has
  to be finite. `Decimal.nearest` is the nearest double of a natural number.
-/

namespace RpcRoutes

/-- A number without its sign: an integer times a power of ten. -/
structure Decimal where
  digits : List Char
  exponent : Int

namespace Decimal

def digitValue (c : Char) : Nat := c.toNat - '0'.toNat

def valueOf (digits : List Char) : Nat := digits.foldl (fun n c => n * 10 + digitValue c) 0

/-- Half a unit above the largest double: the least number that is out of range. It has 309
digits. -/
def rangeEnd : Nat := Nat.pow 2 1024 - Nat.pow 2 970

/-- Whether a number lies in the range of a double. Only where its length does not decide is it
computed. -/
def inRange (x : Decimal) : Bool :=
  let digits := x.digits.dropWhile (· == '0')
  let places := digits.length + x.exponent
  digits == [] || places < 309
    || (places == 309
      && valueOf digits * Nat.pow 10 x.exponent.toNat < rangeEnd * Nat.pow 10 (-x.exponent).toNat)

/-- The double nearest to a natural number: 53 binary digits are kept, and a tie goes to the even
neighbour. -/
def nearest (n : Nat) : Nat :=
  let unit := Nat.pow 2 (n.log2 - 52)
  let rest := n % unit
  let up := unit < 2 * rest || (unit == 2 * rest && n / unit % 2 == 1)
  (n / unit + if up then 1 else 0) * unit

/-- The first number that has more than 64 binary digits. -/
def wordEnd : Nat := Nat.pow 2 64

/-- Appends digits to a number as long as it stays below `wordEnd`, and gives the digits that are
left. -/
def absorb : Nat → List Char → Nat × List Char
  | n, [] => (n, [])
  | n, c :: cs =>
    if n * 10 + digitValue c < wordEnd then absorb (n * 10 + digitValue c) cs else (n, c :: cs)

/-- The greatest power of ten that is a double. -/
def maxPower : Int := 308

/-- Whether the product of an integer and a power of ten, each taken as the nearest double, lies
in the range of a double. A power that is no double is out of range of its own. -/
def productInRange (n : Nat) (exponent : Int) : Bool :=
  n == 0 || exponent < 0
    || (exponent ≤ maxPower && nearest n * nearest (Nat.pow 10 exponent.toNat) < rangeEnd)

/-- Whether a number lies in the range of a double when it is computed from its parts: the digits
before and after the point, as many of each as 64 bits hold, and the power of ten. A digit before
the point that is not used counts as a zero, one after the point not at all. -/
def inRangeOfParts (whole places : List Char) (power : Int) : Bool :=
  let (head, unused) := absorb 0 whole
  let (number, skipped) := absorb head places
  productInRange number (power + unused.length - (places.length - skipped.length))

end Decimal

end RpcRoutes
