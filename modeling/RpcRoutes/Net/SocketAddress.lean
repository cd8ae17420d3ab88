/-!
# Socket addresses

A socket address is an IPv4 address and a port, or an IPv6 address in brackets, which may have a
numeric scope, and a port.

* An octet of an IPv4 address is a decimal number below 256 without needless zeros.
* An IPv6 address has eight groups of one to four hexadecimal digits; `::` may stand once for one
  or more groups of zeros, and an IPv4 address may stand for the last two groups.
* A port is a decimal number below 65536, a scope one below 2 ^ 32; both may start with zeros.

Every reader takes what it can use off the front of a text and gives the rest.
-/

namespace RpcRoutes.SocketAddress

/-- Gives what follows, when the front of a text can be used. -/
abbrev Reader := List Char → Option (List Char)

/-- The value of a digit in a base of at most sixteen. -/
def digit? (base : Nat) (c : Char) : Option Nat :=
  let value :=
    if '0' ≤ c ∧ c ≤ '9' then some (c.toNat - '0'.toNat)
    else if 'a' ≤ c ∧ c ≤ 'f' then some (c.toNat - 'a'.toNat + 10)
    else if 'A' ≤ c ∧ c ≤ 'F' then some (c.toNat - 'A'.toNat + 10)
    else none
  value.filter (· < base)

/-- How a number may be written. -/
structure NumberForm where
  base : Nat
  /-- The greatest number of digits, if there is one. -/
  maxDigits : Option Nat
  /-- Whether it may start with a zero that is not its only digit. -/
  leadingZeros : Bool
  /-- All numbers are below this one. -/
  bound : Nat

/-- Reads all digits that follow as one number. -/
def number (form : NumberForm) : Reader := fun cs =>
  let isDigit := fun c => (digit? form.base c).isSome
  let digits := cs.takeWhile isDigit
  let value := digits.foldl (fun n c => n * form.base + (digit? form.base c).getD 0) 0
  let fits :=
    !digits.isEmpty && (form.maxDigits.all (digits.length ≤ ·))
      && (form.leadingZeros || digits.length == 1 || digits.head? != some '0')
      && value < form.bound
  if fits then some (cs.dropWhile isDigit) else none

def char (c : Char) : Reader
  | [] => none
  | d :: cs => if c = d then some cs else none

def octet : Reader := number ⟨10, some 3, false, 256⟩

def ipv4 : Reader := fun cs => do
  let cs ← octet cs
  let cs ← octet (← char '.' cs)
  let cs ← octet (← char '.' cs)
  octet (← char '.' cs)

/-- A colon and a port. -/
def port : Reader := fun cs => do number ⟨10, none, true, 0x10000⟩ (← char ':' cs)

def group : Reader := number ⟨16, some 4, true, 0x10000⟩

/-- What a row of groups ends in. -/
structure GroupRow where
  count : Nat
  /-- Whether the last two are an IPv4 address. -/
  embedded : Bool
  rest : List Char

/-- Reads groups with colons between them: as many as there are, and at most `room` more. An IPv4
address counts for two and ends the row. `count` groups were read before. -/
def groups : (room count : Nat) → List Char → GroupRow
  | 0, count, cs => ⟨count, false, cs⟩
  | room + 1, count, cs =>
    let start := if count = 0 then some cs else char ':' cs
    let four := if room = 0 then none else start.bind ipv4
    match four with
    | some rest => ⟨count + 2, true, rest⟩
    | none =>
      match start.bind group with
      | some rest => groups room (count + 1) rest
      | none => ⟨count, false, cs⟩

def ipv6 : Reader := fun cs =>
  let front := groups 8 0 cs
  if front.count = 8 then some front.rest
  else if front.embedded then none
  else do
    let cs ← char ':' (← char ':' front.rest)
    pure (groups (7 - front.count) 0 cs).rest

/-- A scope, which may be missing. -/
def scope : Reader := fun cs =>
  (((char '%' cs).bind (number ⟨10, none, true, 0x100000000⟩)).orElse fun _ => some cs)

def endpoint4 : Reader := fun cs => do port (← ipv4 cs)

def endpoint6 : Reader := fun cs => do
  let cs ← ipv6 (← char '[' cs)
  port (← char ']' (← scope cs))

def isValid (text : String) : Bool :=
  (endpoint4 text.toList).orElse (fun _ => endpoint6 text.toList) == some []

end RpcRoutes.SocketAddress
