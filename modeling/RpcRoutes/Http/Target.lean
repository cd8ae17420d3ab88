/-!
# Request targets

The target of a request takes one of four forms: a path of the server itself, an absolute address
with a scheme and an authority, an authority alone, or an asterisk. Routing looks at its path; the
query and the fragment that may follow a path are no part of it.

* `Target.parse?` reads a target.
* `Target.path` is the path that it asks for. An authority alone asks for none.
-/

namespace RpcRoutes

inductive Target where
  | asterisk
  /-- A path of the server itself. -/
  | origin (path : String)
  /-- A path at a named authority. -/
  | absolute (scheme authority path : String)
  | authority (authority : String)
  deriving DecidableEq, Repr

namespace Target

def path : Target → String
  | asterisk => "*"
  | origin path => path
  | absolute _ _ path => path
  | authority _ => ""

/-! ### Paths -/

/-- Neither a control character nor a blank. -/
def isVisible (c : Char) : Bool := 0x20 < c.toNat && c.toNat != 0x7F

def isPathChar (c : Char) : Bool := isVisible c && !("#<>?`".toList.contains c)

def isQueryChar (c : Char) : Bool := isVisible c && !("\"#<>".toList.contains c)

/-- The path in front of a query and a fragment. A query starts at the first question mark, a
fragment at the first number sign, and a fragment may hold anything. An empty path stands for
the root. -/
def pathOf? (cs : List Char) : Option String :=
  let visible := cs.takeWhile (· != '#')
  let path := visible.takeWhile (· != '?')
  let query := (visible.dropWhile (· != '?')).drop 1
  if path.all isPathChar && query.all isQueryChar then
    some (if path.isEmpty then "/" else String.ofList path)
  else none

/-! ### Authorities -/

/-- The characters of an authority that have no meaning of their own. -/
def isAuthorityChar (c : Char) : Bool := c.isAlphanum || "!$&'()*+,-.;=_~".toList.contains c

/-- What has been seen of an authority. -/
structure AuthorityScan where
  /-- The colons of the part that is being read. -/
  colons : Nat
  /-- Whether a bracket has been opened. -/
  opened : Bool
  /-- Whether a bracket has been closed. -/
  closed : Bool
  /-- Whether the part that is being read has a percent sign. -/
  percent : Bool
  deriving DecidableEq, Repr

namespace AuthorityScan

/-- The most colons of one part: those of a numeric host and the one before a port. -/
def maxColons : Nat := 8

def start : AuthorityScan := ⟨0, false, false, false⟩

/-- Reads a character. The user in front of an at sign and the host in brackets may hold colons
and percent signs, so these are forgotten where such a part ends. -/
def step (s : AuthorityScan) (c : Char) : Option AuthorityScan :=
  match c with
  | ':' => if s.colons < maxColons then some { s with colons := s.colons + 1 } else none
  | '[' => if s.percent || s.opened then none else some { s with opened := true }
  | ']' =>
    if s.opened && !s.closed then some { s with colons := 0, closed := true, percent := false }
    else none
  | '@' => some { s with colons := 0, percent := false }
  | '%' => some { s with percent := true }
  | c => if isAuthorityChar c then some s else none

/-- What is left is a host with at most one colon, the one before its port. -/
def isComplete (s : AuthorityScan) : Bool :=
  s.opened == s.closed && decide (s.colons ≤ 1) && !s.percent

end AuthorityScan

/-- A text that names an authority: an optional user, a host and an optional port. -/
def isAuthority (cs : List Char) : Bool :=
  !cs.isEmpty && cs.getLast? != some '@'
    && ((cs.foldlM AuthorityScan.step .start).any AuthorityScan.isComplete)

/-- The characters that end the authority of an absolute address. -/
def endsAuthority (c : Char) : Bool := c == '/' || c == '?' || c == '#'

/-! ### Targets -/

def isSchemeChar (c : Char) : Bool := c.isAlphanum || "+-.~".toList.contains c

def maxSchemeLength : Nat := 64

def maxBytes : Nat := 65534

/-- Reads an absolute address behind its scheme. -/
def absolute? (scheme rest : List Char) : Option Target :=
  let authority := rest.takeWhile (!endsAuthority ·)
  if scheme.length ≤ maxSchemeLength && isAuthority authority then
    (pathOf? (rest.dropWhile (!endsAuthority ·))).map
      (.absolute (String.ofList scheme) (String.ofList authority) ·)
  else none

def ofChars? : List Char → Option Target
  | ['*'] => some .asterisk
  | '/' :: cs => (pathOf? ('/' :: cs)).map .origin
  | cs =>
    match cs.dropWhile isSchemeChar with
    | ':' :: '/' :: '/' :: rest => absolute? (cs.takeWhile isSchemeChar) rest
    | _ => if isAuthority cs then some (.authority (String.ofList cs)) else none

/-- Reads a target; none when it is empty, too long or of no form. -/
def parse? (text : String) : Option Target :=
  if text.utf8ByteSize ≤ maxBytes then ofChars? text.toList else none

end Target

end RpcRoutes
