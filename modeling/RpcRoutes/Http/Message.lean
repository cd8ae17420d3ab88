import RpcRoutes.Http.Target
import RpcRoutes.Path.Template

/-!
# Messages

Requests and responses as far as routing needs them. Header names are in lower case, and a name
may have several values. A request also carries what routing has found out about it: the captured
parameters and the request id.

* `Request.ofParts?` makes a request from the texts of a request line and of header lines.
* `Headers.first?` and `Headers.put` read and replace the values of a name.
* `isHeaderValue` says which texts can be header values, `isPlainText` which of those can be read
  as text.
-/

namespace RpcRoutes

/-- Header lines: names in lower case with their values. -/
abbrev Headers := List (String × String)

namespace Headers

def first? (headers : Headers) (name : String) : Option String := headers.lookup name

/-- All values of a name replaced by one. -/
def put (headers : Headers) (name value : String) : Headers :=
  headers.filter (fun h => h.1 != name) ++ [(name, value)]

@[simp] theorem first?_put (headers : Headers) (name value : String) :
    (headers.put name value).first? name = some value := by
  have hnone : (headers.filter fun h => h.1 != name).lookup name = none := by
    rw [List.lookup_eq_none_iff]
    intro h hmem
    have hne : h.1 ≠ name := by simpa using (List.mem_filter.mp hmem).2
    simpa using hne.symm
  simp [first?, put, List.lookup_append, hnone]

/-- Replacing the values of a name leaves exactly one value of it. -/
theorem filter_put (headers : Headers) (name value : String) :
    (headers.put name value).filter (fun h => h.1 == name) = [(name, value)] := by
  have hnone : (headers.filter fun h => h.1 != name).filter (fun h => h.1 == name) = [] := by
    rw [List.filter_eq_nil_iff]
    intro h hmem
    have hne := (List.mem_filter.mp hmem).2
    simpa using hne
  simp [put, List.filter_append, hnone]

/-- Replacing the values of a name leaves the other lines. -/
theorem filter_ne_put (headers : Headers) (name value : String) :
    (headers.put name value).filter (fun h => h.1 != name) =
      headers.filter fun h => h.1 != name := by
  simp [put, List.filter_append]

theorem put_put (headers : Headers) (name value : String) :
    (headers.put name value).put name value = headers.put name value := by
  rw [put, filter_ne_put, put]

end Headers

/-- A text that can be a header value: it has no control characters but tabs. -/
def isHeaderValue (value : String) : Bool :=
  value.toList.all fun c => c == '\t' || (0x20 ≤ c.toNat && c.toNat != 0x7F)

/-- A header value of visible ASCII characters, blanks and tabs. -/
def isPlainText (value : String) : Bool :=
  value.toList.all fun c => c == '\t' || (0x20 ≤ c.toNat && c.toNat < 0x7F)

/-- What can be read as text can be written as a header value. -/
theorem isHeaderValue_of_isPlainText {value : String} (plain : isPlainText value = true) :
    isHeaderValue value = true := by
  rw [isPlainText, List.all_eq_true] at plain
  rw [isHeaderValue, List.all_eq_true]
  intro c mem
  have here := plain c mem
  simp only [Bool.or_eq_true, Bool.and_eq_true, decide_eq_true_eq, bne_iff_ne] at here ⊢
  refine here.imp_right ?_
  rintro ⟨low, high⟩
  exact ⟨low, by omega⟩

structure Request where
  method : String
  /-- The path, without query and fragment. -/
  path : String
  headers : Headers
  /-- The parameters that the matched route captured. -/
  params : Option PathParams
  /-- The request id, once one is assigned. -/
  requestId : Option String
  deriving DecidableEq, Repr

structure Response where
  status : Nat
  headers : Headers
  body : String
  deriving DecidableEq, Repr

def Response.plain (status : Nat) (body : String) : Response :=
  ⟨status, [("content-type", "text/plain; charset=utf-8")], body⟩

namespace Request

/-- The characters of a token: letters, digits and some marks, all ASCII. -/
def isTokenChar (c : Char) : Bool :=
  c.isAlphanum || "!#$%&'*+-.^_`|~".toList.contains c

/-- A token is not empty. -/
def isToken (s : String) : Bool := !s.isEmpty && s.toList.all isTokenChar

def maxNameBytes : Nat := 65535

/-- A text that can be a header name: a token that is not too long. -/
def isHeaderName (s : String) : Bool := isToken s && decide (s.utf8ByteSize ≤ maxNameBytes)

/-- A header line with its name in lower case; none when its name or its value cannot be one. -/
def header? (line : String × String) : Option (String × String) :=
  if isHeaderName line.1 && isHeaderValue line.2 then some (line.1.map Char.toLower, line.2)
  else none

/-- A request from the texts of its parts; none when one of them is malformed. -/
def ofParts? (method target : String) (headers : List (String × String)) : Option Request := do
  if isToken method then
    let target ← Target.parse? target
    let headers ← headers.mapM header?
    pure ⟨method, target.path, headers, none, none⟩
  else none

end Request

end RpcRoutes
