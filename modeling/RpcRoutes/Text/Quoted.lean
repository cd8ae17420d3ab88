import RpcRoutes.Text.Combining
import RpcRoutes.Text.Unprintable

/-!
# Quoted text

Text inside a message stands between double quotes. A quote and a backslash get a backslash in
front, the common control characters have short escapes, and a character that shows nothing of
its own or would join the one before it is written by its code point.

* `Text.quoted` is the quoted form of a text.
-/

namespace RpcRoutes.Text

def hexDigits (n : Nat) : List Char := Nat.toDigits 16 n

/-- A character inside quotes. -/
def quotedChar (c : Char) : List Char :=
  match c with
  | '"' => ['\\', '"']
  | '\\' => ['\\', '\\']
  | '\n' => ['\\', 'n']
  | '\r' => ['\\', 'r']
  | '\t' => ['\\', 't']
  | '\x00' => ['\\', '0']
  | c =>
    if isCombining c || isUnprintable c then
      ['\\', 'u', '{'] ++ hexDigits c.toNat ++ ['}']
    else [c]

def quoted (s : String) : String :=
  "\"" ++ String.ofList (s.toList.flatMap quotedChar) ++ "\""

end RpcRoutes.Text
