import TrustAnchor.Binary64.Shortest
import TrustAnchor.Json.Basic
import TrustAnchor.Text.Order

/-! JSON values as text on one line, without spaces. Members are written in the order of their
keys. -/

namespace TrustAnchor.Json

private def hexDigit (n : Nat) : Char := Char.ofNat (if n < 10 then 48 + n else 87 + n)

/-- A character inside a string: quotes, backslashes and controls are escaped, the rest is itself. -/
def escapedChar (c : Char) : List Char :=
  match c with
  | '"' => ['\\', '"']
  | '\\' => ['\\', '\\']
  | '\n' => ['\\', 'n']
  | '\r' => ['\\', 'r']
  | '\t' => ['\\', 't']
  | '\x08' => ['\\', 'b']
  | '\x0c' => ['\\', 'f']
  | c =>
    if c.toNat < 0x20 then
      ['\\', 'u', '0', '0', hexDigit (c.toNat / 16), hexDigit (c.toNat % 16)]
    else [c]

/-- A string with its quotes. -/
def quote (s : String) : String :=
  String.ofList ('"' :: s.toList.flatMap escapedChar ++ ['"'])

/-- A number that is no number is written as null. -/
def realText : Binary64 → String
  | .finite negative m e => Binary64.shortest negative m e
  | .infinity _ | .nan => "null"

mutual
def text : Json → String
  | .null => "null"
  | .bool b => if b then "true" else "false"
  | .int n => toString n
  | .real x => realText x
  | .str s => quote s
  | .arr items => "[" ++ String.intercalate "," (texts items) ++ "]"
  | .obj members =>
    let written := (memberTexts members).mergeSort fun a b => !Text.before b.1 a.1
    "\x7b" ++ String.intercalate "," (written.map fun (k, t) => quote k ++ ":" ++ t) ++ "\x7d"

def texts : List Json → List String
  | [] => []
  | j :: rest => text j :: texts rest

def memberTexts : List (String × Json) → List (String × String)
  | [] => []
  | (k, j) :: rest => (k, text j) :: memberTexts rest
end

end TrustAnchor.Json
