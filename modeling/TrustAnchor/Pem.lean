import TrustAnchor.Base64
import TrustAnchor.Text.Blank
import TrustAnchor.Text.Quoted
import TrustAnchor.Text.Utf8

/-! Binary data wrapped in text between a line `-----BEGIN tag-----` and a line `-----END tag-----`.
The first such block of a text counts; what stands before and after it is ignored. -/

namespace TrustAnchor.Pem

/-- What keeps a text from being wrapped data. -/
inductive Fault where
  | malformedFraming
  | missingBegin
  | missingEnd
  | mismatchedTags (opening closing : String)
  | data (fault : Base64.Fault)
  | header (line : String)
  deriving DecidableEq, Repr

def Fault.message : Fault → String
  | .malformedFraming => "malformedframing"
  | .missingBegin => "missing BEGIN tag"
  | .missingEnd => "missing END tag"
  | .mismatchedTags opening closing =>
    "mismatching BEGIN (" ++ "\"" ++ opening ++ "\"" ++ ") and END (" ++ "\"" ++ closing ++ "\""
      ++ ") tags"
  | .data fault => "invalid data: " ++ fault.message
  | .header line => "invalid header: " ++ line

/-- The text before a marker and the text after it. `found` is the part of the marker just read; a
character that does not continue it starts the search over, behind that character. -/
def splitAfter (marker : List Char) :
    (found : List Char) → (missing : List Char) → List Char → Option (List Char × List Char)
  | _, [], rest => some ([], rest)
  | _, _ :: _, [] => none
  | found, m :: missing, c :: rest =>
    if c = m then splitAfter marker (found ++ [c]) missing rest
    else
      (splitAfter marker [] marker rest).map fun (before, after) => (found ++ c :: before, after)

/-- The text before and after the first place where the search for a marker succeeds. -/
def split (marker : String) (text : List Char) : Option (List Char × List Char) :=
  splitAfter marker.toList [] marker.toList text

/-- White space that may stand between a tag and the data. -/
private def isGap (c : Char) : Bool := c = ' ' || c = '\t' || c = '\n' || c = '\r'

/-- A block as it stands in the text, nothing checked yet. -/
structure Block where
  opening : List Char
  headers : List Char
  body : List Char
  closing : List Char

/-- The first block. Header lines, if any, end at the first empty line. -/
def Block.find? (text : List Char) : Option Block := do
  let (_, rest) ← split "-----BEGIN " text
  let (opening, rest) ← split "-----" rest
  let (content, rest) ← split "-----END " (rest.dropWhile isGap)
  let (closing, _) ← split "-----" rest
  let (headers, body) :=
    ((split "\n\n" content).orElse fun _ => split "\r\n\r\n" content).getD ([], content)
  return ⟨opening, headers, body, closing⟩

/-- The lines of a text: each ends at a line feed, a carriage return before it is cut off, and
after the last line feed there is a line only if there is text. -/
def lines : (line : List Char) → List Char → List (List Char)
  | [], [] => []
  | line, [] => [line]
  | line, '\n' :: rest =>
    (if line.getLast? = some '\r' then line.dropLast else line) :: lines [] rest
  | line, c :: rest => lines (line ++ [c]) rest

/-- The bytes in a block. The tags are checked first, then the data, then the headers. -/
def Block.contents (b : Block) : Except Fault (List UInt8) := do
  if b.opening.isEmpty then throw .missingBegin
  if b.closing.isEmpty then throw .missingEnd
  if b.opening ≠ b.closing then
    throw (.mismatchedTags (String.ofList b.opening) (String.ofList b.closing))
  let symbols := Text.Utf8.encode (String.ofList (b.body.filter (!Text.isBlank ·)))
  let bytes ← (Base64.decode symbols).mapError .data
  match (lines [] b.headers).find? (!·.contains ':') with
  | some line => throw (.header (String.ofList line))
  | none => return bytes

/-- The bytes that a text wraps. -/
def decode (text : String) : Except Fault (List UInt8) :=
  match Block.find? text.toList with
  | none => .error .malformedFraming
  | some b => b.contents

/-- Lines of at most 64 characters. -/
private def wrap : (room : Nat) → List Char → List Char
  | _, [] => ['\n']
  | 0, c :: rest => '\n' :: c :: wrap 63 rest
  | room + 1, c :: rest => c :: wrap room rest

/-- The bytes as a block, in lines of 64 symbols. -/
def encode (tag : String) (bytes : List UInt8) : String :=
  "-----BEGIN " ++ tag ++ "-----\n"
    ++ String.ofList (wrap 64 (Base64.encodeText bytes).toList)
    ++ "-----END " ++ tag ++ "-----\n"

end TrustAnchor.Pem
