import TrustAnchor.CommandLine.Markup
import TrustAnchor.CommandLine.Parse
import TrustAnchor.Text.Similarity

/-! What the program says about its command line: the help, and why it refuses the arguments. The
texts are styled for a terminal. What the user gave stands in them as it is, so a control character
in it counts as one of the text, up to the next style. -/

namespace TrustAnchor.CommandLine

def programName : String := "webhook-ca"

def programVersion : String := "0.1.0"

/-- Flags as the usage shows them, or that there are some. -/
def usageOf (shapes : List String) : String :=
  Style.heading.mark "Usage:" ++ " " ++ Style.literal.mark programName ++ " " ++
    if shapes.isEmpty then "[OPTIONS]" else String.intercalate " " shapes.eraseDups

/-- The fields of the settings, as a group of which some are given. -/
def settingsShape : String :=
  "<" ++ String.intercalate "|" (Setting.all.map fun f => (Flag.setting f).shape) ++ ">"

/-- The flags given together with a switch: switches come first, and any field stands for all. -/
def shapesBeside (given : List Flag) : List String :=
  let isField : Flag → Bool
    | .setting _ => true
    | .switch _ => false
  (given.filter (!isField ·)).map Flag.shape ++ if given.any isField then [settingsShape] else []

/-- Why arguments are refused: a line that says it, a hint, and the usage that it breaks. -/
structure Complaint where
  headline : String
  hint : Option String := none
  usage : Option String := none
  deriving DecidableEq, Repr

/-- The whole complaint. -/
def Complaint.text (c : Complaint) : String :=
  let apart (s : String) := "\n\n" ++ s
  Style.fault.mark "error:" ++ " " ++ c.headline
    ++ (c.hint.map fun h => apart ("  " ++ Style.valid.mark "tip:" ++ " " ++ h)).getD ""
    ++ (c.usage.map apart).getD ""
    ++ apart ("For more information, try '" ++ Style.literal.mark "--help" ++ "'.\n")

private def quoted (s : Style) (text : String) : String := "'" ++ s.mark text ++ "'"

private def missingValue (shape : String) : String :=
  "a value is required for " ++ quoted .literal shape ++ " but none was supplied"

private def invalidValue (text shape : String) : String :=
  "invalid value " ++ quoted .invalid text ++ " for " ++ quoted .literal shape

private def unexpected (text : String) : String :=
  "unexpected argument " ++ quoted .invalid text ++ " found"

/-- The complaint about a fault of a program with all flags. -/
def Fault.complaint : Fault → Complaint
  | .unknown text => { headline := unexpected text, usage := some (usageOf []) }
  | .unknownLong name given =>
    let similar := (Text.mostAlike? name (Flag.all.map Flag.label)).bind fun label =>
      Flag.all.find? (·.label = label)
    { headline := unexpected ("--" ++ name)
      hint := similar.map fun f =>
        "a similar argument exists: " ++ quoted .valid ("--" ++ f.label)
      usage := some (usageOf ((given ++ similar.toList).map Flag.shape)) }
  | .noValue field => { headline := missingValue (Flag.setting field).shape }
  | .badValue field text reason =>
    { headline := invalidValue text (Flag.setting field).shape ++ ": " ++ reason }
  | .badSwitch switch text =>
    let shape := (Flag.switch switch).shape
    let allowed := ["true", "false"]
    { headline := (if text = "" then missingValue shape else invalidValue text shape)
        ++ "\n  [possible values: " ++ String.intercalate ", " (allowed.map Style.valid.mark) ++ "]"
      hint := (Text.mostAlike? text allowed).map fun v =>
        "a similar value exists: " ++ quoted .valid v }
  | .repeated flag =>
    { headline := "the argument " ++ quoted .invalid flag.shape ++ " cannot be used multiple times"
      usage := some (usageOf []) }
  | .unneeded switch text given =>
    { headline := "unexpected value " ++ quoted .invalid text ++ " for "
        ++ quoted .literal (Flag.switch switch).shape ++ " found; no more were expected"
      usage := some (usageOf (shapesBeside (given ++ [.switch switch]))) }

/-- Where else the value of a flag may come from. -/
def sources (vars : Variables) (flag : Flag) : List String :=
  (flag.variableName?.toList.map fun name =>
    "[env: " ++ name ++ "=" ++ (vars.lookup name).getD "" ++ "]")
  ++ match flag with
    | .setting field => ["[default: " ++ field.fallback ++ "]"]
    | .switch _ => []

/-- A flag in the help. Lines after the first are indented like it. -/
def helpEntry (vars : Variables) (flag : Flag) : String :=
  let indent := "          "
  let name := Style.literal.mark ("--" ++ flag.label) ++ flag.placeholder
  let spelling := match flag.letter? with
    | some c => "  " ++ Style.literal.mark (String.ofList ['-', c]) ++ ", " ++ name
    | none => "      " ++ name
  let text := String.intercalate " " (flag.purpose :: sources vars flag)
  spelling ++ "\n" ++ indent ++ text.replace "\n" ("\n" ++ indent) ++ "\n"

def help (vars : Variables) : String :=
  "Kubernetes controller that owns the CA behind admission webhook TLS and propagates its trust"
    ++ " bundle\n\n" ++ usageOf [] ++ "\n\n" ++ Style.heading.mark "Options:" ++ "\n"
    ++ String.join (Flag.all.map (helpEntry vars))

end TrustAnchor.CommandLine
