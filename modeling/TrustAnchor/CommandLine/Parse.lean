import TrustAnchor.CommandLine.Flag
import TrustAnchor.Variables

/-! Reading the command line. Arguments are read from the left; a flag that takes a value has it
attached behind an equals sign or takes the next word. A value that was taken from the next word is
looked at only when the next flag comes, or at the end, so of several faults the one that is found
first is reported. -/

namespace TrustAnchor.CommandLine

/-- An argument by its form. -/
inductive Argument where
  /-- Two dashes alone: no flag comes after them. -/
  | separator
  /-- A name behind two dashes, and what follows the first equals sign. -/
  | long (name : String) (value : Option String)
  /-- A letter behind one dash. What follows the letter is of no interest. -/
  | short (letter : Char)
  /-- Anything else, a single dash too. -/
  | word (text : String)
  deriving DecidableEq, Repr

/-- What stands before the first equals sign, and what stands behind it. -/
def splitValue : List Char → List Char × Option (List Char)
  | [] => ([], none)
  | c :: rest =>
    if c = '=' then ([], some rest)
    else
      let (name, value) := splitValue rest
      (c :: name, value)

def Argument.read (text : String) : Argument :=
  match text.toList with
  | ['-', '-'] => .separator
  | '-' :: '-' :: rest =>
    let (name, value) := splitValue rest
    .long (String.ofList name) (value.map String.ofList)
  | '-' :: c :: _ => .short c
  | _ => .word text

/-- Why the command line is refused. -/
inductive Fault where
  /-- A word that no flag takes, or an unknown letter with its dash. -/
  | unknown (text : String)
  /-- An unknown name, and the flags given before it. -/
  | unknownLong (name : String) (given : List Flag)
  | noValue (field : Setting)
  | badValue (field : Setting) (text reason : String)
  /-- The environment variable of a switch is neither true nor false. -/
  | badSwitch (switch : Switch) (text : String)
  | repeated (flag : Flag)
  /-- A value attached to a switch, and the flags given before it. -/
  | unneeded (switch : Switch) (text : String) (given : List Flag)
  deriving DecidableEq, Repr

/-- What ends the reading early. -/
inductive Stop where
  | help
  | version
  | fault (f : Fault)
  deriving DecidableEq, Repr

/-- What the command line chose. -/
structure Choice where
  settings : Settings := {}
  logJson : Bool := false
  deriving DecidableEq, Repr

/-- The reading so far. -/
structure Progress where
  choice : Choice := {}
  /-- The flags read, in order. -/
  given : List Flag := []
  /-- The last flag and the word it took, if it takes one and the word was not looked at yet. -/
  waiting : Option (Setting × Option String) := none
  deriving DecidableEq, Repr

namespace Progress

/-- Sets a field for the first time. -/
def put (p : Progress) (field : Setting) (text : String) : Except Fault Progress :=
  if .setting field ∈ p.given then .error (.repeated (.setting field))
  else
    match field.assign text p.choice.settings with
    | .error reason => .error (.badValue field text reason)
    | .ok settings =>
      .ok { p with choice := { p.choice with settings }, given := p.given ++ [.setting field] }

/-- Looks at the word that the last flag took. -/
def settle (p : Progress) : Except Fault Progress :=
  match p.waiting with
  | none => .ok p
  | some (field, none) => .error (.noValue field)
  | some (field, some text) => { p with waiting := none }.put field text

/-- The flags read, the last one too. A field that comes again undoes itself. -/
def mentioned (p : Progress) : List Flag :=
  match p.waiting with
  | some (field, some _) =>
    if .setting field ∈ p.given then p.given.erase (.setting field)
    else p.given ++ [.setting field]
  | _ => p.given

/-- A switch without a value. -/
def turnOn (p : Progress) (s : Switch) : Except Stop Progress :=
  match p.settle, s with
  | .error f, _ => .error (.fault f)
  | .ok _, .help => .error .help
  | .ok _, .version => .error .version
  | .ok p, .logJson =>
    if .switch .logJson ∈ p.given then .error (.fault (.repeated (.switch .logJson)))
    else
      .ok { p with
        choice := { p.choice with logJson := true }
        given := p.given ++ [.switch .logJson] }

/-- A flag with the value attached to it. -/
def long (p : Progress) : Flag → Option String → Except Stop Progress
  | .setting field, some text => (p.settle >>= (·.put field text)).mapError .fault
  | .setting field, none =>
    (p.settle.map fun p => { p with waiting := some (field, none) }).mapError .fault
  | .switch s, some text => .error (.fault (.unneeded s text p.given))
  | .switch s, none => p.turnOn s

/-- One argument, before any separator. -/
def next (offered : List Flag) (p : Progress) : Argument → Except Stop Progress
  | .separator => .ok p
  | .long name value =>
    match offered.find? (·.label = name) with
    | some flag => p.long flag value
    | none => .error (.fault (.unknownLong name p.mentioned))
  | .short letter =>
    match offered.find? (·.letter? = some letter) with
    | some flag => p.long flag none
    | none => .error (.fault (.unknown (String.ofList ['-', letter])))
  | .word text =>
    match p.waiting with
    | some (field, none) => .ok { p with waiting := some (field, some text) }
    | _ => .error (.fault (.unknown text))

/-- All arguments. No word is allowed behind a separator. -/
def readAll (offered : List Flag) (p : Progress) : List String → Except Stop Progress
  | [] => p.settle.mapError .fault
  | text :: rest =>
    match Argument.read text, rest with
    | .separator, [] => p.settle.mapError .fault
    | .separator, word :: _ => .error (.fault (.unknown word))
    | argument, rest => do readAll offered (← p.next offered argument) rest

/-- The environment variable of a flag, unless the flag was given. A field that has neither takes its
fallback. -/
def fill (vars : Variables) (p : Progress) (flag : Flag) : Except Fault Progress :=
  if flag ∈ p.given then .ok p
  else
    match flag with
    | .setting field => p.put field ((vars.lookup field.variableName).getD field.fallback)
    | .switch s =>
      match s.variableName?.bind (vars.lookup ·) with
      | none | some "false" => .ok p
      | some "true" => .ok { p with choice := { p.choice with logJson := true } }
      | some text => .error (.badSwitch s text)

end Progress

/-- What the arguments choose, then the environment variables and the fallbacks, in the order of the
flags. -/
def parse (offered : List Flag) (args : List String) (vars : Variables) : Except Stop Choice := do
  let p ← Progress.readAll offered {} args
  let p ← (offered.foldlM (Progress.fill vars) p).mapError .fault
  return p.choice

end TrustAnchor.CommandLine
