import TrustAnchor.Log.Pattern
import TrustAnchor.Text.Number
import TrustAnchor.Text.Order

/-! Which log records are let through. Rules are separated by commas; each names a level and
perhaps the targets and a field that it is for, and of the rules that are for a record the one that
names the most of it decides. -/

namespace TrustAnchor.Log

inductive Level where
  | error
  | warn
  | info
  | debug
  | trace
  deriving DecidableEq, Repr

namespace Level

def all : List Level := [.error, .warn, .info, .debug, .trace]

def label : Level → String
  | .error => "ERROR"
  | .warn => "WARN"
  | .info => "INFO"
  | .debug => "DEBUG"
  | .trace => "TRACE"

/-- How detailed a level is, from one to five. -/
def rank : Level → Nat
  | .error => 1
  | .warn => 2
  | .info => 3
  | .debug => 4
  | .trace => 5

end Level

/-- The rank of the most detailed level let through, zero if none is, given by number or by name. -/
def limit? (text : List Char) : Option Nat :=
  match Text.natural (Nat.pow 2 64 - 1) text with
  | .ok n => if n ≤ 5 then some n else none
  | .error _ =>
    let name := String.ofList (text.map Char.toUpper)
    if name = "OFF" then some 0 else (Level.all.find? (·.label = name)).map Level.rank

/-- What a rule is for. -/
inductive Scope where
  /-- Records of targets that begin with a name, and that have a field. -/
  | records (target : Option (List Char)) (field : Option (List Char))
  /-- Records inside of spans, or with a field of some value: no record here is such. -/
  | spans
  deriving DecidableEq, Repr

structure Rule where
  scope : Scope
  limit : Nat
  deriving DecidableEq, Repr

namespace Rule

/-- The part of a rule that is being read, and the place in bytes at which it begins. -/
inductive Part where
  | start
  | name (first : Nat)
  | span (first : Nat)
  | field (first : Nat)
  | fields
  /-- Behind the brackets. -/
  | tail
  | level (first : Nat)
  deriving DecidableEq, Repr

/-- What is known of a rule while it is read. -/
structure Draft where
  target : Option (List Char) := none
  field : Option (List Char) := none
  spans : Bool := false
  limit : Nat := 5
  deriving DecidableEq, Repr

private def takeBytes : Nat → List Char → List Char
  | _, [] => []
  | n, c :: rest => if c.utf8Size ≤ n then c :: takeBytes (n - c.utf8Size) rest else []

private def dropBytes : Nat → List Char → List Char
  | _, [] => []
  | n, c :: rest => if c.utf8Size ≤ n then dropBytes (n - c.utf8Size) rest else c :: rest

/-- From one place to another. -/
private def cut (text : List Char) (first stop : Nat) : List Char :=
  takeBytes (stop - first) (dropBytes first text)

/-- A field by its name, and perhaps with the value it has to have. -/
private def Draft.withField (d : Draft) (text : List Char) : Option Draft :=
  let name := text.takeWhile (· ≠ '=')
  match text.drop name.length with
  | [] => if text.isEmpty then none else some { d with field := some name }
  | _ :: rest =>
    let value := rest.takeWhile (· ≠ '=')
    if isPattern value || isSigned value then some { d with field := some name, spans := true }
    else none

/-- One character, at a place of the text without the white space around it. What is cut out is cut
out of the text with it. -/
private def step (text : List Char) (i : Nat) (c : Char) (d : Draft) : Part → Option (Part × Draft)
  | .start =>
    if c = '[' then some (.span (i + 1), d)
    else if Text.isAlphanumeric c || c = '-' || c = ':' || c = '_' then some (.name i, d)
    else none
  | .name first =>
    let d' := { d with target := some (cut text first i) }
    if c = '=' then some (.level (i + 1), d')
    else if c = '[' then some (.span (i + 1), d')
    else some (.name first, d)
  | .span first =>
    if c = ']' then some (.tail, { d with spans := true })
    else if c = '\x7b' then
      some (.field (i + 1), { d with spans := !(cut text first i).isEmpty })
    else some (.span first, d)
  | .field first =>
    if c = '\x7d' then (d.withField (cut text first i)).map (.fields, ·)
    else some (.field first, d)
  | .fields => if c = ']' then some (.tail, d) else none
  | .tail => if c = '=' then some (.level (i + 1), d) else none
  | .level first => some (.level first, d)

private def steps (text : List Char) (i : Nat) (d : Draft) (part : Part) :
    List Char → Option (Part × Draft)
  | [] => some (part, d)
  | c :: rest => do
    let (part, d) ← step text i c d part
    steps text (i + c.utf8Size) d part rest

/-- The end of the text. A name alone may be a level, and without a level all are meant. -/
private def finish (text : List Char) (d : Draft) : Part → Option Draft
  | .name first =>
    let name := dropBytes first text
    match limit? name with
    | some limit => some { d with limit }
    | none => some { d with target := some name }
  | .tail => some d
  | .level first =>
    let name := dropBytes first text
    if name.isEmpty then some d else (limit? name).map fun limit => { d with limit }
  | _ => none

/-- A rule: the name of a target, a span and a field of it in brackets, and a level behind an equals
sign, each of which may be missing. -/
def read? (text : List Char) : Option Rule := do
  let trimmed := ((text.dropWhile Text.isBlank).reverse.dropWhile Text.isBlank).reverse
  let (part, d) ← steps text 0 {} .start trimmed
  let d ← finish text d part
  return ⟨if d.spans then .spans else .records d.target d.field, d.limit⟩

end Rule

/-- The rules in force. -/
abbrev Filter := List Rule

namespace Filter

/-- Everything down to a level. -/
def upTo (l : Level) : Filter := [⟨.records none none, l.rank⟩]

/-- The rules of a text, if all of them can be read. A text without rules lets errors through. -/
def read? (text : String) : Option Filter :=
  match (text.toList.splitOn ',').filter (!·.isEmpty) with
  | [] => some (upTo .error)
  | rules => rules.mapM Rule.read?

/-- The rules that a variable holds; without it, or if it cannot be read, records down to `info`
are let through. -/
def ofVariable (text : Option String) : Filter := (text.bind read?).getD (upTo .info)

/-- How much of a record a rule names, if it is for the record. -/
structure Fit where
  /-- One more than the length of the name of the target, or zero. -/
  target : Nat
  field : Option (List Char)
  deriving DecidableEq, Repr

/-- Whether a rule is for a record, and how much of it the rule names. -/
def fit? (target : String) (fields : List String) : Scope → Option Fit
  | .spans => none
  | .records name field =>
    if name.all (·.isPrefixOf target.toList)
        && field.all fun f => fields.contains (String.ofList f) then
      some ⟨(name.map (·.length + 1)).getD 0, field⟩
    else none

/-- The first names less of the record than the second, or as much: the target counts first, then
whether there is a field, then the name of the field. -/
def Fit.atMost (a b : Fit) : Bool :=
  a.target < b.target || (a.target = b.target &&
    match a.field, b.field with
    | none, _ => true
    | some _, none => false
    | some f, some g => f = g || Text.listBefore f g)

/-- The limit for a record: the rule that names the most of it decides, and the last of several. -/
def limitFor (f : Filter) (target : String) (fields : List String) : Nat :=
  let best := f.foldl
    (fun (best : Option (Fit × Nat)) r =>
      match fit? target fields r.scope, best with
      | none, _ => best
      | some n, none => some (n, r.limit)
      | some n, some (m, _) => if m.atMost n then some (n, r.limit) else best)
    none
  (best.map (·.2)).getD 0

/-- Whether a record of a level and a target with such fields is written. -/
def letsThrough (f : Filter) (l : Level) (target : String) (fields : List String) : Bool :=
  l.rank ≤ f.limitFor target fields

end Filter

end TrustAnchor.Log
