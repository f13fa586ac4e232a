/-! Styles of text on a terminal, and what is left of styled text where no terminal shows it. A
style is set by a control sequence: an escape character and what belongs to it. -/

namespace TrustAnchor.CommandLine

/-- How a part of a text is set off from the rest. -/
inductive Style where
  | heading
  /-- A word to be typed as it stands. -/
  | literal
  | fault
  /-- A word that is allowed. -/
  | valid
  /-- A word that the user gave. -/
  | invalid
  deriving DecidableEq, Repr

/-- The control sequences that set the style. -/
def Style.code : Style → String
  | .heading => "\x1b[1m\x1b[4m"
  | .literal => "\x1b[1m"
  | .fault => "\x1b[1m\x1b[31m"
  | .valid => "\x1b[32m"
  | .invalid => "\x1b[33m"

/-- A text in a style. What follows it has none. -/
def Style.mark (s : Style) (text : String) : String := s.code ++ text ++ "\x1b[0m"

namespace Markup

/-- What a character may belong to. -/
inductive Context where
  | text
  /-- Behind an escape character. -/
  | escape
  /-- Behind an escape character and more, with one character still to come. -/
  | escapeMore
  /-- Parameters, up to a letter or another sign of that range. -/
  | parameters
  /-- The head of a string for the device: nothing, digits, or signs between. -/
  | deviceStart
  | deviceDigits
  | deviceSigns
  /-- A string that nothing but a terminator ends. -/
  | body
  /-- A string that a bell ends too. -/
  | command
  deriving DecidableEq, Repr

private def within (c : Char) (low high : Nat) : Bool := low ≤ c.toNat && c.toNat ≤ high

/-- The bytes of some characters hold the string terminator. -/
private def endsBody (c : Char) : Bool :=
  128 ≤ c.toNat && (String.utf8EncodeChar c).contains 0x9c

namespace Context

/-- Where a character leads. An escape character begins anew everywhere, and two of the control
characters cancel. -/
def after (s : Context) (c : Char) : Context :=
  if c.toNat = 0x1b then .escape
  else if c.toNat = 0x18 || c.toNat = 0x1a then .text
  else
    match s with
    | .text => .text
    | .escape =>
      if within c 0x20 0x2f then .escapeMore
      else if c = '[' then .parameters
      else if c = ']' then .command
      else if c = 'P' then .deviceStart
      else if c = 'X' || c = '^' || c = '_' then .body
      else if within c 0x30 0x7e then .text
      else .escape
    | .escapeMore => if within c 0x30 0x7e then .text else .escapeMore
    | .parameters => if within c 0x40 0x7e then .text else .parameters
    | .deviceStart =>
      if within c 0x20 0x2f then .deviceSigns
      else if within c 0x30 0x3f then .deviceDigits
      else if within c 0x40 0x7e then .body
      else .deviceStart
    | .deviceDigits =>
      if within c 0x20 0x2f then .deviceSigns
      else if within c 0x3c 0x7e then .body
      else .deviceDigits
    | .deviceSigns => if within c 0x30 0x7e then .body else .deviceSigns
    | .body => if endsBody c then .text else .body
    | .command => if c.toNat = 0x07 then .text else .command

/-- White space shows inside of a sequence too, unless it is a string. -/
def showsBlank : Context → Bool
  | .text | .escape | .escapeMore | .parameters => true
  | _ => false

end Context

private def isBlankSign (c : Char) : Bool :=
  c = ' ' || c = '\t' || c = '\n' || c.toNat = 0x0c || c = '\r'

/-- In plain text a control character does not show. -/
private def isShown (c : Char) : Bool := isBlankSign c || (32 ≤ c.toNat && c.toNat ≠ 127)

/-- The characters that show. Once one has shown, those that follow it show up to the next control
character, even if the sequence before it is not complete. -/
def visible (s : Context) (showing : Bool) : List Char → List Char
  | [] => []
  | c :: rest =>
    if showing && isShown c then
      c :: visible (if c.toNat < 128 then s else .text) true rest
    else
      let shows := match s with
        | .text => isShown c
        | s => s.showsBlank && isBlankSign c && c ≠ ' '
      if shows then c :: visible s true rest
      else visible (s.after c) false rest

/-- Styled text without its styles. -/
def plain (text : String) : String := String.ofList (visible .text false text.toList)

end Markup

end TrustAnchor.CommandLine
