-- SUMMARY: What is left of a text without the controls that a terminal would obey.

/-! # Text for terminals

A terminal does not show every character: an escape begins a sequence that it obeys, and most
control characters are orders by themselves. What is left without all these can be written to a
terminal as it is.

Layout that stands inside of a sequence suspends it. What follows is read as plain text up to the
next character that does not show, which is again one of the sequence.
-/

namespace PingTun.Text.Terminal

/-- What a terminal is in the middle of: plain text, or one of the kinds of sequences. Those to
devices have parameters in front of their string. -/
inductive Mode
  | plain
  | escape
  | escapeInfix
  | control
  | command
  | device
  | deviceParameter
  | deviceInfix
  | string
deriving DecidableEq, Repr

/-- Ends of lines, form feeds and tabulators, which show by what they do to the text. -/
def isLayout (c : Char) : Bool := c == '\t' || c == '\n' || c == '\x0c' || c == '\r'

/-- Whether one of a character's bytes ends the string of a sequence. -/
def endsString (c : Char) : Bool := (String.utf8EncodeChar c).contains 0x9C

namespace Mode

/-- Whether a character shows. Layout also shows inside of most sequences. -/
def shows : Mode → Char → Bool
  | .plain, c => isLayout c || (' ' ≤ c && c != '\x7f')
  | .escape, c | .escapeInfix, c | .control, c => isLayout c
  | _, _ => false

/-- What a terminal is in the middle of behind a character of a sequence. -/
def insideAfter : Mode → Char → Mode
  | .plain, _ => .plain
  | .escape, c =>
    if c < ' ' then .escape
    else if c ≤ '/' then .escapeInfix
    else if c = '[' then .control
    else if c = ']' then .command
    else if c = 'P' then .device
    else if c = 'X' ∨ c = '^' ∨ c = '_' then .string
    else if c ≤ '~' then .plain
    else .escape
  | .escapeInfix, c => if '0' ≤ c ∧ c ≤ '~' then .plain else .escapeInfix
  | .control, c => if '@' ≤ c ∧ c ≤ '~' then .plain else .control
  | .command, c => if c = '\x07' then .plain else .command
  | .device, c =>
    if c < ' ' then .device
    else if c ≤ '/' then .deviceInfix
    else if c ≤ '?' then .deviceParameter
    else if c ≤ '~' then .string
    else .device
  | .deviceParameter, c =>
    if c < ' ' then .deviceParameter
    else if c ≤ '/' then .deviceInfix
    else if c ≤ ';' then .deviceParameter
    else if c ≤ '~' then .string
    else .deviceParameter
  | .deviceInfix, c => if '0' ≤ c ∧ c ≤ '~' then .string else .deviceInfix
  | .string, c => if endsString c then .plain else .string

/-- What a terminal is in the middle of behind a character that does not show. An escape begins a
new sequence anywhere, and two controls end any. -/
def after (mode : Mode) (c : Char) : Mode :=
  if c = '\x1b' then .escape
  else if c = '\x18' ∨ c = '\x1a' then .plain
  else mode.insideAfter c

end Mode

/-- What a terminal is in the middle of behind a character that shows. Only characters beyond ASCII
end the sequence that is suspended. -/
def Mode.afterShown (mode : Mode) (c : Char) : Mode := if c.toNat < 128 then mode else .plain

/-- The characters that show, from somewhere inside a text on. A sequence may be suspended by what
shows there. -/
def stripFrom : Mode → (suspended : Bool) → List Char → List Char
  | _, _, [] => []
  | mode, suspended, c :: cs =>
    if (if suspended then Mode.plain else mode).shows c then
      c :: stripFrom (mode.afterShown c) true cs
    else stripFrom (mode.after c) false cs

/-- A text without what a terminal would obey instead of showing it. -/
def strip (s : String) : String := String.ofList (stripFrom .plain false s.toList)

end PingTun.Text.Terminal
