-- SUMMARY: Text between quotes, with quotes, backslashes and characters that do not show spelled out.
import PingTun.Text.Hidden

/-! # Quoted text

How a message shows a text that may hold anything: between quotes, with a backslash in front of
quotes and backslashes, short spellings of the usual controls, and the code point of every other
character that does not show.
-/

namespace PingTun.Text

/-- The code point of a character as `\u` and hexadecimal digits between braces. -/
def codePoint (c : Char) : List Char :=
  ['\\', 'u', '\x7b'] ++ Nat.toDigits 16 c.toNat ++ ['\x7d']

/-- How one character stands between quotes. -/
def quotedChar (c : Char) : List Char :=
  if c = '"' ∨ c = '\\' then ['\\', c]
  else if c = '\x00' then ['\\', '0']
  else if c = '\t' then ['\\', 't']
  else if c = '\n' then ['\\', 'n']
  else if c = '\r' then ['\\', 'r']
  else if isHidden c then codePoint c
  else [c]

def quotedChars (cs : List Char) : List Char := '"' :: (cs.flatMap quotedChar ++ ['"'])

def quoted (s : String) : String := String.ofList (quotedChars s.toList)

end PingTun.Text
