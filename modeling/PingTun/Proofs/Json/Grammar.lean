-- SUMMARY: The grammar of JSON: a tree for every text there is, and the bytes it is written as.
import PingTun.Json.Scan
import PingTun.Proofs.Text.Encoding
import PingTun.Text.Numeral

/-! # Grammar

A tree says all there is to a text: not only which values it holds, but also where there are
blanks, how each character of a string is spelled, and how each number is. So every text is written
from a tree, by which can be told what is to be read of it. Trees are written in front of other
bytes.
-/

namespace PingTun.Json

/-! ## Blanks -/

inductive Blank
  | space
  | tabulator
  | lineFeed
  | carriageReturn

def Blank.byte : Blank → UInt8
  | .space => 0x20
  | .tabulator => 0x09
  | .lineFeed => 0x0A
  | .carriageReturn => 0x0D

def writeGap (gap : List Blank) (rest : List UInt8) : List UInt8 := gap.map Blank.byte ++ rest

/-! ## Numbers -/

/-- One digit or more. -/
structure Digits where
  first : Fin 10
  others : List (Fin 10)

def digitByte (d : Fin 10) : UInt8 := UInt8.ofNat (0x30 + d.val)

def Digits.write (ds : Digits) (rest : List UInt8) : List UInt8 :=
  digitByte ds.first :: (ds.others.map digitByte ++ rest)

inductive Sign
  | plus
  | minus

def Sign.byte : Sign → UInt8
  | .plus => Byte.plus
  | .minus => Byte.minus

/-- An exponent, whose mark is a letter of either case. -/
structure Exponent where
  isUpper : Bool
  sign : Option Sign
  digits : Digits

def Exponent.write (e : Exponent) (rest : List UInt8) : List UInt8 :=
  (if e.isUpper then 0x45 else 0x65) ::
    match e.sign with
    | none => e.digits.write rest
    | some sign => sign.byte :: e.digits.write rest

/-- A number. In front of its point it is written without any further zeros. -/
structure Literal where
  isNegative : Bool
  whole : Nat
  fraction : Option Digits
  exponent : Option Exponent

namespace Literal

def writeExponent (n : Literal) (rest : List UInt8) : List UInt8 :=
  match n.exponent with
  | none => rest
  | some e => e.write rest

/-- What stands behind the whole part of a number. -/
def writeEnd (n : Literal) (rest : List UInt8) : List UInt8 :=
  match n.fraction with
  | none => n.writeExponent rest
  | some digits => Byte.point :: digits.write (n.writeExponent rest)

def writeMagnitude (n : Literal) (rest : List UInt8) : List UInt8 :=
  Text.bytes (Numeral.chars n.whole) ++ n.writeEnd rest

def write (n : Literal) (rest : List UInt8) : List UInt8 :=
  if n.isNegative then Byte.minus :: n.writeMagnitude rest else n.writeMagnitude rest

end Literal

/-! ## Strings -/

/-- A character that may stand for itself in a string. -/
def Unescaped (c : Char) : Prop := 0x20 ≤ c.toNat ∧ c ≠ '"' ∧ c ≠ '\\'

/-- A character that a single letter stands for, behind a backslash. -/
inductive Escape
  | quote
  | backslash
  | slash
  | backspace
  | formFeed
  | lineFeed
  | carriageReturn
  | tabulator

namespace Escape

def letter : Escape → UInt8
  | .quote => Byte.quote
  | .backslash => Byte.backslash
  | .slash => Byte.slash
  | .backspace => Byte.letterB
  | .formFeed => Byte.letterF
  | .lineFeed => Byte.letterN
  | .carriageReturn => Byte.letterR
  | .tabulator => Byte.letterT

def char : Escape → Char
  | .quote => '"'
  | .backslash => '\\'
  | .slash => '/'
  | .backspace => '\x08'
  | .formFeed => '\x0c'
  | .lineFeed => '\n'
  | .carriageReturn => '\r'
  | .tabulator => '\t'

end Escape

/-- A hexadecimal digit, a letter of either case if it is one. -/
structure HexDigit where
  value : Fin 16
  isUpper : Bool

def HexDigit.byte (d : HexDigit) : UInt8 :=
  UInt8.ofNat <|
    if d.value.val < 10 then 0x30 + d.value.val
    else if d.isUpper then 0x41 + (d.value.val - 10)
    else 0x61 + (d.value.val - 10)

/-- Sixteen bits, by four hexadecimal digits. -/
structure CodeUnit where
  first : HexDigit
  second : HexDigit
  third : HexDigit
  fourth : HexDigit

namespace CodeUnit

def value (u : CodeUnit) : Nat :=
  ((u.first.value.val * 16 + u.second.value.val) * 16 + u.third.value.val) * 16 +
    u.fourth.value.val

def write (u : CodeUnit) (rest : List UInt8) : List UInt8 :=
  u.first.byte :: u.second.byte :: u.third.byte :: u.fourth.byte :: rest

end CodeUnit

/-- A piece of a string. -/
inductive Piece
  | plain (c : Char) (h : Unescaped c)
  | escape (e : Escape)
  | unit (u : CodeUnit)

def Piece.write (p : Piece) (rest : List UInt8) : List UInt8 :=
  match p with
  | .plain c _ => String.utf8EncodeChar c ++ rest
  | .escape e => Byte.backslash :: e.letter :: rest
  | .unit u => Byte.backslash :: Byte.letterU :: u.write rest

/-- What is written between the quotes of a string. -/
def writePieces : List Piece → List UInt8 → List UInt8
  | [], rest => rest
  | p :: pieces, rest => p.write (writePieces pieces rest)

/-- What is written behind the opening quote of a string. -/
def writeText (pieces : List Piece) (rest : List UInt8) : List UInt8 :=
  writePieces pieces (Byte.quote :: rest)

/-- The character that a pair of surrogates stands for. -/
def ofSurrogates (leading trailing : Nat) : Char :=
  Char.ofNat (0x10000 + (leading - 0xD800) * 0x400 + (trailing - 0xDC00))

/-- The text that pieces spell, behind the leading half of a pair of surrogates, if there is one. -/
def spelledBehind? : Option Nat → List Piece → Option (List Char)
  | none, [] => some []
  | none, .plain c _ :: pieces => (spelledBehind? none pieces).map (c :: ·)
  | none, .escape e :: pieces => (spelledBehind? none pieces).map (e.char :: ·)
  | none, .unit u :: pieces =>
    if isTrailingSurrogate u.value then none
    else if isLeadingSurrogate u.value then spelledBehind? (some u.value) pieces
    else (spelledBehind? none pieces).map (Char.ofNat u.value :: ·)
  | some leading, .unit u :: pieces =>
    if isTrailingSurrogate u.value then
      (spelledBehind? none pieces).map (ofSurrogates leading u.value :: ·)
    else none
  | some _, _ => none

/-- The text that a string spells, if no half of a pair of surrogates stands alone in it. -/
def spelled? (pieces : List Piece) : Option (List Char) := spelledBehind? none pieces

/-! ## Values -/

/-- An element of a list, with the blanks around it. -/
structure Item (V : Type) where
  before : List Blank
  value : V
  behind : List Blank

/-- A member of an object, with the blanks around its key and its value. -/
structure Member (V : Type) where
  before : List Blank
  key : List Piece
  beforeColon : List Blank
  behindColon : List Blank
  value : V
  behind : List Blank

/-- A value. The blanks behind an opening bracket or brace are those of a list or an object without
elements or members. -/
inductive Value
  | null
  | boolean (b : Bool)
  | number (n : Literal)
  | text (pieces : List Piece)
  | list (gap : List Blank) (items : List (Item Value))
  | object (gap : List Blank) (members : List (Member Value))

/-- Put a comma in front of all but the first. -/
def separate (isFirst : Bool) (bytes : List UInt8) : List UInt8 :=
  if isFirst then bytes else Byte.comma :: bytes

/-- Write the key of a member, up to the front of its value. -/
def writeKey (before : List Blank) (key : List Piece) (beforeColon behindColon : List Blank)
    (rest : List UInt8) : List UInt8 :=
  writeGap before
    (Byte.quote :: writeText key (writeGap beforeColon (Byte.colon :: writeGap behindColon rest)))

mutual

def Value.write : Value → List UInt8 → List UInt8
  | .null, rest => Byte.letterN :: (nullTail ++ rest)
  | .boolean true, rest => Byte.letterT :: (trueTail ++ rest)
  | .boolean false, rest => Byte.letterF :: (falseTail ++ rest)
  | .number n, rest => n.write rest
  | .text pieces, rest => Byte.quote :: writeText pieces rest
  | .list gap items, rest =>
    Byte.openBracket :: writeGap gap (writeItems true items (Byte.closeBracket :: rest))
  | .object gap members, rest =>
    Byte.openBrace :: writeGap gap (writeMembers true members (Byte.closeBrace :: rest))
termination_by structural v => v

def writeItems (isFirst : Bool) : List (Item Value) → List UInt8 → List UInt8
  | [], rest => rest
  | ⟨before, value, behind⟩ :: items, rest =>
    separate isFirst
      (writeGap before (value.write (writeGap behind (writeItems false items rest))))
termination_by structural items => items

def writeMembers (isFirst : Bool) : List (Member Value) → List UInt8 → List UInt8
  | [], rest => rest
  | ⟨before, key, beforeColon, behindColon, value, behind⟩ :: members, rest =>
    separate isFirst
      (writeKey before key beforeColon behindColon
        (value.write (writeGap behind (writeMembers false members rest))))
termination_by structural members => members

end

/-! ## Documents -/

/-- A value, with the blanks around it. -/
structure Document where
  before : List Blank
  value : Value
  behind : List Blank

def Document.bytes (d : Document) : List UInt8 :=
  writeGap d.before (d.value.write (writeGap d.behind []))

end PingTun.Json
