-- SUMMARY: What can be wrong with a document, where it shows, and the wording of both.
import PingTun.Decimal.Shortest
import PingTun.Network
import PingTun.Text.Quoted

/-! # Faults of documents

A document is read from its first byte on, looking at most one byte ahead. A fault tells what is
wrong and how many bytes had not been taken when it was found; with the whole document this gives
the position. Whether the end had been seen by then matters when the bytes end because reading
them failed.
-/

namespace PingTun.Json

/-! ## Numbers -/

/-- A number as it is written: an integer that fits into 64 bits, or a binary64 number. -/
inductive Number
  | natural (n : Nat)
  | negative (n : Nat)
  | float (isNegative : Bool) (magnitude : Decimal.Binary64)
deriving DecidableEq, Repr

/-- Floating point numbers are written out from `0.00001` up to sixteen digits in front of the
point, and with an explicit sign of the exponent otherwise. -/
def floatStyle : Decimal.Style :=
  { leastWrittenOut := -5, greatestWrittenOut := 15, mark := 'e', plus := ['+'], minus := ['-'] }

def floatText (isNegative : Bool) (magnitude : Decimal.Binary64) : String :=
  (if isNegative then "-" else "") ++
    String.ofList ((Decimal.Shortest.ofBinary64 magnitude).chars floatStyle)

/-! ## Flaws -/

/-- What stands where something else is wanted. -/
inductive Found
  | null
  | boolean (b : Bool)
  | number (n : Number)
  | text (s : List Char)
  | list
  | object
deriving DecidableEq, Repr

def Found.message : Found → String
  | .null => "null"
  | .boolean true => "boolean `true`"
  | .boolean false => "boolean `false`"
  | .number (.natural n) => "integer `" ++ Numeral.text n ++ "`"
  | .number (.negative n) => "integer `-" ++ Numeral.text n ++ "`"
  | .number (.float isNegative magnitude) =>
    "floating point `" ++ floatText isNegative magnitude ++ "`"
  | .text s => "string " ++ String.ofList (Text.quotedChars s)
  | .list => "sequence"
  | .object => "map"

/-- What is wrong with a document: it ends too early, it is no JSON, or it does not hold the data
it should. -/
inductive Flaw
  | endInValue
  | endInList
  | endInObject
  | endInString
  | expectedValue
  | expectedWord
  | expectedColon
  | expectedCommaOrBracket
  | expectedCommaOrBrace
  | trailingComma
  | trailingCharacters
  | keyNotText
  | invalidNumber
  | numberTooLarge
  | invalidEscape
  | loneSurrogate
  | endOfEscape
  | controlCharacter
  | invalidCodePoint
  | wrongType (found : Found) (wanted : String)
  | wrongValue (found : Found) (wanted : String)
  | duplicateField (name : String)
  | badNetwork (cause : NetworkError)
deriving DecidableEq, Repr

/-- The three ways of being wrong. -/
inductive Category
  | tooShort
  | grammar
  | data
deriving DecidableEq, Repr

namespace Flaw

def category : Flaw → Category
  | .endInValue | .endInList | .endInObject | .endInString => .tooShort
  | .wrongType .. | .wrongValue .. | .duplicateField .. | .badNetwork .. => .data
  | _ => .grammar

def message : Flaw → String
  | .endInValue => "EOF while parsing a value"
  | .endInList => "EOF while parsing a list"
  | .endInObject => "EOF while parsing an object"
  | .endInString => "EOF while parsing a string"
  | .expectedValue => "expected value"
  | .expectedWord => "expected ident"
  | .expectedColon => "expected `:`"
  | .expectedCommaOrBracket => "expected `,` or `]`"
  | .expectedCommaOrBrace => "expected `,` or `\x7d`"
  | .trailingComma => "trailing comma"
  | .trailingCharacters => "trailing characters"
  | .keyNotText => "key must be a string"
  | .invalidNumber => "invalid number"
  | .numberTooLarge => "number out of range"
  | .invalidEscape => "invalid escape"
  | .loneSurrogate => "lone leading surrogate in hex escape"
  | .endOfEscape => "unexpected end of hex escape"
  | .controlCharacter => "control character (\\u0000-\\u001F) found while parsing a string"
  | .invalidCodePoint => "invalid unicode code point"
  | .wrongType found wanted => "invalid type: " ++ found.message ++ ", expected " ++ wanted
  | .wrongValue found wanted => "invalid value: " ++ found.message ++ ", expected " ++ wanted
  | .duplicateField name => "duplicate field `" ++ name ++ "`"
  | .badNetwork cause => cause.message

end Flaw

/-! ## Faults -/

/-- A flaw, the number of bytes not taken when it was found, and whether the end had been seen. -/
structure Fault where
  flaw : Flaw
  unread : Nat
  sawEnd : Bool
deriving DecidableEq, Repr

namespace Fault

/-- A flaw found without a look at what is left. -/
def before (flaw : Flaw) (rest : List UInt8) : Fault := ⟨flaw, rest.length, false⟩

/-- A flaw found by a look at the first byte that is left, or at the end. -/
def looking (flaw : Flaw) (rest : List UInt8) : Fault := ⟨flaw, rest.tail.length, rest.isEmpty⟩

@[simp] theorem flaw_before (flaw : Flaw) (rest : List UInt8) :
    (before flaw rest).flaw = flaw := rfl

@[simp] theorem flaw_looking (flaw : Flaw) (rest : List UInt8) :
    (looking flaw rest).flaw = flaw := rfl

end Fault

/-! ## Positions -/

/-- A line, counted from one, and the number of bytes in it. -/
structure Position where
  line : Nat
  column : Nat
deriving DecidableEq, Repr

namespace Position

def newline : UInt8 := 0x0A

/-- Where reading stands after some bytes. -/
def after (bytes : List UInt8) : Position :=
  { line := bytes.count newline + 1
    column := (bytes.reverse.takeWhile (· != newline)).length }

def message (p : Position) : String :=
  "line " ++ Numeral.text p.line ++ " column " ++ Numeral.text p.column

/-- The number with which a text ends, and what stands in front of its digits. -/
def endNumber? (cs : List Char) : Option (List Char × Nat) :=
  let digits := (cs.reverse.takeWhile Char.isDigit).reverse
  match Numeral.readNat (UInt64.size - 1) digits with
  | .ok n => some ((cs.reverse.dropWhile Char.isDigit).reverse, n)
  | .error _ => none

/-- The position with which a text ends, and what stands in front of it. -/
def stated? (cs : List Char) : Option (List Char × Position) := do
  let (rest, column) ← endNumber? cs
  let rest ← " column ".toList.isSuffixOf? rest
  let (rest, line) ← endNumber? rest
  let rest ← " at line ".toList.isSuffixOf? rest
  return (rest, { line, column })

end Position

/-- The message of a flaw that was found at a position. When the words for the flaw end with a
position of their own, as a text quoted in them may, that one stands, unless its line is zero. -/
def Flaw.messageAt (flaw : Flaw) (found : Position) : String :=
  match Position.stated? flaw.message.toList with
  | none => flaw.message ++ " at " ++ found.message
  | some (words, stated) =>
    String.ofList words ++ " at " ++ (if stated.line = 0 then found else stated).message

/-- Where in a document a fault was found. -/
def Fault.position (f : Fault) (document : List UInt8) : Position :=
  Position.after (document.take (document.length - f.unread))

end PingTun.Json
