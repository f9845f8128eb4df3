-- SUMMARY: Text as UTF-8 bytes, and how bytes are decoded.

/-! # UTF-8

The bytes of a text, and the decoding of bytes. Decoding goes character by character and stops at
the first that is not spelled as it should be, with the bytes from there on.
-/

namespace PingTun.Text

/-- The bytes of a text. -/
def utf8 (s : String) : List UInt8 := s.toByteArray.data.toList

theorem utf8_injective {s t : String} (h : utf8 s = utf8 t) : s = t := by
  apply String.toByteArray_inj.1
  apply ByteArray.ext
  exact Array.toList_inj.1 h

/-! ## One character -/

/-- Take `count` continuation bytes, the first of which lies between `low` and `high`, and put
their bits behind those of `value`. -/
def continuation? (value low high : Nat) : Nat → List UInt8 → Option (Char × List UInt8)
  | 0, bytes => some (Char.ofNat value, bytes)
  | _ + 1, [] => none
  | count + 1, byte :: rest =>
    if low ≤ byte.toNat ∧ byte.toNat ≤ high then
      continuation? (value * 64 + byte.toNat % 64) 0x80 0xBF count rest
    else
      none

/-- What a character's first byte says: its bits of the code point, how many continuation bytes
follow, and between which bounds the first of them lies. -/
structure Lead where
  value : Nat
  count : Nat
  low : Nat := 0x80
  high : Nat := 0xBF

/-- The bounds exclude long spellings of small code points, surrogates, and code points that are
too large. -/
def lead? (b : Nat) : Option Lead :=
  if b < 0x80 then some { value := b, count := 0 }
  else if b < 0xC2 then none
  else if b < 0xE0 then some { value := b % 32, count := 1 }
  else if b = 0xE0 then some { value := b % 16, count := 2, low := 0xA0 }
  else if b = 0xED then some { value := b % 16, count := 2, high := 0x9F }
  else if b < 0xF0 then some { value := b % 16, count := 2 }
  else if b = 0xF0 then some { value := b % 8, count := 3, low := 0x90 }
  else if b < 0xF4 then some { value := b % 8, count := 3 }
  else if b = 0xF4 then some { value := b % 8, count := 3, high := 0x8F }
  else none

/-- The character in front of a byte list, and the bytes behind it. -/
def front? : List UInt8 → Option (Char × List UInt8)
  | [] => none
  | byte :: rest =>
    match lead? byte.toNat with
    | some lead => continuation? lead.value lead.low lead.high lead.count rest
    | none => none

private theorem length_of_continuation {value low high count : Nat} {bytes rest : List UInt8}
    {c : Char} (h : continuation? value low high count bytes = some (c, rest)) :
    rest.length ≤ bytes.length := by
  induction bytes generalizing value low high count with
  | nil => cases count <;> simp_all [continuation?]
  | cons byte bytes ih =>
    cases count with
    | zero =>
      simp only [continuation?, Option.some.injEq, Prod.mk.injEq] at h
      simp [← h.2]
    | succ count =>
      simp only [continuation?] at h
      split at h
      · exact Nat.le_succ_of_le (ih h)
      · exact absurd h (by simp)

/-- A decoded character takes at least one byte. -/
theorem length_lt_of_front? {bytes rest : List UInt8} {c : Char}
    (h : front? bytes = some (c, rest)) : rest.length < bytes.length := by
  cases bytes with
  | nil => simp [front?] at h
  | cons byte bytes =>
    simp only [front?] at h
    split at h
    · exact Nat.lt_succ_of_le (length_of_continuation h)
    · exact absurd h (by simp)

/-! ## All characters -/

/-- Decode what follows the characters already `taken`, the last of which comes first. -/
def decodeBehind (taken : List Char) (bytes : List UInt8) : Except (List UInt8) (List Char) :=
  match bytes with
  | [] => .ok taken.reverse
  | byte :: rest =>
    match h : front? (byte :: rest) with
    | some (c, rest') =>
      have := length_lt_of_front? h
      decodeBehind (c :: taken) rest'
    | none => .error (byte :: rest)
termination_by bytes.length
decreasing_by exact this

/-- The characters that bytes spell, or the bytes from the first on that spell none. -/
def decode (bytes : List UInt8) : Except (List UInt8) (List Char) := decodeBehind [] bytes

end PingTun.Text
