-- SUMMARY: Strings of the grammar are passed over as a whole, and scanned as the text they spell.
import PingTun.Proofs.Json.Grammar

/-! # Strings

Any string can be passed over. It can be scanned if it spells a text, and only then: what has been
scanned of it at any point are the bytes of that text.
-/

namespace PingTun.Json

/-! ## Bytes that stand for themselves -/

/-- A byte that neither ends a string nor begins an escape, and is no control character. -/
structure Byte.IsPlain (b : UInt8) : Prop where
  ne_quote : b ≠ quote
  ne_backslash : b ≠ backslash
  not_control : ¬ b < 0x20

theorem isPlain_of_unescaped {c : Char} (h : Unescaped c) :
    ∀ b ∈ String.utf8EncodeChar c, Byte.IsPlain b := by
  obtain ⟨hlow, hquote, hbackslash⟩ := h
  intro b hb
  rcases Nat.lt_or_ge c.toNat 128 with hsmall | hlarge
  · have hbytes : String.utf8EncodeChar c = [Text.byte c] := if_pos (Nat.le_of_lt_succ hsmall)
    rw [hbytes, List.mem_singleton] at hb
    subst hb
    refine ⟨fun h => hquote (Text.byte_inj hsmall (by decide) h),
      fun h => hbackslash (Text.byte_inj hsmall (by decide) h), ?_⟩
    rw [UInt8.lt_iff_toNat_lt, Text.toNat_byte hsmall]
    exact Nat.not_lt_of_le hlow
  · have hb := Text.le_of_mem_utf8EncodeChar hlarge b hb
    refine ⟨?_, ?_, ?_⟩
    · rintro rfl
      exact absurd hb (by decide)
    · rintro rfl
      exact absurd hb (by decide)
    · rw [UInt8.lt_iff_toNat_lt]
      exact Nat.not_lt_of_le (Nat.le_trans (by decide) hb)

section

variable {bs : List UInt8} (h : ∀ b ∈ bs, Byte.IsPlain b)
include h

theorem scanBytes_append (taken rest : List UInt8) :
    scanBytes taken (bs ++ rest) = scanBytes (bs.reverse ++ taken) rest := by
  induction bs generalizing taken with
  | nil => rfl
  | cons b bs ih =>
    obtain ⟨⟨hquote, hbackslash, hcontrol⟩, hbs⟩ := List.forall_mem_cons.mp h
    rw [List.cons_append, scanBytes, if_neg hquote, if_neg hbackslash, if_neg hcontrol, ih hbs,
      List.reverse_cons, List.append_assoc]
    rfl

theorem skipText_append (rest : List UInt8) : skipText (bs ++ rest) = skipText rest := by
  induction bs with
  | nil => rfl
  | cons b bs ih =>
    obtain ⟨⟨hquote, hbackslash, hcontrol⟩, hbs⟩ := List.forall_mem_cons.mp h
    rw [List.cons_append, skipText, if_neg hquote, if_neg hbackslash, if_neg hcontrol, ih hbs]

end

/-! ## Escapes -/

theorem escaped?_letter (e : Escape) : escaped? e.letter = some e.char := by
  cases e <;> rfl

theorem hexDigit?_byte (d : HexDigit) : Byte.hexDigit? d.byte = some d.value.val := by
  obtain ⟨value, isUpper⟩ := d
  revert value isUpper
  decide

theorem scanHex_write (u : CodeUnit) (rest : List UInt8) :
    scanHex (u.write rest) = .ok (u.value, rest) := by
  simp only [CodeUnit.write, scanHex, hexDigit?_byte]
  rfl

theorem scanBytes_quote (taken rest : List UInt8) :
    scanBytes taken (Byte.quote :: rest) = .ok (taken.reverse, rest) := by
  rw [scanBytes, if_pos rfl]

/-- An escape stands for the bytes of its character. -/
theorem scanBytes_escape (taken bytes : List UInt8) :
    scanBytes taken (Byte.backslash :: bytes) =
      (scanEscape bytes).bind fun (c, rest) =>
        scanBytes ((String.utf8EncodeChar c).reverse ++ taken) rest := by
  rw [scanBytes, if_neg (by decide), if_pos rfl]
  split
  · rename_i hescape
    dsimp only
    rw [hescape, List.reverseAux_eq]
    rfl
  · rename_i hescape
    rw [hescape]
    rfl

theorem skipText_quote (rest : List UInt8) : skipText (Byte.quote :: rest) = .ok rest := by
  rw [skipText, if_pos rfl]

theorem skipText_escape (bytes : List UInt8) :
    skipText (Byte.backslash :: bytes) = (skipEscape bytes).bind skipText := by
  rw [skipText, if_neg (by decide), if_pos rfl]
  split
  · rename_i hescape
    dsimp only
    rw [hescape]
    rfl
  · rename_i hescape
    rw [hescape]
    rfl

/-! ## Whole strings -/

/-- Any string of the grammar is passed over. -/
theorem skipText_writeText (pieces : List Piece) (rest : List UInt8) :
    skipText (writeText pieces rest) = .ok rest := by
  unfold writeText
  induction pieces with
  | nil => exact skipText_quote rest
  | cons p pieces ih =>
    cases p with
    | plain c h =>
      rw [writePieces, Piece.write, skipText_append (isPlain_of_unescaped h)]
      exact ih
    | escape e =>
      rw [writePieces, Piece.write, skipText_escape, skipEscape, escaped?_letter]
      exact ih
    | unit u =>
      have hletter : escaped? Byte.letterU = none := rfl
      rw [writePieces, Piece.write, skipText_escape, skipEscape, hletter, scanHex_write]
      exact ih

/-- Scan the character that a leading surrogate begins, and what is behind it. -/
def scanBehind (taken : List UInt8) (leading : Option Nat) (bytes : List UInt8) :
    Except Fault (List UInt8 × List UInt8) :=
  match leading with
  | none => scanBytes taken bytes
  | some n => (scanTrailing n bytes).bind fun (c, rest) =>
    scanBytes ((String.utf8EncodeChar c).reverse ++ taken) rest

theorem scanBehind_of_ne {byte : UInt8} (h : byte ≠ Byte.backslash) (taken : List UInt8)
    (leading : Nat) (rest : List UInt8) :
    (scanBehind taken (some leading) (byte :: rest)).toOption = none := by
  simp only [scanBehind, scanTrailing, if_neg h]
  rfl

theorem scanEscape_unit (u : CodeUnit) (rest : List UInt8) :
    scanEscape (Byte.letterU :: u.write rest) =
      if isTrailingSurrogate u.value then .error (.before .loneSurrogate rest)
      else if isLeadingSurrogate u.value then scanTrailing u.value rest
      else .ok (Char.ofNat u.value, rest) := by
  have hletter : escaped? Byte.letterU = none := rfl
  simp only [scanEscape, hletter, if_pos, scanHex_write]
  rfl

theorem scanTrailing_unit (leading : Nat) (u : CodeUnit) (rest : List UInt8) :
    scanTrailing leading (Byte.backslash :: Byte.letterU :: u.write rest) =
      if isTrailingSurrogate u.value then .ok (ofSurrogates leading u.value, rest)
      else .error (.before .loneSurrogate rest) := by
  simp only [scanTrailing, if_pos, scanHex_write]
  rfl

/-- Behind a character that was scanned, the text goes on. -/
theorem toOption_scanBytes_char {pieces : List Piece} {rest : List UInt8}
    (h : ∀ taken, (scanBytes taken (writeText pieces rest)).toOption =
      (spelledBehind? none pieces).map fun cs => (taken.reverse ++ Text.bytes cs, rest))
    (taken : List UInt8) (c : Char) :
    (scanBytes ((String.utf8EncodeChar c).reverse ++ taken) (writeText pieces rest)).toOption =
      ((spelledBehind? none pieces).map (c :: ·)).map fun cs =>
        (taken.reverse ++ Text.bytes cs, rest) := by
  rw [h, Option.map_map]
  congr 1
  funext cs
  simp [Text.bytes]

/-- A string is scanned as far as it spells a text. -/
theorem toOption_scanBehind (rest : List UInt8) (pieces : List Piece) (taken : List UInt8)
    (leading : Option Nat) :
    (scanBehind taken leading (writeText pieces rest)).toOption =
      (spelledBehind? leading pieces).map fun cs => (taken.reverse ++ Text.bytes cs, rest) := by
  induction pieces generalizing taken leading with
  | nil =>
    cases leading with
    | none =>
      rw [scanBehind, writeText, writePieces, scanBytes_quote]
      simp [spelledBehind?, Except.toOption]
    | some n => exact scanBehind_of_ne (by decide) taken n rest
  | cons p pieces ih =>
    have hchar := toOption_scanBytes_char fun taken => ih taken none
    cases leading with
    | none =>
      rw [scanBehind, writeText, writePieces]
      cases p with
      | plain c h =>
        rw [Piece.write, scanBytes_append (isPlain_of_unescaped h)]
        exact hchar taken c
      | escape e =>
        rw [Piece.write, scanBytes_escape, scanEscape, escaped?_letter]
        exact hchar taken e.char
      | unit u =>
        rw [Piece.write, scanBytes_escape, scanEscape_unit, spelledBehind?]
        split
        · rfl
        · split
          · exact ih taken (some u.value)
          · exact hchar taken (Char.ofNat u.value)
    | some n =>
      cases p with
      | plain c h =>
        have hplain := isPlain_of_unescaped h
        rw [writeText, writePieces, Piece.write]
        cases hbytes : String.utf8EncodeChar c with
        | nil => exact absurd hbytes (Text.utf8EncodeChar_ne_nil c)
        | cons b bs =>
          rw [hbytes] at hplain
          exact scanBehind_of_ne (List.forall_mem_cons.mp hplain).1.ne_backslash taken n _
      | escape e =>
        rw [writeText, writePieces, Piece.write]
        cases e <;> rfl
      | unit u =>
        rw [scanBehind, writeText, writePieces, Piece.write, scanTrailing_unit, spelledBehind?]
        split
        · exact hchar taken (ofSurrogates n u.value)
        · rfl

theorem toOption_scanText (bytes : List UInt8) :
    (scanText bytes).toOption = (scanBytes [] bytes).toOption.bind fun (text, rest) =>
      (Text.decode text).toOption.map (·, rest) := by
  rw [scanText]
  cases scanBytes [] bytes with
  | error f => rfl
  | ok result =>
    dsimp only
    cases hdecode : Text.decode result.1 with
    | error broken => simp only [Except.toOption, Option.bind_some, hdecode, Option.map_none]
    | ok cs => simp only [Except.toOption, Option.bind_some, hdecode, Option.map_some]

/-- The text of a string is scanned if there is one. -/
theorem toOption_scanText_writeText (pieces : List Piece) (rest : List UInt8) :
    (scanText (writeText pieces rest)).toOption = (spelled? pieces).map (·, rest) := by
  have hbytes := toOption_scanBehind rest pieces [] none
  rw [scanBehind] at hbytes
  rw [toOption_scanText, hbytes, spelled?]
  cases spelledBehind? none pieces with
  | none => rfl
  | some cs =>
    simp only [Option.map_some, Option.bind_some, List.reverse_nil, List.nil_append,
      Text.decode_bytes]
    rfl

end PingTun.Json
