-- SUMMARY: Numbers of the grammar are passed over as a whole, and read if they are natural ones.
import PingTun.Proofs.Json.Grammar
import PingTun.Proofs.Json.Written

/-! # Numbers

Any number can be passed over. It is read as a natural number if it has neither sign nor fraction
nor exponent, and fits; whatever else is scanned of it, it is not taken for another one.
-/

namespace PingTun.Json

variable {n : Literal} {bs rest : List UInt8}

/-! ## Digits -/

theorem isDigit_digitByte (d : Fin 10) : Byte.isDigit (digitByte d) = true := by
  revert d
  decide

theorem isDigit_of_mem_digits {ds : List (Fin 10)} :
    ∀ b ∈ ds.map digitByte, Byte.isDigit b = true := by
  intro b hb
  obtain ⟨d, -, rfl⟩ := List.mem_map.mp hb
  exact isDigit_digitByte d

theorem isDigit_of_mem_bytes {cs : List Char} (h : ∀ c ∈ cs, c.isDigit = true) :
    ∀ b ∈ Text.bytes cs, Byte.isDigit b = true := by
  induction cs with
  | nil => exact List.forall_mem_nil _
  | cons c cs ih =>
    obtain ⟨hdigit, hrest⟩ := List.forall_mem_cons.mp h
    obtain ⟨-, hhigh⟩ := toNat_digit hdigit
    rw [Text.bytes_cons (by omega)]
    exact List.forall_mem_cons.mpr ⟨isDigit_byte hdigit, ih hrest⟩

/-- All digits are passed over, up to what is none. -/
theorem skipDigits_append (h : ∀ b ∈ bs, Byte.isDigit b = true)
    (hrest : startsWithDigit rest = false) : skipDigits (bs ++ rest) = rest := by
  rw [skipDigits, List.dropWhile_append_of_pos h]
  exact skipDigits_of_not_startsWithDigit hrest

theorem skipDigits_write (ds : Digits) (hrest : startsWithDigit rest = false) :
    skipDigits (ds.write rest) = rest :=
  skipDigits_append (List.forall_mem_cons.mpr ⟨isDigit_digitByte ds.first, isDigit_of_mem_digits⟩)
    hrest

theorem startsWithDigit_writeExponent (n : Literal) (hends : Ends rest) :
    startsWithDigit (n.writeExponent rest) = false := by
  unfold Literal.writeExponent
  cases n.exponent with
  | none => exact hends.startsWithDigit
  | some e =>
    obtain ⟨isUpper, sign, digits⟩ := e
    cases isUpper <;> rfl

theorem startsWithDigit_writeEnd (n : Literal) (hends : Ends rest) :
    startsWithDigit (n.writeEnd rest) = false := by
  unfold Literal.writeEnd
  cases n.fraction with
  | none => exact startsWithDigit_writeExponent n hends
  | some digits => rfl

/-! ## Extents -/

theorem skipExponentDigits_write (ds : Digits) (hends : Ends rest) :
    skipExponentDigits (ds.write rest) = .ok rest := by
  rw [Digits.write, skipExponentDigits, if_pos (isDigit_digitByte _),
    skipDigits_append isDigit_of_mem_digits hends.startsWithDigit]

theorem skipExponent_write (ds : Digits) (hends : Ends rest) :
    skipExponent (ds.write rest) = .ok rest := by
  have hsign : ¬ (digitByte ds.first = Byte.plus ∨ digitByte ds.first = Byte.minus) := by
    have hdigit := isDigit_digitByte ds.first
    rintro (h | h)
    · rw [h] at hdigit
      cases hdigit
    · rw [h] at hdigit
      cases hdigit
  rw [← skipExponentDigits_write ds hends]
  exact if_neg hsign

theorem skipFloatEnd_writeExponent (n : Literal) (hends : Ends rest) :
    skipFloatEnd (n.writeExponent rest) = .ok rest := by
  unfold Literal.writeExponent
  cases n.exponent with
  | none =>
    cases rest with
    | nil => rfl
    | cons byte rest =>
      dsimp only
      rw [skipFloatEnd, hends.2.2]
      rfl
  | some e =>
    obtain ⟨isUpper, sign, digits⟩ := e
    have hmark : Byte.isExponentMark (if isUpper = true then 0x45 else 0x65) = true := by
      cases isUpper <;> rfl
    dsimp only
    rw [Exponent.write, skipFloatEnd, if_pos hmark]
    cases sign with
    | none => exact skipExponent_write digits hends
    | some sign =>
      have hsign : sign.byte = Byte.plus ∨ sign.byte = Byte.minus := by
        cases sign <;> simp [Sign.byte]
      rw [skipExponent, if_pos hsign]
      exact skipExponentDigits_write digits hends

theorem skipNumberEnd_of_ne_point (h : bs.head? ≠ some Byte.point) :
    skipNumberEnd bs = skipFloatEnd bs := by
  cases bs with
  | nil => rfl
  | cons byte bs => exact if_neg fun hpoint => h (congrArg some hpoint)

theorem head?_writeExponent_ne_point (n : Literal) (hends : Ends rest) :
    (n.writeExponent rest).head? ≠ some Byte.point := by
  unfold Literal.writeExponent
  cases n.exponent with
  | none =>
    cases rest with
    | nil => exact Option.some_ne_none _ ∘ Eq.symm
    | cons byte rest => exact fun h => hends.2.1 (Option.some.inj h)
  | some e =>
    have hmark : (if e.isUpper = true then 0x45 else 0x65) ≠ Byte.point := by
      cases e.isUpper <;> decide
    exact fun h => hmark (Option.some.inj h)

theorem skipNumberEnd_writeEnd (n : Literal) (hends : Ends rest) :
    skipNumberEnd (n.writeEnd rest) = .ok rest := by
  unfold Literal.writeEnd
  cases n.fraction with
  | none =>
    dsimp only
    rw [skipNumberEnd_of_ne_point (head?_writeExponent_ne_point n hends)]
    exact skipFloatEnd_writeExponent n hends
  | some digits =>
    have hdigit : startsWithDigit (digits.write (n.writeExponent rest)) = true :=
      isDigit_digitByte digits.first
    dsimp only
    rw [skipNumberEnd, if_pos rfl, if_pos hdigit,
      skipDigits_write digits (startsWithDigit_writeExponent n hends)]
    exact skipFloatEnd_writeExponent n hends

/-- Any number of the grammar is passed over. -/
theorem skipNumber_writeMagnitude (n : Literal) (hends : Ends rest) :
    skipNumber (n.writeMagnitude rest) = .ok rest := by
  have hbehind := startsWithDigit_writeEnd n hends
  rw [Literal.writeMagnitude]
  rcases Nat.eq_zero_or_pos n.whole with hzero | hpos
  · have hbytes : Text.bytes (Numeral.chars 0) ++ n.writeEnd rest =
      Byte.zero :: n.writeEnd rest := rfl
    rw [hzero, hbytes, skipNumber, if_pos rfl, hbehind]
    exact skipNumberEnd_writeEnd n hends
  · obtain ⟨c, cs, hbytes, hdigit, hzero, hrest, -⟩ := bytes_chars_of_pos hpos
    rw [hbytes, List.cons_append, skipNumber, if_neg hzero, if_pos (isDigit_byte hdigit),
      skipDigits_append (isDigit_of_mem_bytes hrest) hbehind]
    exact skipNumberEnd_writeEnd n hends

/-! ## Numbers that are no natural ones -/

/-- The natural number that was scanned, if it is one, and what is behind it. -/
def scannedNatural? : Except Fault (Number × List UInt8) → Option (Nat × List UInt8)
  | .ok (.natural n, rest) => some (n, rest)
  | _ => none

section

variable {isNegative isUpward : Bool} {significand dropped : Nat} {exponent : Int}
  {bytes : List UInt8}

theorem scannedNatural?_floatOf :
    scannedNatural? (floatOf isNegative significand exponent bytes) = none := by
  unfold floatOf
  split
  · rfl
  · rfl

theorem scannedNatural?_scanUnsignedExponent :
    scannedNatural? (scanUnsignedExponent isNegative significand exponent isUpward bytes) = none := by
  unfold scanUnsignedExponent
  split
  · rfl
  split
  · unfold scanExponentDigits
    dsimp only
    split
    · split
      · rfl
      · rfl
    · exact scannedNatural?_floatOf
  · rfl

theorem scannedNatural?_scanExponent :
    scannedNatural? (scanExponent isNegative significand exponent bytes) = none := by
  unfold scanExponent
  split
  · rfl
  split
  · exact scannedNatural?_scanUnsignedExponent
  split
  · exact scannedNatural?_scanUnsignedExponent
  · exact scannedNatural?_scanUnsignedExponent

theorem scannedNatural?_scanFloatEnd :
    scannedNatural? (scanFloatEnd isNegative significand exponent bytes) = none := by
  unfold scanFloatEnd
  split
  · exact scannedNatural?_floatOf
  split
  · exact scannedNatural?_scanExponent
  · exact scannedNatural?_floatOf

theorem scannedNatural?_scanFraction :
    scannedNatural? (scanFraction isNegative significand exponent bytes) = none := by
  unfold scanFraction
  dsimp only
  split
  · exact scannedNatural?_scanFloatEnd
  split
  · split <;> rfl
  · exact scannedNatural?_scanFloatEnd

/-- No integer of which digits were dropped is a natural number, and none behind a sign. -/
theorem scannedNatural?_integerOf (h : isNegative = true ∨ 0 < dropped) :
    scannedNatural? (integerOf isNegative significand dropped bytes) = none := by
  unfold integerOf
  split
  · exact scannedNatural?_floatOf
  split
  · rename_i hdropped hsign
    rcases h with h | h
    · exact absurd (h.symm.trans hsign) (by decide)
    · exact absurd h hdropped
  split
  · rfl
  · exact scannedNatural?_floatOf

theorem scannedNatural?_scanNumberEnd (h : isNegative = true ∨ 0 < dropped) :
    scannedNatural? (scanNumberEnd isNegative significand dropped bytes) = none := by
  unfold scanNumberEnd
  split
  · exact scannedNatural?_integerOf h
  split
  · exact scannedNatural?_scanFraction
  split
  · exact scannedNatural?_scanExponent
  · exact scannedNatural?_integerOf h

theorem scannedNatural?_scanNumber : scannedNatural? (scanNumber true bytes) = none := by
  unfold scanNumber
  split
  · rfl
  split
  · split
    · rfl
    · exact scannedNatural?_scanNumberEnd (.inl rfl)
  dsimp only
  split
  · exact scannedNatural?_scanNumberEnd (.inl rfl)
  · rfl

end

/-! ## Natural numbers -/

/-- The natural number that a literal is: one without sign, fraction and exponent. -/
def Literal.natural? (n : Literal) : Option Nat :=
  if n.isNegative ∨ n.fraction.isSome ∨ n.exponent.isSome then none else some n.whole

/-- Digits that exceed the bound are left. -/
theorem takeDigits_of_lt {bound m : Nat} {cs : List Char} (hdigits : ∀ c ∈ cs, c.isDigit = true)
    (hm : m ≤ bound) (hlt : bound < Nat.ofDigitChars 10 cs m) (rest : List UInt8) :
    ∃ taken c left, (∀ d ∈ c :: left, d.isDigit = true) ∧
      takeDigits bound m (Text.bytes cs ++ rest) = (taken, Text.bytes (c :: left) ++ rest) := by
  induction cs generalizing m with
  | nil => exact absurd hlt (Nat.not_lt_of_le hm)
  | cons c cs ih =>
    obtain ⟨hdigit, hrest⟩ := List.forall_mem_cons.mp hdigits
    obtain ⟨-, hhigh⟩ := toNat_digit hdigit
    rw [Nat.ofDigitChars_cons, Nat.mul_comm] at hlt
    by_cases hfits : m * 10 + (c.toNat - '0'.toNat) ≤ bound
    · rw [Text.bytes_cons (by omega), List.cons_append, takeDigits, digitValue_byte hdigit,
        if_pos ⟨isDigit_byte hdigit, hfits⟩]
      exact ih hrest hfits hlt
    · refine ⟨m, c, cs, hdigits, ?_⟩
      rw [Text.bytes_cons (by omega), List.cons_append, takeDigits, digitValue_byte hdigit]
      exact if_neg fun h => hfits h.2

/-- A numeral beyond what is kept is scanned with some of its digits dropped. -/
theorem scanNumber_of_lt {m : Nat} (hm : greatestSignificand < m)
    (hrest : startsWithDigit rest = false) :
    ∃ significand dropped, 0 < dropped ∧
      scanNumber false (Text.bytes (Numeral.chars m) ++ rest) =
        scanNumberEnd false significand dropped rest := by
  obtain ⟨c, cs, hbytes, hdigit, hzero, hdigits, hvalue⟩ :=
    bytes_chars_of_pos (Nat.zero_lt_of_lt hm)
  obtain ⟨hlow, hhigh⟩ := toNat_digit hdigit
  have hfirst : c.toNat - '0'.toNat ≤ greatestSignificand :=
    Nat.le_trans (Nat.sub_le ..) (Nat.le_trans hhigh (by decide))
  obtain ⟨taken, d, left, hleft, htaken⟩ :=
    takeDigits_of_lt hdigits hfirst (by rwa [hvalue]) rest
  refine ⟨taken, (Text.bytes (d :: left)).length, ?_, ?_⟩
  · obtain ⟨hd, -⟩ := List.forall_mem_cons.mp hleft
    obtain ⟨-, hd⟩ := toNat_digit hd
    rw [Text.bytes_cons (by omega)]
    exact Nat.succ_pos _
  · rw [hbytes, List.cons_append, scanNumber, if_neg hzero, if_pos (isDigit_byte hdigit),
      digitValue_byte hdigit, htaken]
    dsimp only
    rw [skipDigits_append (isDigit_of_mem_bytes hleft) hrest, List.length_append,
      Nat.add_sub_cancel]

/-- A fraction or an exponent makes a number no natural one. -/
theorem scannedNatural?_scanNumberEnd_writeEnd (h : n.fraction.isSome ∨ n.exponent.isSome)
    (isNegative : Bool) (significand dropped : Nat) (rest : List UInt8) :
    scannedNatural? (scanNumberEnd isNegative significand dropped (n.writeEnd rest)) = none := by
  obtain ⟨_, _, fraction, exponent⟩ := n
  cases fraction with
  | some digits =>
    rw [Literal.writeEnd, scanNumberEnd, if_pos rfl]
    exact scannedNatural?_scanFraction
  | none =>
    cases exponent with
    | some e =>
      obtain ⟨isUpper, sign, digits⟩ := e
      cases isUpper <;> exact scannedNatural?_scanExponent
    | none => exact absurd h (by simp)

theorem writeMagnitude_eq_cons (n : Literal) (rest : List UInt8) :
    ∃ byte tail, n.writeMagnitude rest = byte :: tail ∧ Byte.isDigit byte = true := by
  have hdigits : ∀ c ∈ Numeral.chars n.whole, c.isDigit = true :=
    fun c => Numeral.isDigit_of_mem_chars
  rw [Literal.writeMagnitude]
  cases hchars : Numeral.chars n.whole with
  | nil => exact absurd hchars (Numeral.chars_ne_nil n.whole)
  | cons c cs =>
    rw [hchars] at hdigits
    obtain ⟨hdigit, -⟩ := List.forall_mem_cons.mp hdigits
    obtain ⟨-, hhigh⟩ := toNat_digit hdigit
    rw [Text.bytes_cons (by omega), List.cons_append]
    exact ⟨Text.byte c, _, rfl, isDigit_byte hdigit⟩

/-- A number without sign is scanned as a natural one if it is one, and not beyond what is kept. -/
theorem scannedNatural?_scanNumber_write (hsign : n.isNegative = false) (hends : Ends rest) :
    scannedNatural? (scanNumber false (n.writeMagnitude rest)) =
      (n.natural?.filter (· ≤ greatestSignificand)).map (·, rest) := by
  have hbehind := startsWithDigit_writeEnd n hends
  by_cases hend : n.fraction.isSome ∨ n.exponent.isSome
  · have hnatural : n.natural? = none := if_pos (.inr hend)
    rw [hnatural, Literal.writeMagnitude]
    rcases Nat.lt_or_ge greatestSignificand n.whole with hlarge | hsmall
    · obtain ⟨significand, dropped, -, hscan⟩ := scanNumber_of_lt hlarge hbehind
      rw [hscan]
      exact scannedNatural?_scanNumberEnd_writeEnd hend ..
    · rw [scanNumber_numeral hsmall hbehind]
      exact scannedNatural?_scanNumberEnd_writeEnd hend ..
  · have hnatural : n.natural? = some n.whole := if_neg (by simp_all)
    have hnone : n.writeEnd rest = rest := by
      simp only [not_or, Bool.not_eq_true, Option.isSome_eq_false_iff, Option.isNone_iff_eq_none]
        at hend
      rw [Literal.writeEnd, hend.1]
      dsimp only
      rw [Literal.writeExponent, hend.2]
    rw [hnatural, Literal.writeMagnitude, hnone]
    rcases Nat.lt_or_ge greatestSignificand n.whole with hlarge | hsmall
    · obtain ⟨significand, dropped, hdropped, hscan⟩ :=
        scanNumber_of_lt hlarge hends.startsWithDigit
      rw [hscan, scannedNatural?_scanNumberEnd (.inr hdropped),
        Option.filter_some_neg (by simpa using hlarge)]
      rfl
    · rw [scanNumber_chars hsmall hends, Option.filter_some_pos (by simpa using hsmall)]
      rfl

theorem Byte.isBlank_of_numeric {byte : UInt8} (h : byte = minus ∨ isDigit byte) :
    isBlank byte = false := by
  rcases h with rfl | hdigit
  · rfl
  · exact isBlank_of_isDigit hdigit

theorem Byte.ne_of_numeric {b byte : UInt8} (h : byte = minus ∨ isDigit byte)
    (hb : ¬ (b = minus ∨ isDigit b)) : byte ≠ b := by
  rintro rfl
  exact hb h

theorem toOption_readNat {byte : UInt8} (h : byte = Byte.minus ∨ Byte.isDigit byte) (bound : Nat)
    (wanted : String) (tail : List UInt8) :
    (readNat bound wanted (byte :: tail)).toOption =
      (scannedNatural? (scanSigned byte tail)).filter (·.1 ≤ bound) := by
  rw [readNat, skipBlanks_cons (Byte.isBlank_of_numeric h)]
  dsimp only
  rw [if_pos h]
  split
  · rename_i m rest' hscan
    rw [hscan]
    by_cases hm : m ≤ bound <;> simp [scannedNatural?, hm, Except.toOption, Option.filter_some]
  · rename_i hscan
    rw [hscan]
    rfl
  · rename_i m rest' hnatural _ hscan
    rw [hscan]
    cases m with
    | natural m => exact absurd rfl (hnatural m)
    | negative m => rfl
    | float isNegative magnitude => rfl
  · rename_i hscan
    rw [hscan]
    rfl

/-- A number is read if it is a natural one that is within the bound. -/
theorem toOption_readNat_write {bound : Nat} (hbound : bound ≤ greatestSignificand)
    (wanted : String) (n : Literal) (hends : Ends rest) :
    (readNat bound wanted (n.write rest)).toOption =
      (n.natural?.filter (· ≤ bound)).map (·, rest) := by
  cases hsign : n.isNegative with
  | true =>
    have hnatural : n.natural? = none := if_pos (.inl hsign)
    rw [Literal.write, if_pos hsign, toOption_readNat (.inl rfl), scanSigned, if_pos rfl,
      scannedNatural?_scanNumber, hnatural]
    rfl
  | false =>
    obtain ⟨byte, tail, hbytes, hdigit⟩ := writeMagnitude_eq_cons n rest
    have hscan := scannedNatural?_scanNumber_write hsign hends
    rw [hbytes] at hscan
    rw [Literal.write, hsign, if_neg Bool.false_ne_true, hbytes,
      toOption_readNat (.inr hdigit), scanSigned,
      if_neg (Byte.ne_minus_of_isDigit hdigit), hscan]
    cases n.natural? with
    | none => rfl
    | some m =>
      by_cases hm : m ≤ bound
      · simp [Option.filter_some, hm, Nat.le_trans hm hbound]
      · by_cases hkept : m ≤ greatestSignificand <;> simp [Option.filter_some, hm, hkept]

end PingTun.Json
