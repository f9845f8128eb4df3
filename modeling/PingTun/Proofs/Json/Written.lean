-- SUMMARY: Scalars that are written as JSON can be read again, whatever follows them.
import PingTun.Config.Printer
import PingTun.Json.Reader
import PingTun.Proofs.Text.Encoding
import PingTun.Proofs.Text.Numerals

/-! # Written values

A reader looks past the end of a number to see that it is the end. What a value is followed by must
therefore not go on with a number; then all that is written of the value is read, and nothing else.
-/

namespace PingTun.Json

/-- Nothing that goes on with a number stands in front of the bytes. -/
def Ends : List UInt8 → Prop
  | [] => True
  | byte :: _ => Byte.isDigit byte = false ∧ byte ≠ Byte.point ∧ Byte.isExponentMark byte = false

/-- A reader takes a value from what is written of it, and leaves what follows. -/
def Reader.Reads {α : Type} (r : Reader α) (written : List Char) (a : α) : Prop :=
  ∀ rest, Ends rest → r.run (Text.bytes written ++ rest) = .ok (a, rest)

theorem Reader.Reads.map {α β : Type} {r : Reader α} {written : List Char} {a : α}
    (h : r.Reads written a) (f : α → β) : (r.map f).Reads written (f a) := by
  intro rest hends
  simp only [Reader.map, h rest hends, Except.map]

/-- A document that holds what is written of a value, and nothing else. -/
theorem Reader.Reads.document {α : Type} {r : Reader α} {written : List Char} {a : α}
    (h : r.Reads written a) : r.document (Text.bytes written) = .ok a := by
  have hrun := h [] trivial
  rw [List.append_nil] at hrun
  simp only [Reader.document, hrun]
  rfl

theorem skipBlanks_cons {byte : UInt8} (h : Byte.isBlank byte = false) (rest : List UInt8) :
    skipBlanks (byte :: rest) = byte :: rest :=
  List.dropWhile_cons_of_neg (by simp [h])

/-! ## Numbers -/

theorem Byte.isBlank_of_isDigit {byte : UInt8} (h : isDigit byte = true) :
    isBlank byte = false := by
  cases hblank : isBlank byte with
  | false => rfl
  | true =>
    simp only [isBlank, Bool.or_eq_true, beq_iff_eq] at hblank
    rcases hblank with ((rfl | rfl) | rfl) | rfl
    all_goals cases h

theorem Byte.ne_minus_of_isDigit {byte : UInt8} (h : isDigit byte = true) : byte ≠ minus := by
  rintro rfl
  cases h

section

variable {c : Char} {cs : List Char} {n bound : Nat} {rest : List UInt8}

theorem toNat_digit (h : c.isDigit = true) : 48 ≤ c.toNat ∧ c.toNat ≤ 57 := by
  simpa [Char.isDigit, UInt32.le_iff_toNat_le] using h

theorem isDigit_byte (h : c.isDigit = true) : Byte.isDigit (Text.byte c) = true := by
  obtain ⟨hlow, hhigh⟩ := toNat_digit h
  have hbyte := Text.toNat_byte (c := c) (by omega)
  simp only [Byte.isDigit, Bool.and_eq_true, decide_eq_true_eq, UInt8.le_iff_toNat_le, hbyte]
  exact ⟨hlow, hhigh⟩

theorem digitValue_byte (h : c.isDigit = true) :
    digitValue (Text.byte c) = c.toNat - '0'.toNat := by
  obtain ⟨-, hhigh⟩ := toNat_digit h
  rw [digitValue, Text.toNat_byte (by omega)]
  rfl

theorem Ends.startsWithDigit (h : Ends rest) : startsWithDigit rest = false := by
  cases rest with
  | nil => rfl
  | cons byte rest => exact h.1

theorem skipDigits_of_not_startsWithDigit (h : startsWithDigit rest = false) :
    skipDigits rest = rest := by
  cases rest with
  | nil => rfl
  | cons byte rest => exact List.dropWhile_cons_of_neg (by simpa [startsWithDigit] using h)

theorem takeDigits_of_not_startsWithDigit (h : startsWithDigit rest = false) (bound n : Nat) :
    takeDigits bound n rest = (n, rest) := by
  cases rest with
  | nil => rfl
  | cons byte rest =>
    exact if_neg fun htaken => Bool.false_ne_true (h.symm.trans htaken.1)

theorem takeDigits_bytes (hdigits : ∀ c ∈ cs, c.isDigit = true)
    (hends : startsWithDigit rest = false) (hle : Nat.ofDigitChars 10 cs n ≤ bound) :
    takeDigits bound n (Text.bytes cs ++ rest) = (Nat.ofDigitChars 10 cs n, rest) := by
  induction cs generalizing n with
  | nil => exact takeDigits_of_not_startsWithDigit hends bound n
  | cons c cs ih =>
    obtain ⟨hdigit, hrest⟩ := List.forall_mem_cons.mp hdigits
    obtain ⟨-, hhigh⟩ := toNat_digit hdigit
    rw [Nat.ofDigitChars_cons, Nat.mul_comm] at hle ⊢
    -- The number only grows, so what is taken so far is within the bound if all of it is.
    have hfits : n * 10 + (c.toNat - '0'.toNat) ≤ bound :=
      Nat.le_trans (Numeral.le_ofDigitChars ..) hle
    rw [Text.bytes_cons (by omega), List.cons_append, takeDigits, digitValue_byte hdigit,
      if_pos ⟨isDigit_byte hdigit, hfits⟩]
    exact ih hrest hle

theorem scanNumberEnd_of_ends (hends : Ends rest) (n : Nat) :
    scanNumberEnd false n 0 rest = .ok (.natural n, rest) := by
  cases rest with
  | nil => rfl
  | cons byte rest =>
    obtain ⟨-, hpoint, hmark⟩ := hends
    rw [scanNumberEnd, if_neg hpoint, hmark]
    rfl

/-- The numeral of a number that is not zero begins with another digit. -/
theorem bytes_chars_of_pos (hpos : 0 < n) :
    ∃ c cs, Text.bytes (Numeral.chars n) = Text.byte c :: Text.bytes cs ∧ c.isDigit = true ∧
      Text.byte c ≠ Byte.zero ∧ (∀ c ∈ cs, c.isDigit = true) ∧
      Nat.ofDigitChars 10 cs (c.toNat - '0'.toNat) = n := by
  have hvalue := Numeral.ofDigitChars_chars n
  have hdigits : ∀ c ∈ Numeral.chars n, c.isDigit = true := fun c => Numeral.isDigit_of_mem_chars
  have hhead := Numeral.head?_chars hpos
  cases hchars : Numeral.chars n with
  | nil => exact absurd hchars (Numeral.chars_ne_nil n)
  | cons c cs =>
    rw [hchars] at hvalue hdigits hhead
    rw [Nat.ofDigitChars_cons, Nat.mul_zero, Nat.zero_add] at hvalue
    obtain ⟨hdigit, hrest⟩ := List.forall_mem_cons.mp hdigits
    obtain ⟨-, hhigh⟩ := toNat_digit hdigit
    have hzero : Text.byte c ≠ Byte.zero := fun hbyte =>
      hhead (congrArg some (Text.byte_inj (by omega) (by decide) hbyte))
    exact ⟨c, cs, Text.bytes_cons (by omega) cs, hdigit, hzero, hrest, hvalue⟩

/-- A numeral is scanned as its number, with which whatever follows may still go on. -/
theorem scanNumber_numeral (hn : n ≤ greatestSignificand) (hends : startsWithDigit rest = false) :
    scanNumber false (Text.bytes (Numeral.chars n) ++ rest) = scanNumberEnd false n 0 rest := by
  -- A number must not go on behind a leading zero, so zero itself is scanned apart from the others.
  rcases Nat.eq_zero_or_pos n with rfl | hpos
  · have hbytes : Text.bytes (Numeral.chars 0) ++ rest = Byte.zero :: rest := rfl
    rw [hbytes, scanNumber, if_pos rfl, hends]
    rfl
  · obtain ⟨c, cs, hbytes, hdigit, hzero, hrest, hvalue⟩ := bytes_chars_of_pos hpos
    have htaken : takeDigits greatestSignificand (c.toNat - '0'.toNat) (Text.bytes cs ++ rest) =
        (n, rest) := by
      rw [takeDigits_bytes hrest hends (by rwa [hvalue]), hvalue]
    rw [hbytes, List.cons_append, scanNumber, if_neg hzero, if_pos (isDigit_byte hdigit),
      digitValue_byte hdigit, htaken]
    dsimp only
    rw [skipDigits_of_not_startsWithDigit hends, Nat.sub_self]

/-- A numeral that nothing goes on with is scanned as its number. -/
theorem scanNumber_chars (hn : n ≤ greatestSignificand) (hends : Ends rest) :
    scanNumber false (Text.bytes (Numeral.chars n) ++ rest) = .ok (.natural n, rest) :=
  (scanNumber_numeral hn hends.startsWithDigit).trans (scanNumberEnd_of_ends hends n)

/-- A number is read from its numeral. -/
theorem Reader.reads_nat {bound n : Nat} (hn : n ≤ bound) (hbound : bound ≤ greatestSignificand)
    (wanted : String) : (Reader.nat bound wanted).Reads (Numeral.chars n) n := by
  intro rest hends
  have hscan := scanNumber_chars (Nat.le_trans hn hbound) hends
  cases hchars : Numeral.chars n with
  | nil => exact absurd hchars (Numeral.chars_ne_nil n)
  | cons c cs =>
    have hdigit : c.isDigit = true := Numeral.isDigit_of_mem_chars (hchars ▸ List.mem_cons_self)
    obtain ⟨-, hhigh⟩ := toNat_digit hdigit
    have hbyte := isDigit_byte hdigit
    rw [hchars, Text.bytes_cons (by omega), List.cons_append] at hscan
    change readNat bound wanted _ = _
    rw [Text.bytes_cons (by omega), List.cons_append, readNat,
      skipBlanks_cons (Byte.isBlank_of_isDigit hbyte)]
    dsimp only
    rw [if_pos (.inr hbyte), scanSigned, if_neg (Byte.ne_minus_of_isDigit hbyte), hscan]
    exact if_pos hn

end

/-! ## Words and strings -/

theorem Reader.reads_bool (b : Bool) (wanted : String) :
    (Reader.bool wanted).Reads (boolChars b) b := by
  intro rest _
  cases b with
  | true => rfl
  | false => rfl

/-- A character that stands for itself in a string, in one byte. -/
def Plain (c : Char) : Prop := 0x20 ≤ c.toNat ∧ c.toNat < 0x80 ∧ c ≠ '"' ∧ c ≠ '\\'

instance : DecidablePred Plain := fun c =>
  inferInstanceAs (Decidable (0x20 ≤ c.toNat ∧ c.toNat < 0x80 ∧ c ≠ '"' ∧ c ≠ '\\'))

theorem plain_of_all {cs : List Char} (h : (cs.all fun c => decide (Plain c)) = true) :
    ∀ c ∈ cs, Plain c :=
  fun c hc => of_decide_eq_true (List.all_eq_true.mp h c hc)

theorem plain_of_isDigit {c : Char} (h : c.isDigit = true) : Plain c := by
  obtain ⟨hlow, hhigh⟩ := toNat_digit h
  refine ⟨by omega, by omega, ?_, ?_⟩
  · rintro rfl
    cases h
  · rintro rfl
    cases h

section

variable {cs : List Char}

theorem scanBytes_plain (h : ∀ c ∈ cs, Plain c) (taken rest : List UInt8) :
    scanBytes taken (Text.bytes cs ++ Byte.quote :: rest) =
      .ok (taken.reverse ++ Text.bytes cs, rest) := by
  induction cs generalizing taken with
  | nil => simp [scanBytes]
  | cons c cs ih =>
    obtain ⟨⟨hlow, hhigh, hquote, hbackslash⟩, hcs⟩ := List.forall_mem_cons.mp h
    have hquote' : Text.byte c ≠ Byte.quote :=
      fun hbyte => hquote (Text.byte_inj hhigh (by decide) hbyte)
    have hbackslash' : Text.byte c ≠ Byte.backslash :=
      fun hbyte => hbackslash (Text.byte_inj hhigh (by decide) hbyte)
    have hcontrol : ¬ Text.byte c < 0x20 := by
      rw [UInt8.lt_iff_toNat_lt, Text.toNat_byte hhigh]
      exact Nat.not_lt_of_le hlow
    rw [Text.bytes_cons hhigh, List.cons_append, scanBytes, if_neg hquote', if_neg hbackslash',
      if_neg hcontrol, ih hcs]
    simp

theorem scanText_plain (h : ∀ c ∈ cs, Plain c) (rest : List UInt8) :
    scanText (Text.bytes cs ++ Byte.quote :: rest) = .ok (cs, rest) := by
  rw [scanText, scanBytes_plain h]
  simp only [List.reverse_nil, List.nil_append, Text.decode_bytes]

/-- A text is read from between its quotes, if that is how it is written. -/
theorem Reader.reads_text {α : Type} {parse : List Char → Except Flaw α} {a : α}
    (h : ∀ c ∈ cs, Plain c) (hparse : parse cs = .ok a) (wanted : String) :
    (Reader.text wanted parse).Reads (plainTextChars cs) a := by
  intro rest _
  have hbytes : Text.bytes (plainTextChars cs) ++ rest =
      Byte.quote :: (Text.bytes cs ++ Byte.quote :: rest) := by
    rw [plainTextChars, Text.bytes_cons (by decide), Text.bytes_append, List.cons_append,
      List.append_assoc]
    rfl
  have hskip : skipBlanks (Byte.quote :: (Text.bytes cs ++ Byte.quote :: rest)) =
      Byte.quote :: (Text.bytes cs ++ Byte.quote :: rest) := skipBlanks_cons rfl _
  simp only [Reader.text, hbytes, readText, hskip, if_pos, scanText_plain h, hparse]

end

end PingTun.Json
