-- SUMMARY: The bytes of a list of characters, and that text is decoded from its bytes.
import PingTun.Text.Utf8

/-! # Encoding

The bytes of a text are those of its characters, one after the other. A character below 128 is one
byte. Any other has two to four, none of which is below 128, and the first of them tells how many.
-/

namespace PingTun.Text

/-- The bytes of a list of characters. -/
def bytes (cs : List Char) : List UInt8 := cs.flatMap String.utf8EncodeChar

@[simp] theorem bytes_nil : bytes [] = [] := rfl

@[simp] theorem bytes_append (cs ds : List Char) : bytes (cs ++ ds) = bytes cs ++ bytes ds :=
  List.flatMap_append

theorem utf8_ofList (cs : List Char) : utf8 (String.ofList cs) = bytes cs := by
  rw [utf8, String.toByteArray_ofList, List.utf8Encode]
  simp [bytes]

/-! ## One byte for each character -/

/-- The byte of a character below 128. -/
def byte (c : Char) : UInt8 := c.toNat.toUInt8

theorem toNat_byte {c : Char} (h : c.toNat < 128) : (byte c).toNat = c.toNat :=
  UInt8.toNat_ofNat_of_lt' (Nat.lt_of_lt_of_le h (by decide))

theorem byte_inj {c d : Char} (hc : c.toNat < 128) (hd : d.toNat < 128) (h : byte c = byte d) :
    c = d := by
  have hcode := congrArg UInt8.toNat h
  rw [toNat_byte hc, toNat_byte hd] at hcode
  exact Char.toNat_inj.mp hcode

theorem bytes_cons {c : Char} (h : c.toNat < 128) (cs : List Char) :
    bytes (c :: cs) = byte c :: bytes cs := by
  have hchar : String.utf8EncodeChar c = [byte c] := if_pos (Nat.le_of_lt_succ h)
  rw [bytes, List.flatMap_cons, hchar]
  rfl

theorem bytes_eq_map {cs : List Char} (h : ∀ c ∈ cs, c.toNat < 128) : bytes cs = cs.map byte := by
  induction cs with
  | nil => rfl
  | cons c cs ih =>
    obtain ⟨hc, hcs⟩ := List.forall_mem_cons.mp h
    rw [bytes_cons hc, ih hcs, List.map_cons]

theorem utf8EncodeChar_ne_nil (c : Char) : String.utf8EncodeChar c ≠ [] := by
  apply List.ne_nil_of_length_pos
  rw [String.length_utf8EncodeChar]
  exact c.utf8Size_pos

/-- A character that is not below 128 has no byte that is. -/
theorem le_of_mem_utf8EncodeChar {c : Char} (h : 128 ≤ c.toNat) :
    ∀ b ∈ String.utf8EncodeChar c, 128 ≤ b.toNat := by
  have hbyte (n k : Nat) (hk : 128 ≤ k) (hn : n + k < 256) : 128 ≤ (UInt8.ofNat (n + k)).toNat := by
    rw [UInt8.toNat_ofNat_of_lt' hn]
    omega
  have hlarge : ¬ c.val.toNat ≤ 0x7F := Nat.not_le_of_lt h
  unfold String.utf8EncodeChar
  dsimp only
  rw [if_neg hlarge]
  split
  · simp only [List.mem_cons, List.not_mem_nil, or_false]
    rintro b (rfl | rfl)
    all_goals exact hbyte _ _ (by omega) (by omega)
  · split
    · simp only [List.mem_cons, List.not_mem_nil, or_false]
      rintro b (rfl | rfl | rfl)
      all_goals exact hbyte _ _ (by omega) (by omega)
    · simp only [List.mem_cons, List.not_mem_nil, or_false]
      rintro b (rfl | rfl | rfl | rfl)
      all_goals exact hbyte _ _ (by omega) (by omega)

/-! ## Decoding -/

/-- A continuation byte puts its six bits behind those there already are. -/
theorem continuation?_cons {low high n : Nat} (hlow : low ≤ n + 0x80) (hhigh : n + 0x80 ≤ high)
    (hn : n < 64) (value count : Nat) (rest : List UInt8) :
    continuation? value low high (count + 1) (UInt8.ofNat (n + 0x80) :: rest) =
      continuation? (value * 64 + n) 0x80 0xBF count rest := by
  have hbyte : (UInt8.ofNat (n + 0x80)).toNat = n + 0x80 := UInt8.toNat_ofNat_of_lt' (by
    simp only [UInt8.size]
    omega)
  have hbits : (n + 0x80) % 64 = n := by omega
  simp only [continuation?, hbyte, hbits]
  exact if_pos ⟨hlow, hhigh⟩

/-- The first of two bytes. -/
theorem lead?_two {b : Nat} (hlow : 0xC2 ≤ b) (hhigh : b < 0xE0) :
    lead? b = some { value := b % 32, count := 1 } := by
  rw [lead?, if_neg (by omega), if_neg (by omega), if_pos hhigh]

/-- The first of three bytes, and what the second one can be. -/
theorem lead?_three {b n : Nat} (hlow : 0xE0 ≤ b) (hhigh : b < 0xF0) (hn : n < 64)
    (hlong : b = 0xE0 → 0x20 ≤ n) (hsurrogate : b = 0xED → n < 0x20) :
    ∃ low high, lead? b = some { value := b % 16, count := 2, low, high } ∧
      low ≤ n + 0x80 ∧ n + 0x80 ≤ high := by
  rw [lead?, if_neg (by omega), if_neg (by omega), if_neg (by omega)]
  split
  · rename_i h
    have := hlong h
    exact ⟨_, _, rfl, by omega, by omega⟩
  · split
    · rename_i h
      have := hsurrogate h
      exact ⟨_, _, rfl, by omega, by omega⟩
    · exact ⟨_, _, rfl, by omega, by omega⟩

/-- The first of four bytes, and what the second one can be. -/
theorem lead?_four {b n : Nat} (hlow : 0xF0 ≤ b) (hhigh : b ≤ 0xF4) (hn : n < 64)
    (hlong : b = 0xF0 → 0x10 ≤ n) (hlarge : b = 0xF4 → n < 0x10) :
    ∃ low high, lead? b = some { value := b % 8, count := 3, low, high } ∧
      low ≤ n + 0x80 ∧ n + 0x80 ≤ high := by
  rw [lead?, if_neg (by omega), if_neg (by omega), if_neg (by omega), if_neg (by omega),
    if_neg (by omega), if_neg (by omega)]
  split
  · rename_i h
    have := hlong h
    exact ⟨_, _, rfl, by omega, by omega⟩
  · split
    · exact ⟨_, _, rfl, by omega, by omega⟩
    · rename_i h
      have heq : b = 0xF4 := by omega
      have := hlarge heq
      rw [if_pos heq]
      exact ⟨_, _, rfl, by omega, by omega⟩

theorem front?_of_lead {b : Nat} {lead : Lead} (hb : b < 256) (hlead : lead? b = some lead)
    (rest : List UInt8) :
    front? (UInt8.ofNat b :: rest) =
      continuation? lead.value lead.low lead.high lead.count rest := by
  have hbyte : (UInt8.ofNat b).toNat = b := UInt8.toNat_ofNat_of_lt' hb
  simp only [front?, hbyte, hlead]

/-- A character is decoded from its bytes, whatever follows them. -/
theorem front?_char (c : Char) (rest : List UInt8) :
    front? (String.utf8EncodeChar c ++ rest) = some (c, rest) := by
  have hvalid := c.valid
  have hchar : Char.ofNat c.val.toNat = c := Char.ofNat_toNat c
  simp only [UInt32.isValidChar, Nat.isValidChar] at hvalid
  unfold String.utf8EncodeChar
  generalize c.val.toNat = v at hvalid hchar
  dsimp only
  split
  · rename_i hone
    rw [List.cons_append, front?_of_lead (by omega) (if_pos (by omega))]
    exact congrArg (fun c => some (c, rest)) hchar
  · split
    · rename_i hone htwo
      rw [List.cons_append, List.cons_append, List.nil_append,
        front?_of_lead (by omega) (lead?_two (by omega) (by omega)),
        continuation?_cons (by dsimp only; omega) (by dsimp only; omega) (by omega), continuation?]
      have hvalue : (v / 64 % 0x20 + 0xC0) % 32 * 64 + v % 0x40 = v := by omega
      rw [hvalue, hchar]
    · split
      · rename_i hone htwo hthree
        obtain ⟨low, high, hlead, hlow, hhigh⟩ := lead?_three (b := v / 4096 % 0x10 + 0xE0)
          (n := v / 64 % 0x40) (by omega) (by omega) (by omega) (by omega) (by omega)
        simp only [List.cons_append, List.nil_append]
        rw [front?_of_lead (by omega) hlead, continuation?_cons hlow hhigh (by omega),
          continuation?_cons (by omega) (by omega) (by omega), continuation?]
        have hvalue : ((v / 4096 % 0x10 + 0xE0) % 16 * 64 + v / 64 % 0x40) * 64 + v % 0x40 = v := by
          omega
        rw [hvalue, hchar]
      · rename_i hone htwo hthree
        obtain ⟨low, high, hlead, hlow, hhigh⟩ := lead?_four (b := v / 262144 % 0x08 + 0xF0)
          (n := v / 4096 % 0x40) (by omega) (by omega) (by omega) (by omega) (by omega)
        simp only [List.cons_append, List.nil_append]
        rw [front?_of_lead (by omega) hlead, continuation?_cons hlow hhigh (by omega),
          continuation?_cons (by omega) (by omega) (by omega),
          continuation?_cons (by omega) (by omega) (by omega), continuation?]
        have hvalue : (((v / 262144 % 0x08 + 0xF0) % 8 * 64 + v / 4096 % 0x40) * 64 +
          v / 64 % 0x40) * 64 + v % 0x40 = v := by omega
        rw [hvalue, hchar]

theorem decodeBehind_bytes (taken cs : List Char) :
    decodeBehind taken (bytes cs) = .ok (taken.reverse ++ cs) := by
  induction cs generalizing taken with
  | nil => simp [decodeBehind]
  | cons c cs ih =>
    have hfront : front? (bytes (c :: cs)) = some (c, bytes cs) := front?_char c (bytes cs)
    cases hbytes : bytes (c :: cs) with
    | nil =>
      rw [hbytes] at hfront
      cases hfront
    | cons byte rest =>
      rw [hbytes] at hfront
      rw [decodeBehind]
      split
      · rename_i hread
        cases hfront.symm.trans hread
        rw [ih]
        simp
      · rename_i hread
        cases hfront.symm.trans hread

/-- Text is decoded from its bytes. -/
theorem decode_bytes (cs : List Char) : decode (bytes cs) = .ok cs := decodeBehind_bytes [] cs

end PingTun.Text
