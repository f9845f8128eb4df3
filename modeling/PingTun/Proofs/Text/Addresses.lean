-- SUMMARY: Addresses and networks that are written can be read again.
import PingTun.Network
import PingTun.Proofs.Text.Numerals

/-! # Addresses and networks

The text of an address falls into the numerals of its octets at its points, and that of a network
into an address and a numeral at its slash. The numeral behind the slash is no netmask.
-/

namespace PingTun

namespace Address

theorem text_eq (a : Address) :
    a.text = toString a.first ++ "." ++ toString a.second ++ "." ++ toString a.third ++ "." ++
      toString a.fourth := by
  apply String.toList_injective
  have hoctet (b : UInt8) : (toString b).toList = Numeral.chars b.toNat := by
    show (toString b.toNat).toList = _
    rw [← Numeral.text_eq, Numeral.text, String.toList_ofList]
  simp [text, chars, hoctet]

theorem octet?_chars (b : UInt8) : octet? (Numeral.chars b.toNat) = some b := by
  have hlt : b.toNat < 256 := b.toNat_lt
  have hlength : (Numeral.chars b.toNat).length ≤ 3 :=
    (Nat.length_toDigits_le_iff (by decide) (by decide)).mpr
      (Nat.lt_of_lt_of_le hlt (by decide))
  have hzero : (Numeral.chars b.toNat).length = 1 ∨ (Numeral.chars b.toNat).head? ≠ some '0' := by
    rcases Nat.eq_zero_or_pos b.toNat with hb | hb
    · rw [hb]
      exact .inl rfl
    · exact .inr (Numeral.head?_chars hb)
  have hsign : (Numeral.chars b.toNat).head? ≠ some '+' :=
    fun hhead => Numeral.not_mem_chars rfl _ (List.mem_of_head? hhead)
  rw [octet?, if_pos ⟨hlength, hzero, hsign⟩, Numeral.readNat_chars (Nat.le_of_lt_succ hlt)]
  exact congrArg some (UInt8.ofNat_toNat)

/-- Numerals have no points in them. -/
theorem splitOn_chars (a : Address) :
    a.chars.splitOn '.' = a.octets.map fun b => Numeral.chars b.toNat := by
  have hchars : a.chars = ['.'].intercalate (a.octets.map fun b => Numeral.chars b.toNat) := by
    simp [chars, octets, List.intercalate]
  rw [hchars]
  apply List.splitOn_intercalate
  · intro cs hcs
    obtain ⟨b, -, rfl⟩ := List.mem_map.mp hcs
    exact Numeral.not_mem_chars rfl _
  · exact List.cons_ne_nil _ _

theorem ofChars?_chars (a : Address) : ofChars? a.chars = some a := by
  simp only [ofChars?, splitOn_chars, octets, List.map_cons, List.map_nil, octet?_chars]

/-- One numeral alone is no address. -/
theorem ofChars?_numeral (n : Nat) : ofChars? (Numeral.chars n) = none := by
  have hsplit : (Numeral.chars n).splitOn '.' = [Numeral.chars n] :=
    List.splitOn_eq_singleton (Numeral.not_mem_chars rfl n)
  simp only [ofChars?, hsplit, List.map_cons, List.map_nil]
  -- It may well be an octet, but one octet does not make four.
  cases octet? (Numeral.chars n) with
  | none => rfl
  | some b => rfl

theorem slash_not_mem_chars (a : Address) : '/' ∉ a.chars := by
  have hnumeral (n : Nat) : '/' ∉ Numeral.chars n := Numeral.not_mem_chars rfl n
  simp [chars, hnumeral]

end Address

namespace Network

theorem bits?_chars (n : Network) : bits? (Numeral.chars n.bits) = some n.bits := by
  have hbits : n.bits ≤ 255 := Nat.le_trans n.bits_le (by decide)
  simp only [bits?, Address.ofChars?_numeral, Numeral.readNat_chars hbits]

theorem ofChars_chars (n : Network) : ofChars n.chars = .ok n := by
  have hslash : ∀ c ∈ n.address.chars, (c != '/') = true := by
    intro c hc
    rw [bne_iff_ne]
    rintro rfl
    exact n.address.slash_not_mem_chars hc
  have hbefore : n.chars.takeWhile (· != '/') = n.address.chars := by
    rw [chars, List.takeWhile_append_of_pos hslash]
    simp
  have hafter : n.chars.dropWhile (· != '/') = '/' :: Numeral.chars n.bits := by
    rw [chars, List.dropWhile_append_of_pos hslash]
    simp
  have honce : '/' ∉ Numeral.chars n.bits := Numeral.not_mem_chars rfl n.bits
  have hof : of? n.address n.bits = some n := dif_pos n.bits_le
  simp only [ofChars, hbefore, hafter, Address.ofChars?_chars, bits?_chars, if_neg honce,
    Option.bind_some, hof]

end Network

end PingTun
