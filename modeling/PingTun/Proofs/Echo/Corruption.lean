-- SUMMARY: Which changes of a message's word its checksum shows.
import PingTun.Proofs.Checksum.Sums
import PingTun.Proofs.Echo.Recognition

/-! # Corruption

An intact message adds up to a multiple of 65535. If one of its words changes the sum changes by as
much, so the message does not add up any more, unless the word was one of the two zeros of ones'
complement arithmetic and became the other. A change of a single byte never does that.
-/

namespace PingTun.Echo

/-! ## Altered bytes -/

/-- Datagrams of one length that differ at most at some offsets. -/
structure SameBut (offsets : List Nat) (d e : List UInt8) : Prop where
  length : e.length = d.length
  elsewhere : ∀ offset, offset ∉ offsets → byteAt e offset = byteAt d offset

theorem eq_of_byteAt {d e : List UInt8} (hlength : e.length = d.length)
    (hbyte : ∀ offset, byteAt e offset = byteAt d offset) : e = d := by
  refine List.ext_getElem hlength fun offset he hd => ?_
  rw [← byteAt_eq_getElem he, ← byteAt_eq_getElem hd, hbyte]

namespace SameBut

variable {offsets : List Nat} {d e : List UInt8}

theorem mono {more : List Nat} (h : SameBut offsets d e) (hmore : offsets ⊆ more) :
    SameBut more d e :=
  ⟨h.length, fun offset houtside => h.elsewhere offset fun hmem => houtside (hmore hmem)⟩

theorem sameEnvelope (h : SameBut offsets d e) (hfirst : 0 ∉ offsets) (hprotocol : 9 ∉ offsets) :
    SameEnvelope d e :=
  ⟨h.length, h.elsewhere 0 hfirst, h.elsewhere 9 hprotocol⟩

end SameBut

/-! ## Intact messages -/

theorem Reply.fields_of_parse {d : List UInt8} {reply : Reply} (h : Reply.parse d = .ok reply) :
    Framed d ∧ reply = fieldsOf (sourceOf d) (messageOf d) := by
  have hverdict := Reply.verdict_parse d
  rw [h] at hverdict
  cases hverdict with
  | message hframed _ => exact ⟨hframed, rfl⟩

/-- A message is intact exactly if it adds up to a multiple of 65535 other than zero. -/
theorem Reply.checksumValid_iff {d : List UInt8} {reply : Reply} (hsize : d.length ≤ 65535)
    (h : Reply.parse d = .ok reply) :
    reply.checksumValid = true ↔
      Checksum.wordSum (messageOf d) ≠ 0 ∧ Checksum.wordSum (messageOf d) % 65535 = 0 := by
  obtain ⟨-, rfl⟩ := Reply.fields_of_parse h
  have hlength : (messageOf d).length ≤ 131074 := by
    rw [length_messageOf]
    omega
  rw [fieldsOf, beq_iff_eq, Checksum.internet_eq_onesComplement hlength,
    Checksum.onesComplement_eq_zero_iff]

/-! ## Altered words -/

/-- The offsets of the two bytes of a message's word. -/
def wordOffsets (d : List UInt8) (position : Nat) : List Nat :=
  [headerLength d + 2 * position, headerLength d + 2 * position + 1]

theorem mem_wordOffsets {d : List UInt8} {position offset : Nat} :
    offset ∈ wordOffsets d position ↔
      offset = headerLength d + 2 * position ∨ offset = headerLength d + 2 * position + 1 := by
  simp [wordOffsets]

/-- The word at a position of a datagram's message. An odd last byte is followed by a zero. -/
def wordOf (d : List UInt8) (position : Nat) : Nat := Checksum.wordAt (messageOf d) position

theorem wordOf_eq (d : List UInt8) (position : Nat) :
    wordOf d position = 256 * (byteAt d (headerLength d + 2 * position)).toNat +
      (byteAt d (headerLength d + 2 * position + 1)).toNat := by
  rw [Nat.add_assoc, ← byteAt_messageOf, ← byteAt_messageOf]
  rfl

theorem wordOf_le (d : List UInt8) (position : Nat) : wordOf d position ≤ 65535 := by
  have hhigh := (byteAt d (headerLength d + 2 * position)).toNat_lt
  have hlow := (byteAt d (headerLength d + 2 * position + 1)).toNat_lt
  rw [wordOf_eq]
  omega

namespace SameBut

variable {d e : List UInt8} {position : Nat}

theorem headerLength_eq (h : SameBut (wordOffsets d position) d e) (hd : Framed d) :
    headerLength e = headerLength d := by
  have hheader := hd.header
  refine SameEnvelope.headerLength_eq (h.sameEnvelope ?_ ?_)
  · rw [mem_wordOffsets]
    omega
  · rw [mem_wordOffsets]
    omega

theorem wordOf_of_ne (h : SameBut (wordOffsets d position) d e) (hd : Framed d) {other : Nat}
    (hother : other ≠ position) : wordOf e other = wordOf d other := by
  have hhigh : headerLength d + 2 * other ∉ wordOffsets d position := by
    rw [mem_wordOffsets]
    omega
  have hlow : headerLength d + 2 * other + 1 ∉ wordOffsets d position := by
    rw [mem_wordOffsets]
    omega
  rw [wordOf_eq, wordOf_eq, h.headerLength_eq hd, h.elsewhere _ hhigh, h.elsewhere _ hlow]

/-- Sums of messages differ by as much as the altered word does. -/
theorem wordSum_add_wordOf (h : SameBut (wordOffsets d position) d e) (hd : Framed d) :
    Checksum.wordSum (messageOf e) + wordOf d position =
      Checksum.wordSum (messageOf d) + wordOf e position := by
  have hlength : (messageOf e).length = (messageOf d).length := by
    rw [length_messageOf, length_messageOf, h.length, h.headerLength_eq hd]
  exact Checksum.wordSum_add_wordAt hlength fun other hother => h.wordOf_of_ne hd hother

/-- A datagram with the same word there is the same datagram. -/
theorem wordOf_ne (h : SameBut (wordOffsets d position) d e) (hd : Framed d) (hchanged : e ≠ d) :
    wordOf e position ≠ wordOf d position := by
  intro hword
  rw [wordOf_eq, wordOf_eq, h.headerLength_eq hd] at hword
  have hlow := (byteAt d (headerLength d + 2 * position + 1)).toNat_lt
  have hlowChanged := (byteAt e (headerLength d + 2 * position + 1)).toNat_lt
  refine hchanged (eq_of_byteAt h.length fun offset => ?_)
  by_cases hinside : offset ∈ wordOffsets d position
  · apply UInt8.toNat.inj
    rcases mem_wordOffsets.mp hinside with rfl | rfl
    · omega
    · omega
  · exact h.elsewhere offset hinside

/-- If one word of an intact message is altered, the message is taken for intact only if the word
was one of the two zeros, and is the other now. -/
theorem checksumValid_iff {reply changed : Reply} (h : SameBut (wordOffsets d position) d e)
    (hsize : d.length ≤ 65535) (hreply : Reply.parse d = .ok reply)
    (hvalid : reply.checksumValid = true) (hne : e ≠ d) (hchanged : Reply.parse e = .ok changed) :
    changed.checksumValid = true ↔
      wordOf d position = 0 ∧ wordOf e position = 65535 ∨
      wordOf d position = 65535 ∧ wordOf e position = 0 ∧ ∃ byte ∈ messageOf e, byte ≠ 0 := by
  obtain ⟨hframed, -⟩ := Reply.fields_of_parse hreply
  obtain ⟨hsome, hmultiple⟩ := (Reply.checksumValid_iff hsize hreply).mp hvalid
  have hsum := h.wordSum_add_wordOf hframed
  have hword := h.wordOf_ne hframed hne
  have hd := wordOf_le d position
  have he := wordOf_le e position
  have hblank : (∃ byte ∈ messageOf e, byte ≠ 0) ↔ Checksum.wordSum (messageOf e) ≠ 0 := by
    simp [Checksum.wordSum_eq_zero_iff]
  -- the only two words that are congruent but different are 0 and 65535
  rw [Reply.checksumValid_iff (h.length ▸ hsize) hchanged, hblank]
  omega

end SameBut

/-! ## Altered bytes and bits -/

/-- A word of which only one byte is altered does not become the other zero, so the change of a
single byte of a message is always found. -/
theorem SameBut.checksumValid_of_byte {d e : List UInt8} {offset : Nat} {reply changed : Reply}
    (h : SameBut [offset] d e) (hsize : d.length ≤ 65535) (hreply : Reply.parse d = .ok reply)
    (hvalid : reply.checksumValid = true) (hmessage : headerLength d ≤ offset) (hne : e ≠ d)
    (hchanged : Reply.parse e = .ok changed) : changed.checksumValid = false := by
  obtain ⟨position, hposition⟩ : ∃ position, offset ∈ wordOffsets d position :=
    ⟨(offset - headerLength d) / 2, mem_wordOffsets.mpr (by omega)⟩
  have hword : SameBut (wordOffsets d position) d e := h.mono (by simpa using hposition)
  have hframed := (Reply.fields_of_parse hreply).1
  have hsame (other : Nat) (hother : other ≠ offset) : byteAt e other = byteAt d other :=
    h.elsewhere other (by simpa using hother)
  have hhigh := (byteAt d (headerLength d + 2 * position)).toNat_lt
  have hlow := (byteAt d (headerLength d + 2 * position + 1)).toNat_lt
  have hhighChanged := (byteAt e (headerLength d + 2 * position)).toNat_lt
  have hlowChanged := (byteAt e (headerLength d + 2 * position + 1)).toNat_lt
  rw [← Bool.not_eq_true, hword.checksumValid_iff hsize hreply hvalid hne hchanged, wordOf_eq,
    wordOf_eq, hword.headerLength_eq hframed]
  rcases mem_wordOffsets.mp hposition with rfl | rfl
  · rw [hsame (headerLength d + 2 * position + 1) (Nat.succ_ne_self _)]
    omega
  · rw [hsame (headerLength d + 2 * position) (Nat.succ_ne_self _).symm]
    omega

/-- A datagram with another word at a position of its message. -/
def putWord (d : List UInt8) (position : Nat) (high low : UInt8) : List UInt8 :=
  (d.set (headerLength d + 2 * position) high).set (headerLength d + 2 * position + 1) low

theorem sameBut_putWord (d : List UInt8) (position : Nat) (high low : UInt8) :
    SameBut (wordOffsets d position) d (putWord d position high low) := by
  refine ⟨by simp [putWord], fun offset houtside => ?_⟩
  obtain ⟨hhigh, hlow⟩ := not_or.mp (mt mem_wordOffsets.mpr houtside)
  simp [byteAt, putWord, Ne.symm hhigh, Ne.symm hlow]

/-- A datagram with one bit turned over. -/
def flipBit (d : List UInt8) (offset : Nat) (bit : Fin 8) : List UInt8 :=
  d.modify offset (· ^^^ 1 <<< bit.val.toUInt8)

theorem sameBut_flipBit (d : List UInt8) (offset : Nat) (bit : Fin 8) :
    SameBut [offset] d (flipBit d offset bit) := by
  refine ⟨List.length_modify .., fun other hother => ?_⟩
  have hne : offset ≠ other := fun heq => hother (by simp [heq])
  simp [byteAt, flipBit, hne]

theorem flipBit_ne {d : List UInt8} {offset : Nat} (h : offset < d.length) (bit : Fin 8) :
    flipBit d offset bit ≠ d := by
  have hmask : (1 : UInt8) <<< bit.val.toUInt8 ≠ 0 := by
    revert bit
    decide
  intro heq
  have hbyte : byteAt (flipBit d offset bit) offset =
      byteAt d offset ^^^ 1 <<< bit.val.toUInt8 := by
    simp [byteAt, flipBit, h]
  rw [heq] at hbyte
  exact hmask ((UInt8.xor_right_inj _).mp (UInt8.xor_zero.trans hbyte)).symm

/-- An intact message of which one word is altered, or the odd last byte, is intact no more if it is
still a message at all. The exceptions are a word of zeros that becomes one of ones, and a word of
ones that becomes one of zeros in a message that is not all zeros then. That no bit is turned over
unnoticed is a case of it. -/
theorem checksumValid_of_change {d : List UInt8} {reply : Reply} (hsize : d.length ≤ 65535)
    (hreply : Reply.parse d = .ok reply) (hvalid : reply.checksumValid = true) :
    (∀ position e changed, SameBut (wordOffsets d position) d e → e ≠ d →
      Reply.parse e = .ok changed →
      (changed.checksumValid = true ↔
        wordOf d position = 0 ∧ wordOf e position = 0xffff ∨
        wordOf d position = 0xffff ∧ wordOf e position = 0 ∧ ∃ byte ∈ messageOf e, byte ≠ 0)) ∧
    ∀ offset bit changed, headerLength d ≤ offset → offset < d.length →
      Reply.parse (flipBit d offset bit) = .ok changed → changed.checksumValid = false := by
  constructor
  · intro position e changed hsame hne hchanged
    exact hsame.checksumValid_iff hsize hreply hvalid hne hchanged
  · intro offset bit changed hmessage hlast hchanged
    exact (sameBut_flipBit d offset bit).checksumValid_of_byte hsize hreply hvalid hmessage
      (flipBit_ne hlast bit) hchanged

/-- An intact reply of 29 bytes, the last of which is a word by itself. -/
def oddReply : List UInt8 :=
  [0x45, 0, 0, 29, 0, 0, 0, 0, 64, 1, 0, 0, 203, 0, 113, 10, 10, 0, 0, 2,
    0, 0, 0xf8, 0xff, 0x12, 0x34, 0xed, 0xcb, 7]

/-- An altered identifier is found, and so is the last bit. A first word of ones is not. -/
theorem checksumValid_of_change_odd :
    Reply.parse oddReply = .ok {
      source := ⟨203, 0, 113, 10⟩, icmpType := 0, code := 0, identifier := 0x1234
      sequence := 0xedcb, checksumValid := true } ∧
    (∃ changed, Reply.parse (putWord oddReply 2 0x34 0x12) = .ok changed ∧
      changed.checksumValid = false) ∧
    (∃ changed, Reply.parse (putWord oddReply 0 0xff 0xff) = .ok changed ∧
      changed.checksumValid = true) ∧
    ∃ changed, Reply.parse (flipBit oddReply 28 7) = .ok changed ∧
      changed.checksumValid = false := by
  have hreply : Reply.parse oddReply = .ok {
      source := ⟨203, 0, 113, 10⟩, icmpType := 0, code := 0, identifier := 0x1234
      sequence := 0xedcb, checksumValid := true } := by decide
  obtain ⟨hwords, hflips⟩ := checksumValid_of_change (by decide) hreply rfl
  refine ⟨hreply, ⟨_, rfl, ?_⟩, ⟨_, rfl, ?_⟩, ⟨_, rfl, ?_⟩⟩
  · have hword := hwords 2 _ _ (sameBut_putWord oddReply 2 0x34 0x12) (by decide) rfl
    rw [← Bool.not_eq_true, hword]
    rintro (⟨hzeros, -⟩ | ⟨hones, -⟩)
    · exact absurd hzeros (by decide)
    · exact absurd hones (by decide)
  · have hword := hwords 0 _ _ (sameBut_putWord oddReply 0 0xff 0xff) (by decide) rfl
    exact hword.mpr (.inl ⟨by decide, by decide⟩)
  · exact hflips 28 7 _ (by decide) (by decide) rfl

end PingTun.Echo
