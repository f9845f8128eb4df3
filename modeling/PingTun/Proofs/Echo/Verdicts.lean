-- SUMMARY: What a datagram is found to be, by its bytes: every outcome with its exact condition.
import PingTun.Echo.Reply

/-! # Verdicts

Whoever sends a datagram chooses where its header ends, and with it where everything else is looked
for. The verdict on a datagram is told here by the bytes at their offsets, each outcome with the
exact condition under which it is come to. Reading with every access checked comes to the same, so
no byte that is looked at lies behind the end.
-/

namespace PingTun.Echo

/-! ## Bytes by their offsets -/

/-- The byte at an offset, zero behind the end. -/
def byteAt (d : List UInt8) (offset : Nat) : UInt8 := d.getD offset 0

theorem byteAt_eq_getElem {d : List UInt8} {offset : Nat} (h : offset < d.length) :
    byteAt d offset = d[offset] := by
  simp [byteAt, h]

theorem getElem?_of_lt {d : List UInt8} {offset : Nat} (h : offset < d.length) :
    d[offset]? = some (byteAt d offset) := by
  simp [byteAt, h]

/-- The length of the IPv4 header, which is given in words of four bytes. -/
def headerLength (d : List UInt8) : Nat := 4 * (byteAt d 0 % 16).toNat

def sourceOf (d : List UInt8) : Address := ⟨byteAt d 12, byteAt d 13, byteAt d 14, byteAt d 15⟩

/-- What stands behind the IPv4 header. -/
def messageOf (d : List UInt8) : List UInt8 := d.drop (headerLength d)

theorem length_messageOf (d : List UInt8) :
    (messageOf d).length = d.length - headerLength d :=
  List.length_drop

@[simp] theorem byteAt_messageOf (d : List UInt8) (offset : Nat) :
    byteAt (messageOf d) offset = byteAt d (headerLength d + offset) := by
  simp [byteAt, messageOf]

/-- The fields of a message from a source. -/
def fieldsOf (source : Address) (message : List UInt8) : Reply where
  source
  icmpType := byteAt message 0
  code := byteAt message 1
  identifier := Bytes.toWord (byteAt message 4) (byteAt message 5)
  sequence := Bytes.toWord (byteAt message 6) (byteAt message 7)
  checksumValid := Checksum.internet message == 0

/-- The fields of an echo message are those it was laid out from. -/
theorem fieldsOf_append (source : Address) (icmpType code : UInt8)
    (checksum identifier sequence : UInt16) (rest : List UInt8) :
    fieldsOf source ([icmpType, code] ++ Bytes.ofWord checksum ++ Bytes.ofWord identifier ++
        Bytes.ofWord sequence ++ rest) =
      { source, icmpType, code, identifier, sequence
        checksumValid := Checksum.internet ([icmpType, code] ++ Bytes.ofWord checksum ++
          Bytes.ofWord identifier ++ Bytes.ofWord sequence ++ rest) == 0 } := by
  have hidentifier := Bytes.toWord_ofWord identifier
  have hsequence := Bytes.toWord_ofWord sequence
  simp only [fieldsOf, Reply.mk.injEq, and_true, true_and]
  exact ⟨rfl, rfl, hidentifier, hsequence⟩

/-! ## Verdicts -/

/-- An IPv4 header that holds up: it is of version 4, there is room for it and for the header of a
message behind it, and the message is an ICMP message. -/
structure Framed (d : List UInt8) : Prop where
  long : 20 ≤ d.length
  version : byteAt d 0 / 16 = 4
  header : 20 ≤ headerLength d
  room : headerLength d + 8 ≤ d.length
  protocol : byteAt d 9 = 1

/-- The header of a datagram with an ICMP message that has no options. -/
structure Plain (header : List UInt8) : Prop where
  length : header.length = 20
  first : byteAt header 0 = 0x45
  protocol : byteAt header 9 = 1

namespace Plain

variable {header : List UInt8} (h : Plain header) (message : List UInt8)
include h

theorem byteAt_append {offset : Nat} (hoffset : offset < 20) :
    byteAt (header ++ message) offset = byteAt header offset := by
  have hinside : offset < header.length := by rwa [h.length]
  rw [byteAt, byteAt, List.getD_eq_getElem?_getD, List.getD_eq_getElem?_getD,
    List.getElem?_append_left hinside]

theorem headerLength_append : headerLength (header ++ message) = 20 := by
  rw [headerLength, h.byteAt_append message (by decide), h.first]
  decide

theorem messageOf_append : messageOf (header ++ message) = message := by
  rw [messageOf, h.headerLength_append, List.drop_left' h.length]

/-- In front of a message that has room for its own header it holds up. -/
theorem framed_append (hroom : 8 ≤ message.length) : Framed (header ++ message) := by
  have hlength : (header ++ message).length = 20 + message.length := by
    rw [List.length_append, h.length]
  exact {
    long := by omega
    version := by
      rw [h.byteAt_append message (by decide), h.first]
      decide
    header := Nat.le_of_eq (h.headerLength_append message).symm
    room := by
      rw [h.headerLength_append]
      omega
    protocol := by rw [h.byteAt_append message (by decide), h.protocol] }

end Plain

/-- A message that says it is a timestamp, but has not the length of one. -/
def Misfit (message : List UInt8) : Prop :=
  (byteAt message 0 = 13 ∨ byteAt message 0 = 14) ∧ byteAt message 1 = 0 ∧ message.length ≠ 20

instance (message : List UInt8) : Decidable (Misfit message) :=
  inferInstanceAs (Decidable (_ ∧ _ ∧ _))

theorem fits_of_ne {message : List UInt8} (htimestamp : byteAt message 0 ≠ 13)
    (hreply : byteAt message 0 ≠ 14) : ¬ Misfit message :=
  fun hmisfit => hmisfit.1.elim htimestamp hreply

/-- What a datagram is found to be. Each outcome excludes those above it. -/
inductive Verdict (d : List UInt8) : Except Malformed Reply → Prop
  | truncated (short : d.length < 20) : Verdict d (.error (.truncated d.length))
  | notIpv4 (long : 20 ≤ d.length) (version : byteAt d 0 / 16 ≠ 4) :
    Verdict d (.error (.notIpv4 (byteAt d 0 / 16).toNat))
  | badHeader (long : 20 ≤ d.length) (version : byteAt d 0 / 16 = 4)
    (header : headerLength d < 20 ∨ d.length < headerLength d + 8) :
    Verdict d (.error (.badHeaderLength (headerLength d) d.length))
  | notIcmp (long : 20 ≤ d.length) (version : byteAt d 0 / 16 = 4)
    (header : 20 ≤ headerLength d) (room : headerLength d + 8 ≤ d.length)
    (protocol : byteAt d 9 ≠ 1) : Verdict d (.error (.notIcmp (byteAt d 9).toNat))
  | misfit (framed : Framed d) (misfit : Misfit (messageOf d)) :
    Verdict d (.error (.badHeaderLength (headerLength d) d.length))
  | message (framed : Framed d) (fits : ¬ Misfit (messageOf d)) :
    Verdict d (.ok (fieldsOf (sourceOf d) (messageOf d)))

namespace Reply

/-! ## Messages -/

theorem ofMessage?_of_lt (source : Address) {message : List UInt8} (h : message.length < 8) :
    ofMessage? source message = none := by
  unfold ofMessage?
  split
  · simp only [List.length_cons] at h
    omega
  · rfl

theorem misfit_iff (message : List UInt8) :
    Misfit message ↔
      hasTimestampShape (byteAt message 0) (byteAt message 1) = true ∧ message.length ≠ 20 := by
  simp [Misfit, hasTimestampShape, and_assoc]

/-- A message with room for its header is read by offsets, unless it is a misfit. -/
theorem ofMessage?_of_le (source : Address) {message : List UInt8} (h : 8 ≤ message.length) :
    ofMessage? source message =
      if Misfit message then none else some (fieldsOf source message) := by
  simp only [misfit_iff]
  match message, h with
  | _ :: _ :: _ :: _ :: _ :: _ :: _ :: _ :: _, _ => rfl

/-! ## Datagrams -/

theorem parse_eq (d : List UInt8) :
    parse d =
      if d.length < 20 then .error (.truncated d.length)
      else if byteAt d 0 / 16 ≠ 4 then .error (.notIpv4 (byteAt d 0 / 16).toNat)
      else if headerLength d < 20 ∨ d.length < headerLength d + 8 then
        .error (.badHeaderLength (headerLength d) d.length)
      else if byteAt d 9 ≠ 1 then .error (.notIcmp (byteAt d 9).toNat)
      else if Misfit (messageOf d) then .error (.badHeaderLength (headerLength d) d.length)
      else .ok (fieldsOf (sourceOf d) (messageOf d)) := by
  by_cases hshort : d.length < ipHeaderLength
  · exact (dif_pos hshort).trans (if_pos hshort).symm
  have hlong : 20 ≤ d.length := Nat.le_of_not_lt hshort
  have hbyte {offset : Nat} (h : offset < 20) : d[offset] = byteAt d offset :=
    (byteAt_eq_getElem _).symm
  have hheader : (byteAt d 0 % 16).toNat * 4 = headerLength d := Nat.mul_comm ..
  have hsource : (⟨byteAt d 12, byteAt d 13, byteAt d 14, byteAt d 15⟩ : Address) =
    sourceOf d := rfl
  have hmessage : d.drop (headerLength d) = messageOf d := rfl
  refine (dif_neg hshort).trans (Eq.trans ?_ (if_neg hshort).symm)
  simp only [hbyte (by decide : 0 < 20), hbyte (by decide : 9 < 20), hbyte (by decide : 12 < 20),
    hbyte (by decide : 13 < 20), hbyte (by decide : 14 < 20), hbyte (by decide : 15 < 20),
    hheader, hsource, hmessage]
  congr 1
  by_cases hbad : headerLength d < 20 ∨ d.length < headerLength d + 8
  · exact (if_pos hbad).trans (if_pos hbad).symm
  have hroom : 8 ≤ (messageOf d).length := by
    rw [length_messageOf]
    omega
  refine (if_neg hbad).trans (Eq.trans ?_ (if_neg hbad).symm)
  rw [ofMessage?_of_le _ hroom]
  congr 1
  by_cases hmisfit : Misfit (messageOf d)
  · rw [if_pos hmisfit, if_pos hmisfit]
  · rw [if_neg hmisfit, if_neg hmisfit]

/-- There is always a verdict. -/
theorem verdict_parse (d : List UInt8) : Verdict d (parse d) := by
  rw [parse_eq]
  split
  · rename_i hshort
    exact .truncated hshort
  rename_i hlong
  have hlong := Nat.le_of_not_lt hlong
  split
  · rename_i hversion
    exact .notIpv4 hlong hversion
  rename_i hversion
  have hversion := Decidable.not_not.mp hversion
  split
  · rename_i hbad
    exact .badHeader hlong hversion hbad
  rename_i hgood
  have hheader := Nat.le_of_not_lt (not_or.mp hgood).1
  have hroom := Nat.le_of_not_lt (not_or.mp hgood).2
  split
  · rename_i hprotocol
    exact .notIcmp hlong hversion hheader hroom hprotocol
  rename_i hprotocol
  have hframed : Framed d :=
    ⟨hlong, hversion, hheader, hroom, Decidable.not_not.mp hprotocol⟩
  split
  · rename_i hmisfit
    exact .misfit hframed hmisfit
  · rename_i hfits
    exact .message hframed hfits

/-- Behind a header that holds up it is for the message to decide. -/
theorem parse_of_framed {d : List UInt8} (h : Framed d) :
    parse d =
      if Misfit (messageOf d) then .error (.badHeaderLength (headerLength d) d.length)
      else .ok (fieldsOf (sourceOf d) (messageOf d)) := by
  have hgood : ¬ (headerLength d < 20 ∨ d.length < headerLength d + 8) :=
    not_or.mpr ⟨Nat.not_lt.mpr h.header, Nat.not_lt.mpr h.room⟩
  rw [parse_eq, if_neg (Nat.not_lt.mpr h.long), if_neg (not_not_intro h.version), if_neg hgood,
    if_neg (not_not_intro h.protocol)]

/-- No other verdict holds than the one that is come to. -/
theorem parse_of_verdict {d : List UInt8} {result : Except Malformed Reply}
    (h : Verdict d result) : parse d = result := by
  cases h with
  | truncated hshort => rw [parse_eq, if_pos hshort]
  | notIpv4 hlong hversion => rw [parse_eq, if_neg (Nat.not_lt.mpr hlong), if_pos hversion]
  | badHeader hlong hversion hbad =>
    rw [parse_eq, if_neg (Nat.not_lt.mpr hlong), if_neg (not_not_intro hversion), if_pos hbad]
  | notIcmp hlong hversion hheader hroom hprotocol =>
    have hgood : ¬ (headerLength d < 20 ∨ d.length < headerLength d + 8) :=
      not_or.mpr ⟨Nat.not_lt.mpr hheader, Nat.not_lt.mpr hroom⟩
    rw [parse_eq, if_neg (Nat.not_lt.mpr hlong), if_neg (not_not_intro hversion), if_neg hgood,
      if_pos hprotocol]
  | misfit hframed hmisfit => rw [parse_of_framed hframed, if_pos hmisfit]
  | message hframed hfits => rw [parse_of_framed hframed, if_neg hfits]

/-! ## Checked access -/

/-- What is left of a number, if it is not less than what is taken away. -/
def minus? (n taken : Nat) : Option Nat := if taken ≤ n then some (n - taken) else none

/-- The part of a datagram from an offset on, if the offset is not behind its end. -/
def from? (d : List UInt8) (offset : Nat) : Option (List UInt8) :=
  if offset ≤ d.length then some (d.drop offset) else none

/-- Read a message with every access checked. There is no result at all if one fails. -/
def ofMessageChecked (source : Address) (message : List UInt8) : Option (Option Reply) := do
  if message.length < 8 then return none
  let icmpType ← message[0]?
  let code ← message[1]?
  if (icmpType = 13 ∨ icmpType = 14) ∧ code = 0 ∧ message.length ≠ 20 then return none
  return some {
    source, icmpType, code
    identifier := Bytes.toWord (← message[4]?) (← message[5]?)
    sequence := Bytes.toWord (← message[6]?) (← message[7]?)
    checksumValid := Checksum.internet message == 0 }

/-- Read a datagram with every access checked. There is no result at all if a byte is asked for
behind the end, if a part begins behind the end, or if a length becomes negative. -/
def parseChecked (d : List UInt8) : Option (Except Malformed Reply) := do
  let read := d.length
  if read < 20 then return .error (.truncated read)
  let first ← d[0]?
  if first / 16 ≠ 4 then return .error (.notIpv4 (first / 16).toNat)
  let headerLength := 4 * (first % 16).toNat
  if headerLength < 20 ∨ read < headerLength then
    return .error (.badHeaderLength headerLength read)
  if (← minus? read headerLength) < 8 then return .error (.badHeaderLength headerLength read)
  let protocol ← d[9]?
  if protocol ≠ 1 then return .error (.notIcmp protocol.toNat)
  let source : Address := ⟨← d[12]?, ← d[13]?, ← d[14]?, ← d[15]?⟩
  match ← ofMessageChecked source (← from? d headerLength) with
  | some reply => return .ok reply
  | none => return .error (.badHeaderLength headerLength read)

theorem ofMessageChecked_eq (source : Address) (message : List UInt8) :
    ofMessageChecked source message = some (ofMessage? source message) := by
  unfold ofMessageChecked
  by_cases hshort : message.length < 8
  · rw [if_pos hshort, ofMessage?_of_lt source hshort]
    rfl
  have hlong : 8 ≤ message.length := Nat.le_of_not_lt hshort
  have hbyte {offset : Nat} (h : offset < 8) : message[offset]? = some (byteAt message offset) :=
    getElem?_of_lt (Nat.lt_of_lt_of_le h hlong)
  simp only [if_neg hshort, hbyte (by decide : 0 < 8), hbyte (by decide : 1 < 8),
    hbyte (by decide : 4 < 8), hbyte (by decide : 5 < 8), hbyte (by decide : 6 < 8),
    hbyte (by decide : 7 < 8), Option.bind_eq_bind, Option.bind_some, ofMessage?_of_le source hlong]
  by_cases hmisfit : Misfit message
  · rw [if_pos hmisfit]
    exact if_pos hmisfit
  · rw [if_neg hmisfit]
    exact if_neg hmisfit

/-- No access ever fails. -/
theorem parseChecked_eq (d : List UInt8) : parseChecked d = some (parse d) := by
  rw [parse_eq]
  unfold parseChecked
  by_cases hshort : d.length < 20
  · rw [if_pos hshort, if_pos hshort]
    rfl
  have hbyte {offset : Nat} (h : offset < 20) : d[offset]? = some (byteAt d offset) :=
    getElem?_of_lt (Nat.lt_of_lt_of_le h (Nat.le_of_not_lt hshort))
  have hheader : 4 * (byteAt d 0 % 16).toNat = headerLength d := rfl
  have hsource : (⟨byteAt d 12, byteAt d 13, byteAt d 14, byteAt d 15⟩ : Address) =
    sourceOf d := rfl
  simp only [hbyte (by decide : 0 < 20), hbyte (by decide : 9 < 20), hbyte (by decide : 12 < 20),
      hbyte (by decide : 13 < 20), hbyte (by decide : 14 < 20), hbyte (by decide : 15 < 20),
      Option.bind_eq_bind, Option.bind_some, hheader, hsource, if_neg hshort, ofMessageChecked_eq]
  by_cases hversion : byteAt d 0 / 16 ≠ 4
  · rw [if_pos hversion, if_pos hversion]
    rfl
  rw [if_neg hversion, if_neg hversion]
  by_cases hheader : headerLength d < 20 ∨ d.length < headerLength d
  · rw [if_pos hheader, if_pos (by omega)]
    rfl
  have hcut : headerLength d ≤ d.length := Nat.le_of_not_lt (not_or.mp hheader).2
  rw [if_neg hheader, minus?, if_pos hcut, Option.bind_some, from?, if_pos hcut, Option.bind_some]
  by_cases hroom : d.length - headerLength d < 8
  · rw [if_pos hroom, if_pos (by omega)]
    rfl
  have hgood : ¬ (headerLength d < 20 ∨ d.length < headerLength d + 8) := by omega
  rw [if_neg hroom, if_neg hgood]
  by_cases hprotocol : byteAt d 9 ≠ 1
  · rw [if_pos hprotocol, if_pos hprotocol]
    rfl
  have hlong : 8 ≤ (messageOf d).length := by
    rw [length_messageOf]
    omega
  have hmessage : d.drop (headerLength d) = messageOf d := rfl
  rw [if_neg hprotocol, if_neg hprotocol, hmessage, ofMessage?_of_le _ hlong]
  by_cases hmisfit : Misfit (messageOf d)
  · rw [if_pos hmisfit, if_pos hmisfit]
    rfl
  · rw [if_neg hmisfit, if_neg hmisfit]
    rfl

/-! ## Both -/

/-- Reading a datagram never looks behind its end. It comes to exactly one verdict: the datagram is
too short for an IPv4 header; or of another version; or its header leaves no room for a message; or
holds no ICMP message; or holds a timestamp of the wrong length; or else a message, whose fields
are read behind the header, and whose checksum is over everything there. -/
theorem parse_eq_iff_verdict (d : List UInt8) :
    parseChecked d = some (parse d) ∧ ∀ result, parse d = result ↔ Verdict d result := by
  refine ⟨parseChecked_eq d, fun result => ⟨?_, parse_of_verdict⟩⟩
  rintro rfl
  exact verdict_parse d

end Reply

end PingTun.Echo
