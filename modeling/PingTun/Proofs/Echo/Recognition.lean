-- SUMMARY: Which datagrams are taken for replies, which of their bytes count, and which are logged.
import PingTun.Probe.Inbox
import PingTun.Proofs.Echo.Verdicts

/-! # Recognition

A datagram is taken for a reply by a few of its bytes, and the source is told by four more; no
other byte counts, the checksum least of all. What is no reply is dropped without a word if it is
intact, with one exception: a timestamp of the wrong length is taken for a datagram with a bad
header, although its header holds up.
-/

namespace PingTun.Echo

/-! ## Replies -/

/-- What makes a datagram a reply to an identifier. -/
structure Answers (identifier : UInt16) (d : List UInt8) : Prop where
  long : 20 ≤ d.length
  version : byteAt d 0 / 16 = 4
  header : 20 ≤ headerLength d
  room : headerLength d + 8 ≤ d.length
  protocol : byteAt d 9 = 1
  icmpType : byteAt d (headerLength d) = 0
  code : byteAt d (headerLength d + 1) = 0
  identifier_eq :
    Bytes.toWord (byteAt d (headerLength d + 4)) (byteAt d (headerLength d + 5)) = identifier

theorem Answers.framed {identifier : UInt16} {d : List UInt8} (h : Answers identifier d) :
    Framed d :=
  ⟨h.long, h.version, h.header, h.room, h.protocol⟩

/-- No timestamp is a reply. -/
theorem Answers.fits {identifier : UInt16} {d : List UInt8} (h : Answers identifier d) :
    ¬ Misfit (messageOf d) := by
  rintro ⟨htype, -, -⟩
  rw [byteAt_messageOf, Nat.add_zero, h.icmpType] at htype
  revert htype
  decide

theorem isReplyTo_fieldsOf {identifier : UInt16} {d : List UInt8} (h : Framed d) :
    (fieldsOf (sourceOf d) (messageOf d)).isReplyTo identifier = true ↔ Answers identifier d := by
  simp only [Reply.isReplyTo, fieldsOf, byteAt_messageOf, Bool.and_eq_true, beq_iff_eq,
    Nat.add_zero, replyType]
  constructor
  · rintro ⟨⟨htype, hcode⟩, hidentifier⟩
    exact ⟨h.long, h.version, h.header, h.room, h.protocol, htype, hcode, hidentifier⟩
  · intro hanswers
    exact ⟨⟨hanswers.icmpType, hanswers.code⟩, hanswers.identifier_eq⟩

/-- What comes of a datagram whose header holds up. -/
theorem replySource_of_framed {d : List UInt8} (h : Framed d) (identifier : UInt16) :
    replySource identifier d =
      if Misfit (messageOf d) then
        (none, [.datagramDiscarded (.badHeaderLength (headerLength d) d.length)])
      else
        (if (fieldsOf (sourceOf d) (messageOf d)).isReplyTo identifier then some (sourceOf d)
          else none,
          if Checksum.internet (messageOf d) = 0 then [] else [.corruptReceived (sourceOf d)]) := by
  unfold replySource
  rw [Reply.parse_of_framed h]
  by_cases hmisfit : Misfit (messageOf d)
  · rw [if_pos hmisfit, if_pos hmisfit]
  · rw [if_neg hmisfit, if_neg hmisfit]
    simp [fieldsOf]

/-- Behind a header that does not hold up nothing is looked at. -/
theorem error_of_not_framed {d : List UInt8} (h : ¬ Framed d) :
    ∃ cause, Reply.parse d = .error cause := by
  have hverdict := Reply.verdict_parse d
  generalize Reply.parse d = result at hverdict
  cases hverdict with
  | misfit hframed _ => exact absurd hframed h
  | message hframed _ => exact absurd hframed h
  | _ => exact ⟨_, rfl⟩

/-- A datagram is a reply from its source exactly if it answers the identifier. -/
theorem fst_replySource_iff {identifier : UInt16} {d : List UInt8} {address : Address} :
    (replySource identifier d).1 = some address ↔
      Answers identifier d ∧ address = sourceOf d := by
  constructor
  · intro hreply
    by_cases hframed : Framed d
    · rw [replySource_of_framed hframed] at hreply
      split at hreply
      · cases hreply
      · dsimp only at hreply
        split at hreply
        · rename_i hanswers
          exact ⟨(isReplyTo_fieldsOf hframed).mp hanswers, (Option.some.inj hreply).symm⟩
        · cases hreply
    · obtain ⟨cause, hcause⟩ := error_of_not_framed hframed
      rw [replySource, hcause] at hreply
      cases hreply
  · rintro ⟨hanswers, rfl⟩
    rw [replySource_of_framed hanswers.framed, if_neg hanswers.fits]
    exact if_pos ((isReplyTo_fieldsOf hanswers.framed).mpr hanswers)

/-! ## What counts -/

/-- The offsets of the bytes that count. Where they are is told by the first one. -/
def decisiveOffsets (d : List UInt8) : List Nat :=
  [0, 9, 12, 13, 14, 15, headerLength d, headerLength d + 1, headerLength d + 4,
    headerLength d + 5]

/-- Two datagrams that agree on the bytes that count, and both have room for a message, or both
have not. -/
structure SameEssence (d e : List UInt8) : Prop where
  bytes : ∀ offset ∈ decisiveOffsets d, byteAt e offset = byteAt d offset
  room : headerLength d + 8 ≤ d.length ↔ headerLength d + 8 ≤ e.length

namespace SameEssence

variable {d e : List UInt8}

theorem headerLength_eq (h : SameEssence d e) : headerLength e = headerLength d := by
  rw [headerLength, headerLength, h.bytes 0 (by simp [decisiveOffsets])]

theorem sourceOf_eq (h : SameEssence d e) : sourceOf e = sourceOf d := by
  simp only [sourceOf, h.bytes 12 (by simp [decisiveOffsets]),
    h.bytes 13 (by simp [decisiveOffsets]), h.bytes 14 (by simp [decisiveOffsets]),
    h.bytes 15 (by simp [decisiveOffsets])]

theorem symm (h : SameEssence d e) : SameEssence e d where
  bytes := by
    intro offset hoffset
    rw [decisiveOffsets, h.headerLength_eq] at hoffset
    exact (h.bytes offset hoffset).symm
  room := by
    rw [h.headerLength_eq]
    exact h.room.symm

theorem answers {identifier : UInt16} (h : SameEssence d e) (hd : Answers identifier d) :
    Answers identifier e := by
  have hlength := h.headerLength_eq
  have hroom : headerLength d + 8 ≤ e.length := h.room.mp hd.room
  have hheader := hd.header
  have hbyte (offset : Nat) (hoffset : offset ∈ decisiveOffsets d) := h.bytes offset hoffset
  exact {
    long := by omega
    version := by rw [hbyte 0 (by simp [decisiveOffsets]), hd.version]
    header := by rwa [hlength]
    room := by rwa [hlength]
    protocol := by rw [hbyte 9 (by simp [decisiveOffsets]), hd.protocol]
    icmpType := by rw [hlength, hbyte _ (by simp [decisiveOffsets]), hd.icmpType]
    code := by rw [hlength, hbyte _ (by simp [decisiveOffsets]), hd.code]
    identifier_eq := by
      rw [hlength, hbyte (_ + 4) (by simp [decisiveOffsets]),
        hbyte (_ + 5) (by simp [decisiveOffsets]), hd.identifier_eq] }

theorem fst_replySource_eq (h : SameEssence d e) (identifier : UInt16) :
    (replySource identifier e).1 = (replySource identifier d).1 := by
  refine Option.ext fun address => ?_
  rw [fst_replySource_iff, fst_replySource_iff, h.sourceOf_eq]
  exact and_congr_left' ⟨h.symm.answers, h.answers⟩

end SameEssence

/-- A datagram is taken for a reply to an identifier exactly if it answers it, and then for one from
its source. No byte counts but the decisive ones, and what stands behind the message's header does
not even have to be there. No datagram is a reply to two identifiers. -/
theorem reply_told_by_decisive_bytes (identifier : UInt16) (d : List UInt8) :
    (∀ address, (replySource identifier d).1 = some address ↔
      Answers identifier d ∧ address = sourceOf d) ∧
    (∀ e, SameEssence d e → (replySource identifier e).1 = (replySource identifier d).1) ∧
    ∀ other, (replySource identifier d).1.isSome = true →
      (replySource other d).1.isSome = true → other = identifier := by
  refine ⟨fun address => fst_replySource_iff, fun e h => h.fst_replySource_eq identifier, ?_⟩
  intro other hreply hother
  obtain ⟨address, hreply⟩ := Option.isSome_iff_exists.mp hreply
  obtain ⟨source, hother⟩ := Option.isSome_iff_exists.mp hother
  have hanswers := (fst_replySource_iff.mp hreply).1
  have hanswersOther := (fst_replySource_iff.mp hother).1
  exact hanswersOther.identifier_eq.symm.trans hanswers.identifier_eq

/-! ## What is judged by the header -/

/-- Two datagrams that can not be told apart without looking at their messages. -/
structure SameEnvelope (d e : List UInt8) : Prop where
  length : e.length = d.length
  first : byteAt e 0 = byteAt d 0
  protocol : byteAt e 9 = byteAt d 9

/-- Two results that are both messages, or failures of the same cause. -/
def SameVerdict : Except Malformed Reply → Except Malformed Reply → Prop
  | .ok _, .ok _ => True
  | .error cause, .error other => cause = other
  | _, _ => False

namespace SameEnvelope

variable {d e : List UInt8}

theorem headerLength_eq (h : SameEnvelope d e) : headerLength e = headerLength d := by
  rw [headerLength, headerLength, h.first]

theorem framed (h : SameEnvelope d e) (hd : Framed d) : Framed e where
  long := by rw [h.length]; exact hd.long
  version := by rw [h.first]; exact hd.version
  header := by rw [h.headerLength_eq]; exact hd.header
  room := by rw [h.length, h.headerLength_eq]; exact hd.room
  protocol := by rw [h.protocol]; exact hd.protocol

/-- Without a header that holds up, the verdict is told by the envelope. -/
theorem parse_eq_of_not_framed (h : SameEnvelope d e) (hd : ¬ Framed d) :
    Reply.parse e = Reply.parse d := by
  have hverdict := Reply.verdict_parse d
  generalize Reply.parse d = result at hverdict
  apply Reply.parse_of_verdict
  have hheader := h.headerLength_eq
  cases hverdict with
  | truncated hshort =>
    rw [← h.length]
    exact .truncated (by rwa [h.length])
  | notIpv4 hlong hversion =>
    rw [← h.first]
    exact .notIpv4 (by rwa [h.length]) (by rwa [h.first])
  | badHeader hlong hversion hbad =>
    rw [← h.length, ← hheader]
    exact .badHeader (by rwa [h.length]) (by rwa [h.first]) (by rwa [h.length, hheader])
  | notIcmp hlong hversion hlower hroom hprotocol =>
    rw [← h.protocol]
    exact .notIcmp (by rwa [h.length]) (by rwa [h.first]) (by rwa [hheader])
      (by rwa [h.length, hheader]) (by rwa [h.protocol])
  | misfit hframed _ => exact absurd hframed hd
  | message hframed _ => exact absurd hframed hd

theorem sameVerdict_iff (h : SameEnvelope d e) :
    SameVerdict (Reply.parse d) (Reply.parse e) ↔
      (Framed d → (Misfit (messageOf d) ↔ Misfit (messageOf e))) := by
  by_cases hframed : Framed d
  · rw [Reply.parse_of_framed hframed, Reply.parse_of_framed (h.framed hframed), h.length,
      h.headerLength_eq]
    by_cases hd : Misfit (messageOf d) <;> by_cases he : Misfit (messageOf e) <;>
      simp [hd, he, hframed, SameVerdict]
  · obtain ⟨cause, hcause⟩ := error_of_not_framed hframed
    rw [h.parse_eq_of_not_framed hframed, hcause]
    simp [hframed, SameVerdict]

end SameEnvelope

/-- What is found of two datagrams of one envelope is the same, whatever their messages are, unless
one of them is a timestamp of the wrong length and the other is not. An intact datagram whose
header holds up is not logged, unless it is such a timestamp: that is logged for its header. -/
theorem sameVerdict_iff_misfits {d e : List UInt8} (h : SameEnvelope d e) :
    (SameVerdict (Reply.parse d) (Reply.parse e) ↔
      (Framed d → (Misfit (messageOf d) ↔ Misfit (messageOf e)))) ∧
    ∀ identifier, Framed d → Checksum.internet (messageOf d) = 0 →
      (replySource identifier d).2 =
        if Misfit (messageOf d) then
          [.datagramDiscarded (.badHeaderLength (headerLength d) d.length)]
        else [] := by
  refine ⟨h.sameVerdict_iff, ?_⟩
  intro identifier hframed hintact
  rw [replySource_of_framed hframed]
  by_cases hmisfit : Misfit (messageOf d)
  · rw [if_pos hmisfit, if_pos hmisfit]
  · rw [if_neg hmisfit, if_neg hmisfit]
    exact if_pos hintact

/-- An intact datagram of 28 bytes, the last eight of which are a message of a type. -/
def shortMessage (icmpType checksumHigh : UInt8) : List UInt8 :=
  [0x45, 0, 0, 28, 0, 0, 0, 0, 64, 1, 0, 0, 203, 0, 113, 10, 10, 0, 0, 2,
    icmpType, 0, checksumHigh, 0xcb, 0x12, 0x34, 0, 0]

/-- A timestamp and an echo request, of eight bytes each: only the timestamp is logged. -/
theorem sameVerdict_iff_misfits_short :
    SameEnvelope (shortMessage 13 0xe0) (shortMessage 8 0xe5) ∧
    (SameVerdict (Reply.parse (shortMessage 13 0xe0)) (Reply.parse (shortMessage 8 0xe5)) ↔
      (Framed (shortMessage 13 0xe0) →
        (Misfit (messageOf (shortMessage 13 0xe0)) ↔
          Misfit (messageOf (shortMessage 8 0xe5))))) ∧
    Framed (shortMessage 13 0xe0) ∧
    Checksum.internet (messageOf (shortMessage 13 0xe0)) = 0 ∧
    (replySource 0x1234 (shortMessage 13 0xe0)).2 =
      [.datagramDiscarded (.badHeaderLength 20 28)] ∧
    Framed (shortMessage 8 0xe5) ∧
    Checksum.internet (messageOf (shortMessage 8 0xe5)) = 0 ∧
    (replySource 0x1234 (shortMessage 8 0xe5)).2 = [] := by
  have h : SameEnvelope (shortMessage 13 0xe0) (shortMessage 8 0xe5) := ⟨rfl, rfl, rfl⟩
  have hback : SameEnvelope (shortMessage 8 0xe5) (shortMessage 13 0xe0) := ⟨rfl, rfl, rfl⟩
  have hstamp : Framed (shortMessage 13 0xe0) :=
    ⟨by decide, by decide, by decide, by decide, by decide⟩
  have hrequest : Framed (shortMessage 8 0xe5) :=
    ⟨by decide, by decide, by decide, by decide, by decide⟩
  obtain ⟨hverdict, hlog⟩ := sameVerdict_iff_misfits h
  have hstampLog := hlog 0x1234 hstamp (by decide)
  have hrequestLog := (sameVerdict_iff_misfits hback).2 0x1234 hrequest (by decide)
  rw [if_pos (by decide)] at hstampLog
  rw [if_neg (by decide)] at hrequestLog
  exact ⟨h, hverdict, hstamp, by decide, hstampLog, hrequest, by decide, hrequestLog⟩

/-- A timestamp of eight bytes, which is intact and no reply to anybody, is taken for a datagram
with a bad header and logged. An echo request in its place is not. -/
theorem timestamp_taken_for_malformed :
    ¬ (∀ d e, SameEnvelope d e → SameVerdict (Reply.parse d) (Reply.parse e)) ∧
    ¬ (∀ identifier d, Framed d → Checksum.internet (messageOf d) = 0 →
      ¬ Answers identifier d → (replySource identifier d).2 = []) := by
  have hframed : Framed (shortMessage 13 0xe0) :=
    ⟨by decide, by decide, by decide, by decide, by decide⟩
  constructor
  · intro hsame
    have h : SameEnvelope (shortMessage 13 0xe0) (shortMessage 8 0xe5) := ⟨rfl, rfl, rfl⟩
    exact hsame _ _ h
  · intro hsilent
    have hlog := hsilent 0x1234 (shortMessage 13 0xe0) hframed (by decide) (by
      intro hanswers
      exact absurd hanswers.icmpType (by decide))
    revert hlog
    decide

end PingTun.Echo
