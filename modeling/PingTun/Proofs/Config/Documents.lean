-- SUMMARY: A JSON document is loaded as the defaults with what it gives in their place, or refused.
import PingTun.Config.File
import PingTun.Proofs.Json.Records

/-! # Documents of configurations

What a document says of a configuration is told by its tree: which keys its objects have, what is
given under the names of the fields, and whether that is of their types. Where and how often there
are blanks, in which order the members are, and what is given under other names does not matter.
-/

namespace PingTun

open Json (Clause Value)

/-! ## Words and networks -/

namespace Json.Value

/-- A number below 2³², as it is. -/
def word32? (v : Value) : Option UInt32 :=
  v.natural?.bind fun n => if h : n < UInt32.size then some (.ofNatLT n h) else none

/-- A number below 2⁶⁴, as it is. -/
def word64? (v : Value) : Option UInt64 :=
  v.natural?.bind fun n => if h : n < UInt64.size then some (.ofNatLT n h) else none

/-- A string that spells a network. -/
def network? (v : Value) : Option Network := v.text?.bind fun cs => (Network.ofChars cs).toOption

end Json.Value

namespace Json.Reader

/-- A number that is not above the greatest word is below their count, and a word as it is. -/
theorem map_filter_le {α : Type} {size : Nat} {toWord : Nat → α} {word : (n : Nat) → n < size → α}
    (hpos : 0 < size) (h : ∀ n hn, toWord n = word n hn) (o : Option Nat) :
    (o.filter (· ≤ size - 1)).map toWord =
      o.bind fun n => if hn : n < size then some (word n hn) else none := by
  cases o with
  | none => rfl
  | some n =>
    have hle : n ≤ size - 1 ↔ n < size := Nat.le_sub_one_iff_lt hpos
    by_cases hn : n < size
    · simp [Option.filter_some, hle, hn, h n hn]
    · simp [Option.filter_some, hle, hn]

theorem takes_word32 : word32.Takes Value.word32? := by
  intro gap v rest hends
  have hle : UInt32.size - 1 ≤ greatestSignificand := by decide
  have hword (n : Nat) (hn : n < UInt32.size) : n.toUInt32 = .ofNatLT n hn :=
    (UInt32.ofNatLT_eq_ofNat ..).symm
  rw [word32, (takes_nat hle "u32").map Nat.toUInt32 gap v hends]
  exact congrArg (Option.map _) (map_filter_le (by decide) hword v.natural?)

theorem takes_word64 : word64.Takes Value.word64? := by
  intro gap v rest hends
  have hle : UInt64.size - 1 ≤ greatestSignificand := Nat.le_refl _
  have hword (n : Nat) (hn : n < UInt64.size) : n.toUInt64 = .ofNatLT n hn :=
    (UInt64.ofNatLT_eq_ofNat ..).symm
  rw [word64, (takes_nat hle "u64").map Nat.toUInt64 gap v hends]
  exact congrArg (Option.map _) (map_filter_le (by decide) hword v.natural?)

theorem takes_network : network.Takes Value.network? := by
  intro gap v rest hends
  rw [network, takes_text "a string" gap v hends, Value.network?]
  simp only [toOption_mapError]

end Json.Reader

/-! ## Records -/

namespace TunnelConfig

def clauses : List (Clause TunnelConfig) := [
  .put "first_unit" Value.word32? fun n c => { c with firstUnit := n },
  .put "unit_count" Value.word32? fun n c => { c with unitCount := n }]

/-- The tunnels that a value describes. -/
def of? : Value → Option TunnelConfig := Json.Record.of? clauses {}

theorem takes : reader.Takes of? := by
  apply Json.Reader.takes_record
  · exact .cons (Json.Field.takes_put Json.Reader.takes_word32 _ _)
      (.cons (Json.Field.takes_put Json.Reader.takes_word32 _ _) .nil)
  · exact List.pairwise_pair.mpr (Clause.independent_put (by decide) fun _ _ _ => rfl)

/-- A list that ends early leaves the other fields at their defaults. -/
example : of? (.list [] [⟨[], .number ⟨false, 3, none, none⟩, []⟩]) = some { firstUnit := 3 } := by
  decide

end TunnelConfig

namespace ProbeConfig

def clauses : List (Clause ProbeConfig) := [
  .put "simulate" Value.boolean? fun b c => { c with simulate := b },
  .put "simulated_reply_delay_ms" Value.word64? fun n c => { c with replyDelay := n },
  .put "simulated_unreachable" Value.network? fun n c => { c with unreachable := n }]

/-- The probes that a value describes. -/
def of? : Value → Option ProbeConfig := Json.Record.of? clauses {}

theorem takes : reader.Takes of? := by
  apply Json.Reader.takes_record
  · exact .cons (Json.Field.takes_put (Json.Reader.takes_bool _) _ _)
      (.cons (Json.Field.takes_put Json.Reader.takes_word64 _ _)
        (.cons (Json.Field.takes_put Json.Reader.takes_network _ _) .nil))
  · refine .cons (List.forall_mem_cons.mpr ⟨?_, List.forall_mem_singleton.mpr ?_⟩)
      (List.pairwise_pair.mpr ?_)
    all_goals exact Clause.independent_put (by decide) fun _ _ _ => rfl

end ProbeConfig

namespace Config

def clauses : List (Clause Config) := [
  .put "tunnel" TunnelConfig.of? fun t c => { c with tunnel := t },
  .put "probe" ProbeConfig.of? fun p c => { c with probe := p }]

/-- The configuration that a value describes. -/
def of? : Value → Option Config := Json.Record.of? clauses {}

theorem takes : reader.Takes of? := by
  apply Json.Reader.takes_record
  · exact .cons (Json.Field.takes_put TunnelConfig.takes _ _)
      (.cons (Json.Field.takes_put ProbeConfig.takes _ _) .nil)
  · exact List.pairwise_pair.mpr (Clause.independent_put (by decide) fun _ _ _ => rfl)

section

variable {d : Json.Document} {c : Config}

theorem load_of_described (h : of? d.value = some c) : load (.opened d.bytes) = (.ok c, []) := by
  have hread : (ofJson d.bytes).toOption = some c := (takes.document d).trans h
  cases hjson : ofJson d.bytes with
  | ok c' =>
    rw [hjson] at hread
    cases hread
    simp only [load, ofBytes, hjson]
  | error fault =>
    rw [hjson] at hread
    cases hread

theorem load_of_undescribed (h : of? d.value = none) :
    ∃ flaw position,
      load (.opened d.bytes) = (.error (.rejected flaw position), [.configRejected]) := by
  have hread : (ofJson d.bytes).toOption = none := (takes.document d).trans h
  cases hjson : ofJson d.bytes with
  | ok c =>
    rw [hjson] at hread
    cases hread
  | error fault => exact ⟨fault.flaw, fault.position d.bytes, by simp only [load, ofBytes, hjson]⟩

end

/-- A document is loaded as the configuration that it describes: the defaults, with what it gives in
place of them. If it describes none, it is refused. -/
theorem load_document (d : Json.Document) :
    match of? d.value with
    | some c => load (.opened d.bytes) = (.ok c, [])
    | none => ∃ flaw position,
        load (.opened d.bytes) = (.error (.rejected flaw position), [.configRejected]) := by
  cases hvalue : of? d.value with
  | some c => exact load_of_described hvalue
  | none => exact load_of_undescribed hvalue

/-- A member whose key is one half of a pair of surrogates. -/
def loneSurrogate : Json.Member Value where
  before := []
  key := [.unit ⟨⟨13, false⟩, ⟨8, false⟩, ⟨0, false⟩, ⟨0, false⟩⟩]
  beforeColon := []
  behindColon := []
  value := .number { isNegative := false, whole := 1, fraction := none, exponent := none }
  behind := []

/-- A key that is a string, but not a text, is not passed over as an unknown one. -/
theorem load_loneSurrogate :
    (Json.Document.mk [] (.object [] [loneSurrogate]) []).bytes =
        Text.utf8 "\x7b\"\\ud800\":1\x7d" ∧
      Json.given "tunnel" [loneSurrogate] = [] ∧ Json.given "probe" [loneSurrogate] = [] ∧
      load (.opened (Text.utf8 "\x7b\"\\ud800\":1\x7d")) ≠ (.ok {}, []) := by
  have hbytes : (Json.Document.mk [] (.object [] [loneSurrogate]) []).bytes =
      Text.utf8 "\x7b\"\\ud800\":1\x7d" := by decide
  refine ⟨hbytes, rfl, rfl, ?_⟩
  obtain ⟨flaw, position, hload⟩ :=
    load_of_undescribed (d := ⟨[], .object [] [loneSurrogate], []⟩) rfl
  rw [← hbytes, hload]
  exact fun h => nomatch congrArg Prod.fst h

end Config

end PingTun
