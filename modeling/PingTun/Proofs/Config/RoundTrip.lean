-- SUMMARY: A configuration that is written to a file is loaded from it again.
import PingTun.Config.File
import PingTun.Proofs.Json.Objects
import PingTun.Proofs.Text.Addresses

/-! # Round trips of configurations

Every field is written, and read again as it was, so that nothing of a configuration is left to its
defaults.
-/

namespace PingTun

/-! ## Words and networks -/

/-- Nothing in the text of a network has to be escaped. -/
theorem Network.plain_of_mem_chars (n : Network) {c : Char} (h : c ∈ n.chars) : Json.Plain c := by
  have hnumeral {m : Nat} (hc : c ∈ Numeral.chars m) : Json.Plain c :=
    Json.plain_of_isDigit (Numeral.isDigit_of_mem_chars hc)
  simp only [chars, Address.chars, List.mem_append, List.mem_cons] at h
  rcases h with (h | rfl | h | rfl | h | rfl | h) | rfl | h
  · exact hnumeral h
  · decide
  · exact hnumeral h
  · decide
  · exact hnumeral h
  · decide
  · exact hnumeral h
  · decide
  · exact hnumeral h

namespace Json.Reader

theorem reads_word32 (n : UInt32) : word32.Reads (Numeral.chars n.toNat) n := by
  have hle : n.toNat ≤ UInt32.size - 1 := Nat.le_pred_of_lt n.toNat_lt_size
  have h := (reads_nat hle (by decide) "u32").map Nat.toUInt32
  rwa [Nat.toUInt32_eq, UInt32.ofNat_toNat] at h

theorem reads_word64 (n : UInt64) : word64.Reads (Numeral.chars n.toNat) n := by
  have hle : n.toNat ≤ UInt64.size - 1 := Nat.le_pred_of_lt n.toNat_lt_size
  have h := (reads_nat hle (Nat.le_refl _) "u64").map Nat.toUInt64
  rwa [Nat.toUInt64_eq, UInt64.ofNat_toNat] at h

theorem reads_network (n : Network) : network.Reads (Json.plainTextChars n.chars) n := by
  apply reads_text fun c => n.plain_of_mem_chars
  rw [Network.ofChars_chars]
  rfl

end Json.Reader

/-! ## Records -/

open Json (Changes)

theorem TunnelConfig.reads (c : TunnelConfig) : reader.Reads c.jsonChars c := by
  apply Json.Reader.reads_record
  refine .put (Json.plain_of_all rfl) rfl (by decide) (Json.Reader.reads_word32 c.firstUnit) ?_
  refine .put (Json.plain_of_all rfl) rfl (by decide) (Json.Reader.reads_word32 c.unitCount) ?_
  exact .nil

theorem ProbeConfig.reads (c : ProbeConfig) : reader.Reads c.jsonChars c := by
  apply Json.Reader.reads_record
  refine .put (Json.plain_of_all rfl) rfl (by decide) (Json.Reader.reads_bool c.simulate _) ?_
  refine .put (Json.plain_of_all rfl) rfl (by decide) (Json.Reader.reads_word64 c.replyDelay) ?_
  refine .put (Json.plain_of_all rfl) rfl (by decide) (Json.Reader.reads_network c.unreachable) ?_
  exact .nil

namespace Config

theorem reads (c : Config) : reader.Reads c.jsonChars c := by
  apply Json.Reader.reads_record
  refine .put (Json.plain_of_all rfl) rfl (by decide) c.tunnel.reads ?_
  refine .put (Json.plain_of_all rfl) rfl (by decide) c.probe.reads ?_
  exact .nil

/-- A file that holds a configuration as it is written is loaded as that configuration, without a
word, whatever its values are. So no two configurations are written alike. -/
theorem load_json (c : Config) :
    load (.opened (Text.utf8 c.json)) = (.ok c, []) ∧ ∀ d : Config, c.json = d.json → c = d := by
  have hload (d : Config) : load (.opened (Text.utf8 d.json)) = (.ok d, []) := by
    have hread : ofJson (Text.bytes d.jsonChars) = .ok d := d.reads.document
    simp only [load, ofBytes, json, Text.utf8_ofList, hread]
  refine ⟨hload c, fun d hsame => ?_⟩
  have hc := hload c
  rw [hsame, hload d] at hc
  exact (Except.ok.inj (congrArg Prod.fst hc)).symm

end Config

end PingTun
