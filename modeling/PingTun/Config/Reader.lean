-- SUMMARY: Readers of configurations.
import PingTun.Config.Basic
import PingTun.Json.Reader

/-! # Reading configurations

The fields of each record with the readers of their values. What does not occur keeps its default.
-/

namespace PingTun

/-! ## Words and networks -/

def Json.Reader.word32 : Json.Reader UInt32 :=
  (Json.Reader.nat (UInt32.size - 1) "u32").map Nat.toUInt32

def Json.Reader.word64 : Json.Reader UInt64 :=
  (Json.Reader.nat (UInt64.size - 1) "u64").map Nat.toUInt64

def Json.Reader.network : Json.Reader Network :=
  Json.Reader.text "a string" fun cs => (Network.ofChars cs).mapError .badNetwork

/-! ## Records -/

namespace TunnelConfig

def fields : List (Json.Field TunnelConfig) := [
  ⟨"first_unit", Json.Reader.word32.map fun n c => { c with firstUnit := n }⟩,
  ⟨"unit_count", Json.Reader.word32.map fun n c => { c with unitCount := n }⟩]

def reader : Json.Reader TunnelConfig := .record "struct TunnelConfig" fields {}

end TunnelConfig

namespace ProbeConfig

def fields : List (Json.Field ProbeConfig) := [
  ⟨"simulate", (Json.Reader.bool "a boolean").map fun b c => { c with simulate := b }⟩,
  ⟨"simulated_reply_delay_ms",
    Json.Reader.word64.map fun n c => { c with replyDelay := n }⟩,
  ⟨"simulated_unreachable", Json.Reader.network.map fun n c => { c with unreachable := n }⟩]

def reader : Json.Reader ProbeConfig := .record "struct ProbeConfig" fields {}

end ProbeConfig

namespace Config

def fields : List (Json.Field Config) := [
  ⟨"tunnel", TunnelConfig.reader.map fun t c => { c with tunnel := t }⟩,
  ⟨"probe", ProbeConfig.reader.map fun p c => { c with probe := p }⟩]

def reader : Json.Reader Config := .record "struct Config" fields {}

/-- The configuration that a document holds. -/
def ofJson (document : List UInt8) : Except Json.Fault Config := reader.document document

end Config

end PingTun
