-- SUMMARY: Configurations as compact JSON.
import PingTun.Config.Basic

namespace PingTun

/-- An object of members whose values are already written. -/
def Json.objectChars (members : List (String × List Char)) : List Char :=
  let member (m : String × List Char) : List Char := '"' :: (m.1.toList ++ '"' :: ':' :: m.2)
  '\x7b' :: ([','].intercalate (members.map member) ++ ['\x7d'])

def Json.boolChars (b : Bool) : List Char := (if b then "true" else "false").toList

/-- A text none of whose characters has to be escaped. -/
def Json.plainTextChars (cs : List Char) : List Char := '"' :: (cs ++ ['"'])

namespace TunnelConfig

def jsonChars (c : TunnelConfig) : List Char :=
  Json.objectChars [
    ("first_unit", Numeral.chars c.firstUnit.toNat),
    ("unit_count", Numeral.chars c.unitCount.toNat)]

end TunnelConfig

namespace ProbeConfig

def jsonChars (c : ProbeConfig) : List Char :=
  Json.objectChars [
    ("simulate", Json.boolChars c.simulate),
    ("simulated_reply_delay_ms", Numeral.chars c.replyDelay.toNat),
    ("simulated_unreachable", Json.plainTextChars c.unreachable.chars)]

end ProbeConfig

namespace Config

def jsonChars (c : Config) : List Char :=
  Json.objectChars [("tunnel", c.tunnel.jsonChars), ("probe", c.probe.jsonChars)]

/-- The configuration as JSON without blanks, its fields in the order of their declaration. -/
def json (c : Config) : String := String.ofList c.jsonChars

end Config

end PingTun
