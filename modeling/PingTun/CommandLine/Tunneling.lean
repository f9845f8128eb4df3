-- SUMMARY: The tun command: a tunnel interface that is held until the program is interrupted.
import PingTun.CommandLine.Outcome
import PingTun.Tunnel.Provisioner

namespace PingTun.CommandLine

variable {σ : Type}

/-- Set the MTU of a handle's interface if one is asked for, and describe the interface. -/
def describe (c : TunnelControl σ) (handle : TunnelHandle) (mtu : Option UInt32) :
    StateM σ (TunnelHandle × Outcome) := do
  let (failed, handle) ← match mtu with
    | none => pure (none, handle)
    | some mtu => do
      let (result, handle, _) ← c.assignMtu handle mtu
      pure (if result = 0 then some mtu else none, handle)
  match failed with
  | some mtu =>
    return (handle,
      .failure ("failed to set mtu " ++ Numeral.text mtu.toNat ++ " on " ++ handle.name))
  | none =>
    let (mtu, _) ← c.mtuOf handle
    return (handle, .success [handle.name ++ " (unit " ++ Numeral.text handle.unit.toNat ++
      ") mtu " ++ Numeral.text mtu.toNat])

/-- Hold a tunnel interface. -/
def tun (c : TunnelControl σ) (config : TunnelConfig) (mtu : Option UInt32) :
    StateM σ Outcome := do
  match ← c.create config with
  | (.error e, _) => return .failure e.message
  | (.ok handle, _) =>
    let (handle, outcome) ← describe c handle mtu
    c.drop handle
    return outcome

end PingTun.CommandLine
