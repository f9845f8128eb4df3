-- SUMMARY: A run of the program, from the words of its command line to what it leaves.
import PingTun.CommandLine.Pinging
import PingTun.CommandLine.Tunneling
import PingTun.Config.File
import PingTun.Tunnel.Linux

namespace PingTun.CommandLine

/-- The configuration that is asked for, or the defaults. -/
def configuration (files : String → File) : Option String → Except Outcome Config
  | none => .ok {}
  | some path =>
    match (Config.load (files path)).1 with
    | .ok config => .ok config
    | .error e => .error (.failureBecause ("failed to load config " ++ path) e.message)

/-- Run the program where paths lead to given files. -/
def run (s : Surroundings) (files : String → File) (identifier : UInt16) (words : List String) :
    StateM Host Outcome := do
  match Invocation.ofWords words with
  | .error stop => return .ofStop stop
  | .ok invocation =>
    match configuration files invocation.config with
    | .error outcome => return outcome
    | .ok config =>
      match invocation.command with
      | .ping a => ping s config.probe identifier a
      | .tun mtu => tun Linux.control config.tunnel mtu

end PingTun.CommandLine
