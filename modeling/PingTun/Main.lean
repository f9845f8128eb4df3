-- SUMMARY: The command line program.
import PingTun.CommandLine.Run

/-! # The program

Reads the configuration file that is asked for, runs, and prints what the run leaves. Neither raw
sockets nor tunnel devices can be opened here, and time that is waited does not pass.
-/

namespace PingTun.CommandLine

/-- The error number of a failed file operation, as far as it is known. -/
def errnoOf : IO.Error → Errno
  | .noFileOrDirectory _ code _ | .permissionDenied _ code _ | .inappropriateType _ code _ =>
    ⟨code.toNat⟩
  | _ => .inputOutput

/-- Open the file of a path and read it. A directory can be opened, but not read. -/
def readFile (path : String) : IO File := do
  try
    return .opened (← IO.FS.readBinFile path).toList
  catch e =>
    let cause := errnoOf e
    return if cause = .isADirectory then .opened [] (some cause) else .refused (.os cause)

/-- The file of the configuration that words ask for. -/
def configurationFile (words : List String) : IO File := do
  match Invocation.ofWords words with
  | .ok { config := some path, .. } => readFile path
  | _ => return .refused (.os .noSuchFile)

/-- A host that lets nobody open sockets and devices. -/
def lockedHost : Host :=
  let refusals : Refusals := {
    openRawSocket := some .notPermitted
    openTunnelDevice := some .notPermitted }
  { script := refusals.script 0 }

def surroundings : Surroundings where
  wallClock _ := .epoch
  arrivals _ := []
  lastPolls _ := 1

end PingTun.CommandLine

open PingTun PingTun.CommandLine in
def main (words : List String) : IO UInt32 := do
  let file ← configurationFile words
  let identifier ← IO.rand 0 65535
  let (outcome, _) := run surroundings (fun _ => file) identifier.toUInt16 words lockedHost
  for line in outcome.output do IO.println line
  for line in outcome.complaint do IO.eprintln line
  return outcome.exitCode
