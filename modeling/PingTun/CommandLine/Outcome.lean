-- SUMMARY: What a run of the program leaves: its exit code and what it wrote.
import PingTun.CommandLine.Arguments

namespace PingTun.CommandLine

structure Outcome where
  exitCode : UInt32
  /-- The lines of the standard output. -/
  output : List String := []
  /-- What is written to the standard error, line by line. -/
  complaint : List String := []
deriving DecidableEq, Repr

namespace Outcome

def success (output : List String) : Outcome := { exitCode := 0, output }

/-- A text with all its lines indented. -/
def indented (text : String) : String :=
  String.ofList ("    ".toList ++ text.toList.flatMap fun c => if c = '\n' then "\n    ".toList else [c])

def failure (message : String) : Outcome :=
  { exitCode := 1, complaint := ["Error: " ++ message] }

/-- A failure with what caused it. -/
def failureBecause (message cause : String) : Outcome :=
  { exitCode := 1, complaint := ["Error: " ++ message, "", "Caused by:", indented cause] }

/-- A command line that holds no command. -/
def ofStop : Stop → Outcome
  | .help scope => success [scope.usage]
  | .mistake cause => { exitCode := 2, complaint := [cause.message] }

end Outcome

end PingTun.CommandLine
