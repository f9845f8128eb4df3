-- SUMMARY: Loading a configuration from a file, and the ways in which that fails.
import PingTun.Config.Reader
import PingTun.Event
import PingTun.IoError

/-! # Configuration files

A file that does not exist stands for the defaults. Every other file has to hold a configuration.
-/

namespace PingTun

/-- What opening a file gives: a refusal, or the bytes read from it until its end or until reading
fails. -/
inductive File
  | refused (cause : IoError)
  | opened (bytes : List UInt8) (failure : Option Errno := none)
deriving DecidableEq, Repr

namespace Config

/-- Why no configuration was loaded: the file was refused, reading it failed, or what it holds is
no configuration. -/
inductive LoadError
  | refused (cause : IoError)
  | unreadable (cause : Errno)
  | rejected (flaw : Json.Flaw) (position : Json.Position)
deriving DecidableEq, Repr

def LoadError.message : LoadError → String
  | .refused cause => "could not read config: " ++ cause.message
  | .unreadable cause => "could not deserialize config: " ++ cause.message
  | .rejected flaw position => "could not deserialize config: " ++ flaw.messageAt position

/-- Read a configuration from bytes that end, or after which reading fails. A failure counts once
the reader gets there; a flaw in front of it is reported instead. -/
def ofBytes (bytes : List UInt8) (failure : Option Errno) : Except LoadError Config :=
  match ofJson bytes, failure with
  | .ok config, none => .ok config
  | .ok _, some cause => .error (.unreadable cause)
  | .error fault, none => .error (.rejected fault.flaw (fault.position bytes))
  | .error fault, some cause =>
    if fault.sawEnd then .error (.unreadable cause)
    else .error (.rejected fault.flaw (fault.position bytes))

/-- Load the configuration of a file, with the events that this logs. -/
def load : File → Except LoadError Config × List Event
  | .refused cause =>
    if cause.kind = .notFound then (.ok {}, [.noConfigFile]) else (.error (.refused cause), [])
  | .opened bytes failure =>
    match ofBytes bytes failure with
    | .ok config => (.ok config, [])
    | .error e => (.error e, [.configRejected])

end Config

end PingTun
