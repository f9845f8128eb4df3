-- SUMMARY: The words of a command line, read as a command with its arguments.
import PingTun.Address
import PingTun.Text.Numeral
import PingTun.Text.Terminal

/-! # Arguments

Words are read from left to right. An option takes its value from its own word, behind an equals
sign, or from the next word, unless that looks like an option itself. A value in a word of its own
is only checked when the reading gets past it: with the next option or argument that is accepted,
or at the end. So it can be the later of two mistakes that is reported.
-/

namespace PingTun.CommandLine

open Text.Terminal (strip)

/-! ## Options -/

inductive Subcommand
  | ping
  | tun
deriving DecidableEq, Repr

/-- Where words are read: in front of a subcommand, or behind it. -/
inductive Scope
  | top
  | behind (subcommand : Subcommand)
deriving DecidableEq, Repr

/-- An option with a value. -/
inductive Setting
  | config
  | count
  | payloadSize
  | wait
  | mtu
deriving DecidableEq, Repr

/-- An option without a value. -/
inductive Switch
  | dontFragment
  | simulate
  | help
deriving DecidableEq, Repr

def Setting.name : Setting → String
  | .config => "config"
  | .count => "count"
  | .payloadSize => "payload-size"
  | .wait => "wait-ms"
  | .mtu => "mtu"

/-- An option as errors call it. -/
def Setting.usage : Setting → String
  | .config => "--config <CONFIG>"
  | .count => "--count <COUNT>"
  | .payloadSize => "--payload-size <PAYLOAD_SIZE>"
  | .wait => "--wait-ms <WAIT_MS>"
  | .mtu => "--mtu <MTU>"

def Switch.name : Switch → String
  | .dontFragment => "dont-fragment"
  | .simulate => "simulate"
  | .help => "help"

def Switch.usage (s : Switch) : String := "--" ++ s.name

def Subcommand.ofWord? : String → Option Subcommand
  | "ping" => some .ping
  | "tun" => some .tun
  | _ => none

namespace Scope

def settings : Scope → List Setting
  | .top => [.config]
  | .behind .ping => [.count, .payloadSize, .wait, .config]
  | .behind .tun => [.mtu, .config]

def switches : Scope → List Switch
  | .behind .ping => [.dontFragment, .simulate, .help]
  | _ => [.help]

/-- What a word opens, if it is read where subcommands are. -/
inductive Opening
  | subcommand (subcommand : Subcommand)
  | help
deriving DecidableEq, Repr

/-- What a word opens. Only in front of a subcommand is there anything to open. -/
def opening? : Scope → String → Option Opening
  | .top, "help" => some .help
  | .top, word => (Subcommand.ofWord? word).map .subcommand
  | .behind _, _ => none

def usage : Scope → String
  | .top => "Usage: netprim [OPTIONS] <COMMAND>"
  | .behind .ping => "Usage: netprim ping [OPTIONS] <ADDRESS>"
  | .behind .tun => "Usage: netprim tun [OPTIONS]"

end Scope

/-! ## Commands -/

structure PingArguments where
  address : Address
  count : UInt32 := 3
  payloadSize : UInt64 := 56
  dontFragment : Bool := false
  simulate : Bool := false
  /-- How long to wait for replies after each request, in milliseconds. -/
  wait : UInt64 := 1000
deriving DecidableEq, Repr

inductive Command
  | ping (arguments : PingArguments)
  | tun (mtu : Option UInt32)
deriving DecidableEq, Repr

/-- What a command line asks for. -/
structure Invocation where
  config : Option String
  command : Command
deriving DecidableEq, Repr

/-! ## Mistakes -/

inductive Mistake
  | valueMissing (setting : Setting)
  | repeated (option : String)
  | invalidValue (value : String) (argument : String) (reason : String)
  | unexpectedArgument (word : String)
  | unexpectedValue (value : String) (switch : Switch)
  | unknownSubcommand (word : String)
  | addressMissing
  | subcommandMissing
  | nothingGiven
deriving DecidableEq, Repr

/-- Words of the command line are quoted without what a terminal would obey. -/
def Mistake.message : Mistake → String
  | .valueMissing setting =>
    "error: a value is required for '" ++ setting.usage ++ "' but none was supplied"
  | .repeated option => "error: the argument '" ++ option ++ "' cannot be used multiple times"
  | .invalidValue value argument reason =>
    "error: invalid value '" ++ strip value ++ "' for '" ++ argument ++ "': " ++ reason
  | .unexpectedArgument word => "error: unexpected argument '" ++ strip word ++ "' found"
  | .unexpectedValue value switch =>
    "error: unexpected value '" ++ strip value ++ "' for '" ++ switch.usage ++
      "' found; no more were expected"
  | .unknownSubcommand word => "error: unrecognized subcommand '" ++ strip word ++ "'"
  | .addressMissing => "error: the following required arguments were not provided:"
  | .subcommandMissing => "error: 'netprim' requires a subcommand but one was not provided"
  | .nothingGiven => Scope.top.usage

/-- Why reading ends without a command. -/
inductive Stop
  | help (scope : Scope)
  | mistake (cause : Mistake)
deriving DecidableEq, Repr

/-! ## Values -/

/-- The arguments that have been accepted. -/
structure Given where
  config : Option String := none
  address : Option Address := none
  count : Option UInt32 := none
  payloadSize : Option UInt64 := none
  wait : Option UInt64 := none
  mtu : Option UInt32 := none
  dontFragment : Bool := false
  simulate : Bool := false
deriving DecidableEq, Repr

/-- Read a number of 32 bits, as a signed one of 64 bits whose range is checked afterwards. -/
def word32? (setting : Setting) (value : String) : Except Stop UInt32 :=
  let invalid (reason : String) : Except Stop UInt32 :=
    .error (.mistake (.invalidValue value setting.usage reason))
  match Numeral.readInt (UInt64.size / 2 - 1) value.toList with
  | .error flaw => invalid flaw.message
  | .ok n =>
    if 0 ≤ n ∧ n < UInt32.size then .ok n.toNat.toUInt32
    else
      let sign := if n < 0 then "-" else ""
      invalid (sign ++ Numeral.text n.natAbs ++ " is not in 0..=4294967295")

/-- Read a number of 64 bits. -/
def word64? (setting : Setting) (value : String) : Except Stop UInt64 :=
  match Numeral.readNat (UInt64.size - 1) value.toList with
  | .error flaw => .error (.mistake (.invalidValue value setting.usage flaw.message))
  | .ok n => .ok n.toUInt64

/-- Read a path, which can not be empty. -/
def path? (setting : Setting) (value : String) : Except Stop String :=
  if value.isEmpty then .error (.mistake (.valueMissing setting)) else .ok value

namespace Given

def has (g : Given) : Setting → Bool
  | .config => g.config.isSome
  | .count => g.count.isSome
  | .payloadSize => g.payloadSize.isSome
  | .wait => g.wait.isSome
  | .mtu => g.mtu.isSome

/-- Accept the value of an option, which may be given once. -/
def assign (g : Given) (setting : Setting) (value : String) : Except Stop Given := do
  if g.has setting then throw (.mistake (.repeated setting.usage))
  match setting with
  | .config => return { g with config := some (← path? setting value) }
  | .count => return { g with count := some (← word32? setting value) }
  | .payloadSize => return { g with payloadSize := some (← word64? setting value) }
  | .wait => return { g with wait := some (← word64? setting value) }
  | .mtu => return { g with mtu := some (← word32? setting value) }

def assignAddress (g : Given) (value : String) : Except Stop Given :=
  match Address.ofString? value with
  | some address => .ok { g with address := some address }
  | none =>
    .error (.mistake (.invalidValue value "<ADDRESS>" "invalid IPv4 address syntax"))

/-- Accept an option without a value, which may be given once. -/
def switchOn (g : Given) (scope : Scope) (switch : Switch) : Except Stop Given :=
  let once (given : Bool) (g : Given) : Except Stop Given :=
    if given then .error (.mistake (.repeated switch.usage)) else .ok g
  match switch with
  | .help => .error (.help scope)
  | .dontFragment => once g.dontFragment { g with dontFragment := true }
  | .simulate => once g.simulate { g with simulate := true }

end Given

/-! ## Reading -/

/-- What was read last and is still to be checked. -/
inductive Pending
  | option (setting : Setting) (value : Option String)
  | address (value : String)
deriving DecidableEq, Repr

structure Reading where
  given : Given := {}
  pending : Option Pending := none
  /-- Whether the place of the address is taken. -/
  addressTaken : Bool := false
  /-- Whether options are no longer looked for. -/
  literal : Bool := false
deriving DecidableEq, Repr

namespace Reading

/-- The option that takes the next word for its value. -/
def awaiting (r : Reading) : Option Setting :=
  match r.pending with
  | some (.option setting none) => some setting
  | _ => none

/-- Check what is pending. -/
def settle (r : Reading) : Except Stop Reading := do
  match r.pending with
  | none => return r
  | some (.option setting none) => throw (.mistake (.valueMissing setting))
  | some (.option setting (some value)) =>
    return { r with given := ← r.given.assign setting value, pending := none }
  | some (.address value) =>
    return { r with given := ← r.given.assignAddress value, pending := none }

/-- A name and, behind the first equals sign, a value. -/
def splitValue (chars : List Char) : String × Option String :=
  let name := chars.takeWhile (· != '=')
  match chars.drop name.length with
  | [] => (String.ofList name, none)
  | _ :: value => (String.ofList name, some (String.ofList value))

/-- Read an option, without the dashes. -/
def option (scope : Scope) (chars : List Char) (r : Reading) : Except Stop Reading := do
  let (name, value) := splitValue chars
  match scope.settings.find? (·.name == name), scope.switches.find? (·.name == name), value with
  | some setting, _, some value =>
    let r ← r.settle
    return { r with given := ← r.given.assign setting value }
  | some setting, _, none => return { ← r.settle with pending := some (.option setting none) }
  | none, some switch, some value => throw (.mistake (.unexpectedValue value switch))
  | none, some switch, none =>
    let r ← r.settle
    return { r with given := ← r.given.switchOn scope switch }
  | none, none, _ => throw (.mistake (.unexpectedArgument ("--" ++ name)))

/-- Read a word with a single dash, of which only the first letter matters. -/
def letter (scope : Scope) (c : Char) (r : Reading) : Except Stop Reading := do
  if c = 'h' then
    let _ ← r.settle
    throw (.help scope)
  else throw (.mistake (.unexpectedArgument (String.ofList ['-', c])))

/-- Read a word that is no option and no subcommand. -/
def argument (scope : Scope) (word : String) (r : Reading) : Except Stop Reading := do
  match scope with
  | .behind .ping =>
    if r.addressTaken then throw (.mistake (.unexpectedArgument word))
    return { ← r.settle with pending := some (.address word), addressTaken := true }
  | .behind .tun => throw (.mistake (.unexpectedArgument word))
  | .top =>
    if (scope.opening? word).isSome then throw (.mistake (.unexpectedArgument word))
    throw (.mistake (.unknownSubcommand word))

/-- Read a word that does not open a subcommand. -/
def word (scope : Scope) (word : String) (r : Reading) : Except Stop Reading :=
  if r.literal then r.argument scope word
  else
    match word.toList with
    | ['-', '-'] => .ok { r with literal := true }
    | '-' :: '-' :: chars => r.option scope chars
    | '-' :: c :: _ => r.letter scope c
    | _ =>
      match r.awaiting with
      | some setting => .ok { r with pending := some (.option setting (some word)) }
      | none => r.argument scope word

/-- What a word opens here. It opens nothing if it is an option's value or read literally. -/
def opening? (r : Reading) (scope : Scope) (word : String) : Option Scope.Opening :=
  if r.literal || r.awaiting.isSome then none else scope.opening? word

end Reading

/-- What comes of asking for help on what further words say. -/
def helpOn (scope : Scope) : List String → Stop
  | [] => .help scope
  | word :: rest =>
    match scope.opening? word with
    | none => .mistake (.unknownSubcommand word)
    | some (.subcommand subcommand) => helpOn (.behind subcommand) rest
    | some .help =>
      match rest with
      | [] => .help scope
      | next :: _ => .mistake (.unknownSubcommand next)

/-- Read words up to the end, or up to one that opens a subcommand. What is behind it is left. -/
def readWords (scope : Scope) :
    List String → Reading → Except Stop (Reading × Option (Subcommand × List String))
  | [], r => .ok (r, none)
  | word :: rest, r =>
    match r.opening? scope word with
    | some (.subcommand subcommand) => .ok (r, some (subcommand, rest))
    | some .help => .error (helpOn scope rest)
    | none => do readWords scope rest (← r.word scope word)

/-! ## Commands from what was given -/

/-- The arguments of a ping, with defaults for what was not given. -/
def Given.ping (g : Given) (address : Address) : PingArguments :=
  let defaults : PingArguments := { address }
  { address
    count := g.count.getD defaults.count
    payloadSize := g.payloadSize.getD defaults.payloadSize
    dontFragment := g.dontFragment
    simulate := g.simulate
    wait := g.wait.getD defaults.wait }

def Given.command (g : Given) : Subcommand → Except Stop Command
  | .tun => .ok (.tun g.mtu)
  | .ping =>
    match g.address with
    | some address => .ok (.ping (g.ping address))
    | none => .error (.mistake .addressMissing)

/-- Read a command line. What is pending in front of the subcommand is checked last, and a
configuration named behind it counts more than one in front of it. -/
def Invocation.ofWords (words : List String) : Except Stop Invocation := do
  match ← readWords .top words {} with
  | (front, none) =>
    let front ← front.settle
    throw (.mistake (if front.given.config.isSome then .subcommandMissing else .nothingGiven))
  | (front, some (subcommand, rest)) =>
    let (reading, _) ← readWords (.behind subcommand) rest {}
    let reading ← reading.settle
    let command ← reading.given.command subcommand
    let front ← front.settle
    return { config := reading.given.config.orElse fun _ => front.given.config, command }

end PingTun.CommandLine
