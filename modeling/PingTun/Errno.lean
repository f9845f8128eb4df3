-- SUMMARY: Error numbers of system calls: their texts and the kinds of failure they stand for.
import PingTun.Text.Numeral

/-! # Error numbers

What a system call that fails reports. Each number has a text, and belongs to a kind of failure
that callers tell apart; most numbers belong to none in particular.
-/

namespace PingTun

/-- The number that a failed system call reports. -/
structure Errno where
  code : Nat
deriving DecidableEq, Repr, Inhabited

/-- Kinds of failure of input and output. -/
inductive ErrorKind
  | addrInUse
  | addrNotAvailable
  | alreadyExists
  | argumentListTooLong
  | brokenPipe
  | connectionAborted
  | connectionRefused
  | connectionReset
  | crossesDevices
  | deadlock
  | directoryNotEmpty
  | executableFileBusy
  | fileTooLarge
  | filesystemLoop
  | hostUnreachable
  | inProgress
  | inputOutputError
  | interrupted
  | invalidData
  | invalidFilename
  | invalidInput
  | isADirectory
  | networkDown
  | networkUnreachable
  | notADirectory
  | notConnected
  | notFound
  | notSeekable
  | outOfMemory
  | permissionDenied
  | quotaExceeded
  | readOnlyFilesystem
  | resourceBusy
  | staleNetworkFileHandle
  | storageFull
  | timedOut
  | tooManyLinks
  | tooManyOpenFiles
  | uncategorized
  | unsupported
  | wouldBlock
deriving DecidableEq, Repr

def ErrorKind.name : ErrorKind → String
  | .addrInUse => "AddrInUse"
  | .addrNotAvailable => "AddrNotAvailable"
  | .alreadyExists => "AlreadyExists"
  | .argumentListTooLong => "ArgumentListTooLong"
  | .brokenPipe => "BrokenPipe"
  | .connectionAborted => "ConnectionAborted"
  | .connectionRefused => "ConnectionRefused"
  | .connectionReset => "ConnectionReset"
  | .crossesDevices => "CrossesDevices"
  | .deadlock => "Deadlock"
  | .directoryNotEmpty => "DirectoryNotEmpty"
  | .executableFileBusy => "ExecutableFileBusy"
  | .fileTooLarge => "FileTooLarge"
  | .filesystemLoop => "FilesystemLoop"
  | .hostUnreachable => "HostUnreachable"
  | .inProgress => "InProgress"
  | .inputOutputError => "InputOutputError"
  | .interrupted => "Interrupted"
  | .invalidData => "InvalidData"
  | .invalidFilename => "InvalidFilename"
  | .invalidInput => "InvalidInput"
  | .isADirectory => "IsADirectory"
  | .networkDown => "NetworkDown"
  | .networkUnreachable => "NetworkUnreachable"
  | .notADirectory => "NotADirectory"
  | .notConnected => "NotConnected"
  | .notFound => "NotFound"
  | .notSeekable => "NotSeekable"
  | .outOfMemory => "OutOfMemory"
  | .permissionDenied => "PermissionDenied"
  | .quotaExceeded => "QuotaExceeded"
  | .readOnlyFilesystem => "ReadOnlyFilesystem"
  | .resourceBusy => "ResourceBusy"
  | .staleNetworkFileHandle => "StaleNetworkFileHandle"
  | .storageFull => "StorageFull"
  | .timedOut => "TimedOut"
  | .tooManyLinks => "TooManyLinks"
  | .tooManyOpenFiles => "TooManyOpenFiles"
  | .uncategorized => "Uncategorized"
  | .unsupported => "Unsupported"
  | .wouldBlock => "WouldBlock"

namespace Errno

/-! ## Numbers the library itself speaks of -/

def notPermitted : Errno := ⟨1⟩

def noSuchFile : Errno := ⟨2⟩

def inputOutput : Errno := ⟨5⟩

/-- The call would have to wait. -/
def again : Errno := ⟨11⟩

def busy : Errno := ⟨16⟩

def noSuchDevice : Errno := ⟨19⟩

def notADirectory : Errno := ⟨20⟩

def isADirectory : Errno := ⟨21⟩

def nameTooLong : Errno := ⟨36⟩

/-- More symbolic links in a row than are followed. -/
def linkLoop : Errno := ⟨40⟩

/-! ## Kinds -/

def kind (e : Errno) : ErrorKind :=
  match e.code with
  | 1 => .permissionDenied
  | 2 => .notFound
  | 4 => .interrupted
  | 5 => .inputOutputError
  | 7 => .argumentListTooLong
  | 11 => .wouldBlock
  | 12 => .outOfMemory
  | 13 => .permissionDenied
  | 16 => .resourceBusy
  | 17 => .alreadyExists
  | 18 => .crossesDevices
  | 20 => .notADirectory
  | 21 => .isADirectory
  | 22 => .invalidInput
  | 23 | 24 => .tooManyOpenFiles
  | 26 => .executableFileBusy
  | 27 => .fileTooLarge
  | 28 => .storageFull
  | 29 => .notSeekable
  | 30 => .readOnlyFilesystem
  | 31 => .tooManyLinks
  | 32 => .brokenPipe
  | 35 => .deadlock
  | 36 => .invalidFilename
  | 38 => .unsupported
  | 39 => .directoryNotEmpty
  | 40 => .filesystemLoop
  | 95 => .unsupported
  | 98 => .addrInUse
  | 99 => .addrNotAvailable
  | 100 => .networkDown
  | 101 => .networkUnreachable
  | 103 => .connectionAborted
  | 104 => .connectionReset
  | 107 => .notConnected
  | 110 => .timedOut
  | 111 => .connectionRefused
  | 113 => .hostUnreachable
  | 115 => .inProgress
  | 116 => .staleNetworkFileHandle
  | 122 => .quotaExceeded
  | _ => .uncategorized

/-! ## Texts -/

/-- The text of an error number, if it has one. -/
def description? (e : Errno) : Option String :=
  match e.code with
  | 0 => some "Success"
  | 1 => some "Operation not permitted"
  | 2 => some "No such file or directory"
  | 3 => some "No such process"
  | 4 => some "Interrupted system call"
  | 5 => some "Input/output error"
  | 6 => some "No such device or address"
  | 7 => some "Argument list too long"
  | 8 => some "Exec format error"
  | 9 => some "Bad file descriptor"
  | 10 => some "No child processes"
  | 11 => some "Resource temporarily unavailable"
  | 12 => some "Cannot allocate memory"
  | 13 => some "Permission denied"
  | 14 => some "Bad address"
  | 15 => some "Block device required"
  | 16 => some "Device or resource busy"
  | 17 => some "File exists"
  | 18 => some "Invalid cross-device link"
  | 19 => some "No such device"
  | 20 => some "Not a directory"
  | 21 => some "Is a directory"
  | 22 => some "Invalid argument"
  | 23 => some "Too many open files in system"
  | 24 => some "Too many open files"
  | 25 => some "Inappropriate ioctl for device"
  | 26 => some "Text file busy"
  | 27 => some "File too large"
  | 28 => some "No space left on device"
  | 29 => some "Illegal seek"
  | 30 => some "Read-only file system"
  | 31 => some "Too many links"
  | 32 => some "Broken pipe"
  | 33 => some "Numerical argument out of domain"
  | 34 => some "Numerical result out of range"
  | 35 => some "Resource deadlock avoided"
  | 36 => some "File name too long"
  | 37 => some "No locks available"
  | 38 => some "Function not implemented"
  | 39 => some "Directory not empty"
  | 40 => some "Too many levels of symbolic links"
  | 42 => some "No message of desired type"
  | 43 => some "Identifier removed"
  | 44 => some "Channel number out of range"
  | 45 => some "Level 2 not synchronized"
  | 46 => some "Level 3 halted"
  | 47 => some "Level 3 reset"
  | 48 => some "Link number out of range"
  | 49 => some "Protocol driver not attached"
  | 50 => some "No CSI structure available"
  | 51 => some "Level 2 halted"
  | 52 => some "Invalid exchange"
  | 53 => some "Invalid request descriptor"
  | 54 => some "Exchange full"
  | 55 => some "No anode"
  | 56 => some "Invalid request code"
  | 57 => some "Invalid slot"
  | 59 => some "Bad font file format"
  | 60 => some "Device not a stream"
  | 61 => some "No data available"
  | 62 => some "Timer expired"
  | 63 => some "Out of streams resources"
  | 64 => some "Machine is not on the network"
  | 65 => some "Package not installed"
  | 66 => some "Object is remote"
  | 67 => some "Link has been severed"
  | 68 => some "Advertise error"
  | 69 => some "Srmount error"
  | 70 => some "Communication error on send"
  | 71 => some "Protocol error"
  | 72 => some "Multihop attempted"
  | 73 => some "RFS specific error"
  | 74 => some "Bad message"
  | 75 => some "Value too large for defined data type"
  | 76 => some "Name not unique on network"
  | 77 => some "File descriptor in bad state"
  | 78 => some "Remote address changed"
  | 79 => some "Can not access a needed shared library"
  | 80 => some "Accessing a corrupted shared library"
  | 81 => some ".lib section in a.out corrupted"
  | 82 => some "Attempting to link in too many shared libraries"
  | 83 => some "Cannot exec a shared library directly"
  | 84 => some "Invalid or incomplete multibyte or wide character"
  | 85 => some "Interrupted system call should be restarted"
  | 86 => some "Streams pipe error"
  | 87 => some "Too many users"
  | 88 => some "Socket operation on non-socket"
  | 89 => some "Destination address required"
  | 90 => some "Message too long"
  | 91 => some "Protocol wrong type for socket"
  | 92 => some "Protocol not available"
  | 93 => some "Protocol not supported"
  | 94 => some "Socket type not supported"
  | 95 => some "Operation not supported"
  | 96 => some "Protocol family not supported"
  | 97 => some "Address family not supported by protocol"
  | 98 => some "Address already in use"
  | 99 => some "Cannot assign requested address"
  | 100 => some "Network is down"
  | 101 => some "Network is unreachable"
  | 102 => some "Network dropped connection on reset"
  | 103 => some "Software caused connection abort"
  | 104 => some "Connection reset by peer"
  | 105 => some "No buffer space available"
  | 106 => some "Transport endpoint is already connected"
  | 107 => some "Transport endpoint is not connected"
  | 108 => some "Cannot send after transport endpoint shutdown"
  | 109 => some "Too many references: cannot splice"
  | 110 => some "Connection timed out"
  | 111 => some "Connection refused"
  | 112 => some "Host is down"
  | 113 => some "No route to host"
  | 114 => some "Operation already in progress"
  | 115 => some "Operation now in progress"
  | 116 => some "Stale file handle"
  | 117 => some "Structure needs cleaning"
  | 118 => some "Not a XENIX named type file"
  | 119 => some "No XENIX semaphores available"
  | 120 => some "Is a named type file"
  | 121 => some "Remote I/O error"
  | 122 => some "Disk quota exceeded"
  | 123 => some "No medium found"
  | 124 => some "Wrong medium type"
  | 125 => some "Operation canceled"
  | 126 => some "Required key not available"
  | 127 => some "Key has expired"
  | 128 => some "Key has been revoked"
  | 129 => some "Key was rejected by service"
  | 130 => some "Owner died"
  | 131 => some "State not recoverable"
  | 132 => some "Operation not possible due to RF-kill"
  | 133 => some "Memory page has hardware error"
  | _ => none

/-- The text of an error number, followed by the number. -/
def message (e : Errno) : String :=
  let number := Numeral.text e.code
  let description := e.description?.getD ("Unknown error " ++ number)
  description ++ " (os error " ++ number ++ ")"

end Errno

end PingTun
