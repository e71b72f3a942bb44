/-
# Errors

Everything that can go wrong, by cause.  Each error has one wording; some have a further cause of
their own, which is worded separately.
-/
import MemWatch.Entry.Parser
import MemWatch.OsError
import MemWatch.PointerWidth

namespace MemWatch

/-! ## System errors -/

/-- A failure that the system or a sink reports. -/
inductive SystemError where
  /-- An operating system error number, with the text that the system has for it. -/
  | os (code : OsCode) (text : String := code.description)
  | permissionDenied
  | notFound
  | unexpectedEnd
  | outOfMemory
  /-- A failure with a wording of its own. -/
  | other (text : String)
deriving DecidableEq, Repr

namespace SystemError

/-- The wording of a system error. -/
def message : SystemError → String
  | os code text => code.message text
  | permissionDenied => "permission denied"
  | notFound => "entity not found"
  | unexpectedEnd => "unexpected end of file"
  | outOfMemory => "out of memory"
  | other text => text

/-- The operating system error number, if there is one. -/
def osCode? : SystemError → Option OsCode
  | os code _ => some code
  | _ => none

end SystemError

/-! ## Argument errors -/

/-- What is wrong with a command line apart from the process and the addresses. -/
inductive UsageError where
  /-- An argument that looks like a switch and is none, as it is shown to the user. -/
  | unexpected (shown : String)
  /-- A switch that is given more than once. -/
  | repeated (name : String)
  /-- There is no process to attach to. -/
  | noProcess
  /-- Any other complaint. -/
  | other (text : String)
deriving DecidableEq, Repr

/-- The wording of a usage error. -/
def UsageError.message : UsageError → String
  | unexpected shown =>
    "error: Found argument '" ++ shown ++
      "' which wasn't expected, or isn't valid in this context"
  | repeated name =>
    "error: The argument '--" ++ name ++
      "' was provided more than once, but cannot be used multiple times"
  | noProcess => "no process specified"
  | other text => text

/-! ## All errors -/

/-- A process id. -/
abbrev ProcessId := Nat

/-- The reason why something failed. -/
inductive Error where
  | system (cause : SystemError)
  /-- Processes are out of reach on this host. -/
  | unsupported
  | invalidArguments (cause : UsageError)
  | invalidProcessId (text : String)
  /-- A process id was given to be launched. -/
  | launchProcessId
  | parse (token : String) (cause : ParseError)
  /-- Entry `id` references `target`, and there are only `count` entries. -/
  | referenceOutOfRange (id target : RefId) (count : Nat)
  | referenceCycle (id : RefId)
  | processNotFound (name : String)
  | openProcess (pid : ProcessId) (cause : SystemError)
  | launch (path : String) (cause : SystemError)
  | processExited
  | missingMainModule
  | readUnderflow (address : Address)
  | writeUnderflow (address : Address)
  | invalidTime
  | addressConversion
  | addressFromText
deriving DecidableEq, Repr

namespace Error

/-- The wording of an error. -/
def message : Error → String
  | system cause => "system error: " ++ cause.message
  | unsupported => "process memory access is not supported on this platform"
  | invalidArguments cause => cause.message
  | invalidProcessId text => "invalid process id: " ++ text
  | launchProcessId => "attempted to launch a process id"
  | parse token _ => "invalid address argument: " ++ token
  | referenceOutOfRange id target count =>
    "entry " ++ id.text ++ " references " ++ target.text ++ ", but only " ++
      Numeral.decimal count ++ " addresses were specified"
  | referenceCycle id => "entry " ++ id.text ++ " is part of a reference cycle"
  | processNotFound name => "can't find a running process `" ++ name ++ "`"
  | openProcess pid _ => "failed to open process " ++ Numeral.decimal pid
  | launch path _ => "can't launch process `" ++ path ++ "`"
  | processExited => "process has exited"
  | missingMainModule => "process has no main module"
  | readUnderflow address => "failed to read memory at " ++ address.padded
  | writeUnderflow address => "failed to write memory at " ++ address.padded
  | invalidTime => "process reported an invalid time"
  | addressConversion => "failed to convert number to address"
  | addressFromText => "failed to convert string to address"

/-- The wording of the cause behind an error, if it has one. -/
def source? : Error → Option String
  | system cause => some cause.message
  | parse _ cause => some cause.message
  | openProcess _ cause => some cause.message
  | launch _ cause => some cause.message
  | _ => none

/-- The operating system error number behind an error, if there is one. -/
def osCode? : Error → Option OsCode
  | system cause => cause.osCode?
  | openProcess _ cause => cause.osCode?
  | launch _ cause => cause.osCode?
  | _ => none

/-- The diagnostics of finding an error out: an address expression is read to see what is wrong with
it. -/
def notes : Error → List LogRecord
  | parse token _ => Entry.parseNotes token
  | _ => []

/-- The error for an operating system error number and its text. -/
def ofOsCode (code : OsCode) (text : String := code.description) : Error :=
  .system (.os code text)

end Error

/-! ## Addresses -/

namespace Address

/-- Reads an address from hexadecimal digits. -/
def parse (text : String) : Except Error Address :=
  match ofHex? text.toList with
  | some a => .ok a
  | none => .error .addressFromText

/-- The address as a pointer of the host, which has to be wide enough for it. -/
def toPointer (host : PointerWidth) (a : Address) : Except Error Address :=
  if host.holds a then .ok a else .error .addressConversion

end Address

end MemWatch
