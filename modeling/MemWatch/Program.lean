/-
# The program

A run of the whole program: the command line is read, the process is attached to, and it is then
either summarised or watched.  What the user sees is the exit code, the output, and the diagnostics
together with the words about failures.
-/
import MemWatch.CommandLine.Options
import MemWatch.CommandLine.Usage
import MemWatch.Monitor
import MemWatch.ProcessHandle.Attached
import MemWatch.ProcessHandle.Find
import MemWatch.Summary.Basic
import MemWatch.Text.TerminalSafe

namespace MemWatch

/-! ## Exit codes -/

/-- How a run of the program ended. -/
inductive ExitCode where
  | success
  | noArguments
  | invalidArguments
  | noProcess
  | help
  | accessError
deriving DecidableEq, Repr

namespace ExitCode

/-- The number of an exit code. -/
def toNat : ExitCode → Nat
  | success => 0
  | noArguments => 1
  | invalidArguments => 2
  | noProcess => 3
  | help => 4
  | accessError => 5

/-- The exit code for an error: the command line was wrong, there is no process to watch, or the
process could not be accessed. -/
def ofError : Error → ExitCode
  | .invalidArguments _ => invalidArguments
  | .invalidProcessId _ => invalidArguments
  | .launchProcessId => invalidArguments
  | .parse _ _ => invalidArguments
  | .referenceOutOfRange _ _ _ => invalidArguments
  | .referenceCycle _ => invalidArguments
  | .processNotFound _ => noProcess
  | .openProcess _ _ => noProcess
  | .launch _ _ => noProcess
  | .processExited => noProcess
  | .unsupported => noProcess
  | _ => accessError

end ExitCode

/-! ## Where a run takes place -/

/-- What the program finds around itself. -/
inductive Host where
  /-- Processes are out of reach. -/
  | bare
  /-- Processes of a machine can be attached to, and the output may go to a terminal. -/
  | machine (m : Machine) (terminal : Bool := false)

/-- What a run of the program leaves behind. -/
structure Outcome where
  code : ExitCode
  output : Sink := {}
  /-- The words for the user apart from the output. -/
  errors : String := ""
  host : Host

namespace Program

/-! ## Words about failures -/

/-- A line of text. -/
def line (text : String) : String :=
  text ++ "\n"

/-- The line about the cause of something. -/
def causeLine (text : String) : String :=
  line ("Caused by: " ++ text)

/-- The lines about the cause behind an error. -/
def sourceLines (e : Error) : String :=
  match e.source? with
  | some text => causeLine text
  | none => ""

/-- The lines about an error. -/
def errorLines (e : Error) : String :=
  line e.message ++ sourceLines e

/-- The lines about a process that could not be attached to. -/
def attachLines (spec : ProcessSpec) (e : Error) : String :=
  line ("can't attach to process `" ++ spec.text ++ "`") ++ causeLine e.message ++ sourceLines e

/-- The words about a summary with properties left out. -/
def problemLine : String :=
  line ("There were problems accessing some properties. " ++
    "This process might not be usable for memory accesses.")

/-! ## Diagnostics -/

/-- A record is shown: warnings always, the others on request. -/
def isShown (verbose : Bool) (r : LogRecord) : Bool :=
  verbose || r.level = .warn

/-- A record as it is shown: it may quote anything, so nothing in it is left for a terminal to obey. -/
def recordLine (r : LogRecord) : String :=
  line (Text.terminalSafe r.line)

/-- The lines of the records that are shown. -/
def logLines (verbose : Bool) (log : List LogRecord) : String :=
  String.join ((log.filter (isShown verbose)).map recordLine)

/-! ## Work on a process -/

/-- What the work on a process came to: the exit code or the failure, the output, and words for the
user that follow the diagnostics. -/
structure Result where
  code : Except Error ExitCode
  output : Sink := {}
  words : String := ""

/-- Summarises the process. -/
def summarizeProcess (now : Instant) : Action Attached Result := do
  match ← summarize now {} with
  | (.error e, output) => return { code := .error e, output }
  | (.ok true, output) => return { code := .ok .success, output }
  | (.ok false, output) => return { code := .ok .accessError, output, words := problemLine }

/-- The name to show for the process; if it cannot be had, the text that it was named by. -/
def displayName (spec : ProcessSpec) : Action Attached String := do
  match ← (ask Described.name).outcome with
  | .ok name => return name
  | .error e =>
    record (.warn ("can't get the name of the process: " ++ e.message))
    return spec.text

/-- The line above the entries. -/
def header (name : String) (pid : ProcessId) : String :=
  name ++ "(" ++ Numeral.decimal pid ++ ")"

/-- The monitor of a watch.  On a terminal every cycle is drawn over the one before, unless there is
only one. -/
def monitorFor (o : Options) (entries : EntrySet) (terminal : Bool) (header : String) : Monitor :=
  ({ entries } : Monitor).withHeader header
    |>.withOnce o.once
    |>.withRedraw (!o.once && terminal)
    |>.withCancel {}

/-- Watches the process until the monitor stops. -/
def watchProcess (o : Options) (entries : EntrySet) (terminal : Bool) : Action Attached Result := do
  let name ← displayName o.process
  let s ← get
  let monitor := monitorFor o entries terminal (header name s.target.process.pid)
  let p ← monitor.run {}
  match p.result with
  | .error e => return { code := .error e, output := p.out }
  | .ok _ =>
    record (.debug ("stopped after " ++ Numeral.decimal p.monitor.cycles ++ " cycles"))
    return { code := .ok .success, output := p.out }

/-- Works on an attached process, if it still runs. -/
def serve (o : Options) (entries : EntrySet) (now : Instant) (terminal : Bool) :
    Action Attached Result := do
  if ← isAlive then
    if entries.isEmpty then summarizeProcess now else watchProcess o entries terminal
  else
    return { code := .error .processExited }

/-! ## Attaching -/

/-- Gets hold of the process that a specification names. -/
def openProcess : ProcessSpec → Attempt Machine ProcessHandle
  | .id pid => ProcessHandle.openFull pid
  | .name name => ProcessHandle.find name
  | .launch path => ProcessHandle.launch path

/-- What getting hold of a process comes to where processes are out of reach. -/
def openBare (_ : ProcessSpec) : Except Error ProcessHandle :=
  .error .unsupported

/-- Attaches to the process, works on it, and closes it; only then a failure is reported. -/
def runOnMachine (o : Options) (entries : EntrySet) (now : Instant) (terminal : Bool) :
    Action Machine (ExitCode × Sink × String) := do
  match ← (openProcess o.process).outcome with
  | .error e =>
    let s ← get
    return (.ofError e, {}, logLines o.verbose s.log.toList ++ attachLines o.process e)
  | .ok p =>
    let r ← p.attach (serve o entries now terminal)
    let served ← get
    p.close
    let closed ← get
    let words := logLines o.verbose served.log.toList ++ r.words ++
      logLines o.verbose (closed.log.toList.drop served.log.size)
    match r.code with
    | .ok code => return (code, r.output, words)
    | .error e => return (.ofError e, r.output, words ++ errorLines e)

/-- Runs with options whose addresses were read, after some words for the user. -/
def runWith (o : Options) (entries : EntrySet) (now : Instant) (host : Host) (words : String) :
    Outcome :=
  match host with
  | .bare =>
    match openBare o.process with
    | .error e => { code := .ofError e, errors := words ++ attachLines o.process e, host }
    | .ok _ => { code := .success, errors := words, host }
  | .machine m terminal =>
    let ((code, output, errors), scene) := (runOnMachine o entries now terminal) { target := m }
    { code, output, errors := words ++ errors, host := .machine scene.target terminal }

/-- Runs with options: the addresses are read before anything else is done. -/
def runOptions (o : Options) (now : Instant) (host : Host) : Outcome :=
  let words := logLines o.verbose
    (.debug ("options: " ++ o.text) :: EntrySet.parseNotes o.addresses)
  match EntrySet.parse o.addresses with
  | .error e => { code := .ofError e, errors := words ++ errorLines e, host }
  | .ok entries => runWith o entries now host words

/-- Runs the program with arguments that start with its own name. -/
def run (args : List String) (now : Instant) (host : Host) : Outcome :=
  match Request.parse args with
  | .error e => { code := .ofError e, errors := errorLines e, host }
  | .ok .noArguments => { code := .noArguments, errors := line usage, host }
  | .ok .help => { code := .help, errors := line usage, host }
  | .ok (.run o) => runOptions o now host

end Program

end MemWatch
