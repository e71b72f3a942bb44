/-
# Options

Reading a command line.  Switches may stand anywhere up to an argument `--`; all other arguments
count by their position: the first one is the process, and the rest are address expressions.
-/
import MemWatch.CommandLine.ProcessSpec
import MemWatch.CommandLine.Switch
import MemWatch.Text.Quoted

namespace MemWatch

/-! ## Arguments -/

/-- What an argument is. -/
inductive Argument where
  /-- A switch. -/
  | switch (s : Switch)
  /-- Something that looks like a switch and is none, as it is shown to the user. -/
  | unexpected (shown : String)
  /-- The mark behind which no switches follow. -/
  | endOfSwitches
  /-- Anything else. -/
  | positional (text : String)
deriving DecidableEq, Repr

namespace Argument

/-- The name in an argument that starts with two dashes: without any leading dashes, and without an
equals sign and what follows it. -/
def switchName (arg : List Char) : List Char :=
  (arg.dropWhile (· = '-')).takeWhile (· ≠ '=')

/-- Classifies a normalized argument. -/
def classify (arg : String) : Argument :=
  match arg.toList with
  | ['-', '-'] => endOfSwitches
  | '-' :: '-' :: _ =>
    let name := String.ofList (switchName arg.toList)
    match Switch.ofName? name with
    | some s => switch s
    | none => unexpected ("--" ++ name)
  | '-' :: c :: _ => unexpected (String.ofList ['-', c])
  | _ => positional arg

end Argument

/-! ## Command lines -/

/-- The switches and the positional arguments of a command line, in order. -/
structure CommandLine where
  switches : List Switch
  positionals : List String
deriving DecidableEq, Repr

namespace CommandLine

/-- Sorts normalized arguments; the first one that cannot stand where it does is an error. -/
def scan : List String → Except UsageError CommandLine
  | [] => .ok ⟨[], []⟩
  | arg :: rest =>
    match Argument.classify arg with
    | .endOfSwitches => .ok ⟨[], rest⟩
    | .unexpected shown => .error (.unexpected shown)
    | .switch s => (scan rest).map fun c => { c with switches := s :: c.switches }
    | .positional text => (scan rest).map fun c => { c with positionals := text :: c.positionals }

/-- A switch that is given more than once. -/
def repeated? (c : CommandLine) : Option Switch :=
  Switch.all.find? fun s => decide (1 < c.switches.count s)

/-- Reads normalized arguments; every switch may be given once. -/
def parse (args : List String) : Except UsageError CommandLine :=
  match scan args with
  | .error e => .error e
  | .ok c =>
    match c.repeated? with
    | some s => .error (.repeated s.name)
    | none => .ok c

end CommandLine

/-! ## Options -/

/-- What a run is to do. -/
structure Options where
  process : ProcessSpec
  verbose : Bool
  once : Bool
  /-- The address expressions in order. -/
  addresses : List String
deriving DecidableEq, Repr

/-- What a command line asks for. -/
inductive Request where
  /-- There were no arguments. -/
  | noArguments
  | help
  | run (options : Options)
deriving DecidableEq, Repr

namespace Options

/-- The options of a command line that does not ask for help. -/
def ofCommandLine (c : CommandLine) : Except Error Options :=
  match c.positionals with
  | [] => .error (.invalidArguments .noProcess)
  | process :: addresses =>
    (ProcessSpec.parse process).map fun process =>
      { process
        verbose := c.switches.contains .verbose
        once := c.switches.contains .once
        addresses }

/-! ### Diagnostics -/

/-- The process specification in the diagnostics of the options. -/
def processText : ProcessSpec → String
  | .id pid => "Id(" ++ Numeral.decimal pid ++ ")"
  | .name text => "Name(" ++ Text.quoted text ++ ")"
  | .launch path => "Launch(" ++ Text.quoted path ++ ")"

/-- The word for a truth value in diagnostics. -/
def truthText (b : Bool) : String :=
  if b then "true" else "false"

/-- The options as they are shown in diagnostics. -/
def text (o : Options) : String :=
  "Opts \x7b process: " ++ processText o.process ++ ", verbose: " ++ truthText o.verbose ++
    ", once: " ++ truthText o.once ++ ", addresses: [" ++
    String.intercalate ", " (o.addresses.map Text.quoted) ++ "] \x7d"

end Options

namespace Request

/-- Reads a command line that starts with the name of the program. -/
def parse (args : List String) : Except Error Request :=
  match args with
  | [] => .ok .noArguments
  | [_] => .ok .noArguments
  | _ :: args =>
    match CommandLine.parse (args.map Switch.normalize) with
    | .error e => .error (.invalidArguments e)
    | .ok c =>
      if c.switches.contains .help then .ok .help
      else (Options.ofCommandLine c).map .run

end Request

end MemWatch
