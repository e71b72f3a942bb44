/-
# Switches

The three switches, each with a long form and short ones.  Short and upper-case forms are replaced
by the long form before anything else is looked at.
-/
import MemWatch.Text.Case

namespace MemWatch

/-- A switch. -/
inductive Switch where
  /-- Show the usage. -/
  | help
  /-- Show diagnostics. -/
  | verbose
  /-- Run a single cycle. -/
  | once
deriving DecidableEq, Repr

namespace Switch

/-- All switches. -/
def all : List Switch :=
  [help, verbose, once]

/-- The name of a switch, without the dashes. -/
def name : Switch → String
  | help => "help"
  | verbose => "verbose"
  | once => "once"

/-- The long form of a switch. -/
def long (s : Switch) : String :=
  "--" ++ s.name

/-- The forms of a switch in upper case. -/
def forms : Switch → List String
  | help => ["/?", "-?", "-H", "--HELP"]
  | verbose => ["/V", "-V", "--VERBOSE"]
  | once => ["/O", "-O", "--ONCE"]

/-- The switch with the given name. -/
def ofName? (name : String) : Option Switch :=
  all.find? fun s => s.name = name

/-- The switch that an argument is a form of, in either case. -/
def ofForm? (arg : String) : Option Switch :=
  all.find? fun s => (Text.upper arg) ∈ s.forms

/-- The argument with a form of a switch replaced by the long form. -/
def normalize (arg : String) : String :=
  match ofForm? arg with
  | some s => s.long
  | none => arg

end Switch

end MemWatch
